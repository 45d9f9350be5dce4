import Provision.Proofs.Unseen

/-!
# Pages that are reserved

A reservation reads how many pages its pool holds, asks for as many as it wants when
these will not do, and reads back what it got.  When the last reading fails, the pool
stays as it is by then, and nothing is noted.  What was read back is held against the
least that is required only, although a pool from which pages in use could not be taken
may hold more than was asked for.  Such a reservation succeeds, and is made once more the
next time.

Main results:

- `Reserving.told_reserve`, `Reserving.pages_kept_or_unseen`: a reservation that fails
  without a shortfall leaves the pools as they were, or has resized its pool unseen.
- `Reserving.delivers_reserve`: what a reservation that succeeds leaves in the pool.
- `Reserving.reserve_delivers`: a reservation, the same one made once more, and its mark
  in a plan.
-/

namespace Provision

open StoreTerms World

/-- A host on which reading changes nothing. -/
def StoreHandler.Steady {σ : Type} (store : StoreHandler σ) : Prop :=
  ∀ call s, call.writes = false → (store call s).2 = s

namespace Reserving

/-! ## Reservations that fail -/

variable {errors : Error → Prop} {h : SimHost}

/-- What a reservation that fails tells: the host is as it was, or the pool was resized, which was
not seen or fell short. -/
def Told (r : Reservation) (errors : Error → Prop) (before : SimHost) (new : CallLog)
    (after : SimHost) : Except Error (Option Change) → Prop
  | .ok _ => True
  | .error e =>
    (after = before ∧ errors e ∧ ¬ new.Unseen (.setPageCount r.pool r.count) (.pageCount r.pool)) ∨
      (SimHost.answer (.setPageCount r.pool r.count) before = (.ok (), after) ∧
        ((errors e ∧ new.Unseen (.setPageCount r.pool r.count) (.pageCount r.pool)) ∨
          e = .insufficientPages r.pageKb r.pool.place r.count r.required
              (after.reservedPages r.pool) ∧
            after.reservedPages r.pool < r.required))

/-- Only the reading after the resizing can fail without being told of. -/
theorem told_reserve (r : Reservation) (ordinary : ∀ e, e.isShortfall = false → errors e) :
    HostProg.Ensures (logging (SimHost.failsWith errors)) free (reserve r).run (h, [])
      fun result s' => Told r errors h s'.2 s'.1 result := by
  rw [ensures_reserve]
  apply SimHost.asks_failsWith
  · exact fun e kind => .inl ⟨rfl, kind, CallLog.not_unseen (by simp)⟩
  · rintro mounted ⟨⟩
    show if h.isMounted r.mountPath then _ else _
    by_cases mounted : h.isMounted r.mountPath
    · rw [if_pos mounted]
      apply SimHost.asks_failsWith
      · exact fun e kind => .inl ⟨rfl, kind, CallLog.not_unseen (by simp)⟩
      · intro previous _
        show if r.isMetBy previous then _ else _
        by_cases met : r.isMetBy previous
        · rw [if_pos met]
          trivial
        · rw [if_neg met, ensures_resize]
          apply SimHost.asks_failsWith
          · exact fun e kind => .inl ⟨rfl, kind, CallLog.not_unseen (by simp)⟩
          · intro _ (replied : (SimHost.answer (.setPageCount r.pool r.count) h).1 = .ok ())
            have set : SimHost.answer (.setPageCount r.pool r.count) h =
                (.ok (), (SimHost.answer (.setPageCount r.pool r.count) h).2) :=
              Prod.ext replied rfl
            apply SimHost.asks_failsWith
            · exact fun e kind => .inr ⟨set, .inl ⟨kind, ⟨[_, _], [], rfl⟩⟩⟩
            · intro granted read
              obtain ⟨_, pool, found, rfl⟩ := SimHost.readPages_eq_ok_iff.1 read
              have holds :
                  (SimHost.answer (.setPageCount r.pool r.count) h).2.reservedPages r.pool =
                    pool.reserved := by
                unfold SimHost.reservedPages
                rw [show (SimHost.answer _ h).2.pools.get? r.pool = some pool from found]
                rfl
              show Told r errors h _ _ ((judge r previous pool.reserved).map some)
              unfold judge
              split
              · next short =>
                rw [← holds] at short ⊢
                exact .inr ⟨set, .inr ⟨rfl, short⟩⟩
              · trivial
    · rw [if_neg mounted]
      exact .inl ⟨rfl, ordinary _ rfl, CallLog.not_unseen (by simp)⟩

/-- On a host on which calls fail, a reservation that fails without a shortfall leaves the host as
it was, unless the pool was resized and the reading after it failed; then it stays resized.  A
shortfall that no failing call reports is told of as it is: the pool holds what was granted, and
that is below what is required. -/
theorem pages_kept_or_unseen (fails : Nat → Option Error) (clock : Nat → Nat)
    (w : World (SimHost × Nat)) (r : Reservation) (e : Error)
    (failed : (Prog.run (World.handler (.unreliable SimHost.answer fails) clock)
      (reserve r).run w).1 = .error e) :
    let store := StoreHandler.unreliable SimHost.answer fails
    let after := (Prog.run (World.handler store clock) (reserve r).run w).2.host.1
    let log := World.log (storeEvents (Prog.calls (World.handler store clock) (reserve r).run w))
    (e.isShortfall = false →
      (¬ log.Unseen (.setPageCount r.pool r.count) (.pageCount r.pool) → after = w.host.1) ∧
      (log.Unseen (.setPageCount r.pool r.count) (.pageCount r.pool) →
        SimHost.answer (.setPageCount r.pool r.count) w.host.1 = (.ok (), after))) ∧
    (e.isShortfall = true → (∀ place, fails place ≠ some e) →
      ∃ granted, e = .insufficientPages r.pageKb r.pool.place r.count r.required granted ∧
        after.reservedPages r.pool = granted ∧ granted < r.required ∧
        SimHost.answer (.setPageCount r.pool r.count) w.host.1 = (.ok (), after)) := by
  intro store after log
  -- a shortfall is none of the errors of the host, so only a failing call can report one
  let reported (e : Error) : Prop := e.isShortfall = true → ∃ place, fails place = some e
  have answers (call : StoreCall) (t : SimHost × Nat) :
      SimHost.failsWith reported call t.1 (store call t).1 (store call t).2.1 := by
    refine ⟨StoreHandler.answer_unreliable .., fun e failed short => ?_⟩
    obtain ⟨h, place⟩ := t
    cases hplace : fails place with
    | none =>
      have own : (SimHost.answer call h).1 = .error e := by
        simpa [store, StoreHandler.unreliable, hplace] using failed
      rw [SimHost.isShortfall_of_error own] at short
      cases short
    | some e' =>
      have same : e' = e := by simpa [store, StoreHandler.unreliable, hplace] using failed
      exact ⟨place, same ▸ hplace⟩
  have ordinary (e : Error) (plain : e.isShortfall = false) : reported e := fun short =>
    absurd short (by simp [plain])
  have told := (told_reserve r ordinary).of_logging [] clock w Prod.fst answers
  rw [failed] at told
  rcases told with ⟨same, kind, seen⟩ | ⟨set, ⟨kind, unseen⟩ | ⟨rfl, short⟩⟩
  · refine ⟨fun _ => ⟨fun _ => same, fun unseen => absurd unseen seen⟩, fun short silent => ?_⟩
    obtain ⟨place, hplace⟩ := kind short
    exact absurd hplace (silent place)
  · refine ⟨fun _ => ⟨fun seen => absurd unseen seen, fun _ => set⟩, fun short silent => ?_⟩
    obtain ⟨place, hplace⟩ := kind short
    exact absurd hplace (silent place)
  · exact ⟨nofun, fun _ _ => ⟨_, rfl, rfl, short, set⟩⟩

/-- 64 large pages. -/
def largePages : Reservation := ⟨2048, none, 64, none, ⟨"/mnt/huge"⟩⟩

/-- The machine with two controllers, with hugetlbfs mounted and a pool that grants 32 pages. -/
def smallPool : SimHost :=
  (Topology.twoNics.addMount largePages.mountPath).addPool Topology.largePages 0 32

/-- A small pool keeps what it granted, and stays as it was when it cannot be resized. -/
theorem smallPool_kept_or_short :
    let start : World (SimHost × Nat) := { host := (smallPool, 0) }
    let granting := World.handler (.unreliable SimHost.answer fun _ => none) fun _ => 0
    let refusing := World.handler (.unreliable SimHost.answer (SimHost.failingAt 2)) fun _ => 0
    (∃ granted, (Prog.run granting (reserve largePages).run start).1 =
        .error (.insufficientPages 2048 "all nodes" 64 64 granted) ∧
      (Prog.run granting (reserve largePages).run start).2.host.1.reservedPages
        Topology.largePages = granted ∧ granted < 64) ∧
    (Prog.run refusing (reserve largePages).run start).2.host.1 = smallPool := by
  intro start granting refusing
  constructor
  · obtain ⟨e, failed, short⟩ : ∃ e, (Prog.run granting (reserve largePages).run start).1 =
        .error e ∧ e.isShortfall = true := ⟨_, rfl, rfl⟩
    obtain ⟨granted, rfl, holds, below, _⟩ := (pages_kept_or_unseen (fun _ => none) (fun _ => 0)
      start largePages e failed).2 short nofun
    exact ⟨granted, failed, holds, below⟩
  · obtain ⟨e, failed, plain⟩ : ∃ e, (Prog.run refusing (reserve largePages).run start).1 =
        .error e ∧ e.isShortfall = false := ⟨_, rfl, rfl⟩
    exact ((pages_kept_or_unseen (SimHost.failingAt 2) (fun _ => 0) start largePages e failed).1
      plain).1 (CallLog.not_unseen (by decide +kernel))

/-- A reservation fails, not for want of pages, and the pool holds 64 pages where it held none. -/
theorem twoNics_left_with_pages :
    let h := Topology.twoNics.addMount largePages.mountPath
    let ending := Prog.run (World.handler (.unreliable SimHost.answer (SimHost.failingAt 3))
      fun _ => 0) (reserve largePages).run { host := (h, 0) }
    (∃ e, ending.1 = .error e ∧ e.isShortfall = false) ∧
      h.reservedPages Topology.largePages = 0 ∧
      ending.2.host.1.reservedPages Topology.largePages = 64 :=
  ⟨⟨_, rfl, rfl⟩, rfl, rfl⟩

/-! ## Reservations that succeed -/

section Delivered

variable {σ : Type} {store : StoreHandler σ} {r : Reservation}

/-- What a reservation that succeeds leaves in the pool: under the mount there are the pages that
were there before and will do, or the pages that were there after more were asked for, which are
not fewer than required. -/
def Delivered (store : StoreHandler σ) (r : Reservation) (change : Option Change)
    (before after : σ) (n : Nat) : Prop :=
  (store (.isMounted r.mountPath) before).1 = .ok true ∧
    (store (.pageCount r.pool) after).1 = .ok n ∧ r.required ≤ n ∧
    ((change = none ∧ after = before ∧ n ≤ r.count) ∨
      ∃ previous, change = some (.reserved r.pool previous) ∧
        (store (.pageCount r.pool) before).1 = .ok previous ∧
        store (.setPageCount r.pool r.count) before = (.ok (), after))

/-- On a host that is left alone by being read, a reservation that succeeds leaves what it is to
leave. -/
theorem delivers_reserve (steady : store.Steady) (s : σ) :
    HostProg.Ensures (of store) free (reserve r).run s fun result s' =>
      ∀ change, result = .ok change → ∃ n, Delivered store r change s s' n := by
  rw [ensures_reserve, asks_of, steady _ _ rfl]
  refine ⟨trivial, ?_⟩
  cases there : (store (.isMounted r.mountPath) s).1 with
  | error e => exact nofun
  | ok mounted =>
    cases mounted with
    | false => exact nofun
    | true =>
      show Asks (of store) free (.pageCount r.pool) s _
      rw [asks_of, steady _ _ rfl]
      refine ⟨trivial, ?_⟩
      cases read : (store (.pageCount r.pool) s).1 with
      | error e => exact nofun
      | ok previous =>
        show if r.isMetBy previous then _ else _
        by_cases met : r.isMetBy previous
        · rw [if_pos met]
          obtain ⟨least, most⟩ := (r.isMetBy_iff previous).1 met
          rintro change ⟨⟩
          exact ⟨previous, there, read, least, .inl ⟨rfl, rfl, most⟩⟩
        · rw [if_neg met, ensures_resize]
          rintro reply s' asked
          refine ⟨trivial, ?_⟩
          cases reply with
          | error e => exact nofun
          | ok _ =>
            show Asks (of store) free (.pageCount r.pool) s' _
            rw [asks_of, steady _ _ rfl]
            refine ⟨trivial, ?_⟩
            cases granted : (store (.pageCount r.pool) s').1 with
            | error e => exact nofun
            | ok n =>
              intro change (judged : (judge r previous n).map some = .ok change)
              cases accepted : judge r previous n with
              | error e =>
                rw [accepted] at judged
                cases judged
              | ok ch =>
                rw [accepted] at judged
                cases judged
                obtain ⟨rfl, least⟩ := judge_eq_ok accepted
                exact ⟨n, there, granted, least, .inr ⟨previous, rfl, read, asked⟩⟩

/-! ## Reservations that are made once more -/

/-- A reservation is passed over when the pool will do as it is, and resizes it otherwise. -/
theorem again_reserve (steady : store.Steady) {s : σ} {n : Nat}
    (mounted : (store (.isMounted r.mountPath) s).1 = .ok true)
    (read : (store (.pageCount r.pool) s).1 = .ok n) :
    HostProg.Ensures (logging (of store)) free (reserve r).run (s, []) fun result s' =>
      if r.isMetBy n then
        result = .ok none ∧ s'.1 = s ∧ ∀ entry ∈ s'.2, entry.1.writes = false
      else
        result ≠ .ok none ∧ ∃ succeeded, (.setPageCount r.pool r.count, succeeded) ∈ s'.2 := by
  rw [ensures_reserve, asks_logging, asks_of, steady _ _ rfl, mounted]
  refine ⟨trivial, ?_⟩
  show Asks (logging (of store)) free (.pageCount r.pool) (s, _) _
  rw [asks_logging, asks_of, steady _ _ rfl, read]
  refine ⟨trivial, ?_⟩
  show if r.isMetBy n then _ else _
  by_cases met : r.isMetBy n
  · rw [if_pos met, if_pos met]
    exact ⟨rfl, rfl, by simp [StoreCall.writes]⟩
  · simp only [if_neg met]
    have changed (result : Except Error Change) : result.map some ≠ .ok none := by
      cases result <;> simp [Except.map]
    rw [ensures_resize, asks_logging]
    rintro reply s' -
    refine ⟨trivial, ?_⟩
    cases reply with
    | error e => exact ⟨changed _, false, by simp [Except.isOk, Except.toBool]⟩
    | ok _ =>
      show Asks (logging (of store)) free (.pageCount r.pool) (s', _) _
      rw [asks_logging]
      rintro reply s'' -
      refine ⟨trivial, ?_⟩
      cases reply with
      | error e => exact ⟨changed _, true, by simp [Except.isOk, Except.toBool]⟩
      | ok granted => exact ⟨changed _, true, by simp [Except.isOk, Except.toBool]⟩

end Delivered

end Reserving

/-! ## Plans for reserved pages -/

section Surveyed

variable {σ : Type} {store : StoreHandler σ} {s : σ}

namespace Survey

theorem steady_modules (steady : store.Steady) (ms : List ModuleRequest) (v : HostView) :
    HostProg.Ensures (of store) free (modules ms v) s fun _ s' => s' = s := by
  induction ms generalizing v with
  | nil => exact rfl
  | cons m ms ih =>
    rw [ensures_modules_cons, asks_of, steady _ _ rfl]
    exact ⟨trivial, ih _⟩

theorem steady_drivers (steady : store.Steady) (devices : List PciAddress) (v : HostView) :
    HostProg.Ensures (of store) free (drivers devices v) s fun v' _ =>
      v'.mounts = v.mounts ∧ v'.pools = v.pools := by
  induction devices generalizing v with
  | nil => exact ⟨rfl, rfl⟩
  | cons a rest ih =>
    rw [ensures_drivers_cons, asks_of, steady _ _ rfl]
    exact ⟨trivial, ih _⟩

/-- A survey shows the mount and the pool as they are read. -/
theorem shows_pages (steady : store.Steady) (ms : List ModuleRequest) (r : Reservation)
    (devices : List PciAddress) :
    HostProg.Ensures (of store) free (take ms (some r) devices) s fun v _ =>
      v.mounts.find? r.mountPath = some (.ofResult (store (.isMounted r.mountPath) s).1) ∧
        v.pools.get? r.pool = some (.ofResult (store (.pageCount r.pool) s).1) := by
  rw [ensures_take]
  apply (steady_modules steady ms {}).mono
  rintro v _ rfl
  rw [ensures_pages, asks_of, steady _ _ rfl]
  refine ⟨trivial, ?_⟩
  rw [asks_of, steady _ _ rfl]
  refine ⟨trivial, (steady_drivers steady devices _).mono fun v' _ kept => ?_⟩
  rw [kept.1, kept.2]
  exact ⟨PathMap.find?_put_self .., SortedMap.get?_insert_self ..⟩

end Survey

/-- The reservation of a plan is marked as the survey shows the mount and the pool. -/
theorem Plan.satisfied_reserve {v : HostView} {g : SetupGoal} {planned : PlannedStep}
    (hplanned : planned ∈ setupSteps v g) (reserves : planned.step = .reserve g.pages) :
    planned.satisfied = (v.hasMount g.pages && v.hasPages g.pages) := by
  unfold setupSteps at hplanned
  simp only [List.mem_append, List.mem_map, List.mem_cons, List.not_mem_nil, or_false] at hplanned
  rcases hplanned with (⟨m, -, rfl⟩ | rfl | rfl) | ⟨a, -, rfl⟩
  · cases reserves
  · cases reserves
  · rfl
  · cases reserves

end Surveyed

namespace Reserving

/-- A reservation that succeeds leaves as many pages as are required or more.  When these are not
more than it asked for, they will do: the same reservation made once more says so and makes no
changing call, and a plan marks it as satisfied.  When they are more, the same reservation resizes
the pool once more, and a plan does not mark it. -/
theorem reserve_delivers {σ : Type} (store : StoreHandler σ) (r : Reservation)
    (steady : store.Steady)
    (apart : ∀ s, (store (.isMounted r.mountPath) (store (.setPageCount r.pool r.count) s).2).1 =
      (store (.isMounted r.mountPath) s).1)
    (clock : Nat → Nat) (w : World σ) (change : Option Change)
    (fine : (Prog.run (World.handler store clock) (reserve r).run w).1 = .ok change) :
    let handler := World.handler store clock
    let after := (Prog.run handler (reserve r).run w).2
    let again := Prog.run handler (reserve r).run after
    let calls := World.log (storeEvents (Prog.calls handler (reserve r).run after))
    ∃ n, (store (.pageCount r.pool) after.host).1 = .ok n ∧ r.required ≤ n ∧
      (r.isMetBy n = true ↔ n ≤ r.count) ∧
      ((change = none ∧ after.host = w.host ∧ n ≤ r.count) ∨
        ∃ previous, change = some (.reserved r.pool previous) ∧
          (store (.pageCount r.pool) w.host).1 = .ok previous ∧
          store (.setPageCount r.pool r.count) w.host = (.ok (), after.host)) ∧
      (n ≤ r.count → again.1 = .ok none ∧ again.2.host = after.host ∧
        ∀ entry ∈ calls, entry.1.writes = false) ∧
      (r.count < n → again.1 ≠ .ok none ∧
        ∃ succeeded, (.setPageCount r.pool r.count, succeeded) ∈ calls) ∧
      ∀ g : SetupGoal, g.pages = r →
        let survey := Prog.run handler (Survey.take g.modules (some r) g.devices.toList) after
        ∀ planned ∈ Plan.setupSteps survey.1 g, planned.step = .reserve r →
          (planned.satisfied = true ↔ n ≤ r.count) := by
  intro handler after again calls
  obtain ⟨n, there, read, least, how⟩ := (delivers_reserve steady w.host).of_run clock w change fine
  have meets : r.isMetBy n = true ↔ n ≤ r.count := by
    rw [r.isMetBy_iff]
    exact and_iff_right least
  have mounted : (store (.isMounted r.mountPath) after.host).1 = .ok true := by
    rcases how with ⟨-, same, -⟩ | ⟨previous, -, -, asked⟩
    · rw [show after.host = w.host from same, there]
    · have hafter : (store (.setPageCount r.pool r.count) w.host).2 = after.host :=
        congrArg Prod.snd asked
      rw [← hafter, apart, there]
  have second := (again_reserve steady mounted read).of_logging [] clock after id fun _ _ => rfl
  refine ⟨n, read, least, meets, how, fun most => ?_, fun more => ?_, ?_⟩
  · rwa [if_pos (meets.2 most)] at second
  · rwa [if_neg fun met => absurd (meets.1 met) (Nat.not_le.2 more)] at second
  · rintro g rfl survey planned hplanned reserves
    obtain ⟨mount, pool⟩ := (Survey.shows_pages steady g.modules g.pages
      g.devices.toList).of_run clock after
    have hasMount : survey.1.hasMount g.pages = true := by
      unfold HostView.hasMount
      rw [mount, mounted]
      rfl
    have hasPages : survey.1.hasPages g.pages = g.pages.isMetBy n := by
      unfold HostView.hasPages
      rw [pool, read]
      rfl
    rw [Plan.satisfied_reserve hplanned reserves, hasMount, hasPages, Bool.true_and, meets]

/-- 64 large pages, of which 16 will do. -/
def someLargePages : Reservation := { largePages with minCount := some 16 }

/-- A pool that grants fewer pages than it is asked for, but not fewer than required, is left alone
by the same reservation made once more. -/
theorem smallPool_reserved_once :
    let handler := World.handler SimHost.answer fun _ => 0
    let first := Prog.run handler (reserve someLargePages).run { host := smallPool }
    let second := Prog.run handler (reserve someLargePages).run first.2
    first.1 = .ok (some (.reserved Topology.largePages 0)) ∧ second.1 = .ok none ∧
      second.2.host = first.2.host := by
  intro handler first second
  have apart (h : SimHost) : (SimHost.answer (.isMounted someLargePages.mountPath)
      (SimHost.answer (.setPageCount someLargePages.pool someLargePages.count) h).2).1 =
        (SimHost.answer (.isMounted someLargePages.mountPath) h).1 :=
    congrArg Except.ok (h.isMounted_setPages ..)
  have fine : first.1 = .ok (some (.reserved Topology.largePages 0)) := rfl
  obtain ⟨n, read, -, -, -, most, -⟩ := reserve_delivers SimHost.answer someLargePages
    (fun _ h reads => SimHost.answer_of_read reads h) apart (fun _ => 0) { host := smallPool }
    (some (.reserved Topology.largePages 0)) fine
  obtain rfl : 32 = n := Except.ok.inj read
  exact ⟨fine, (most (by decide)).1, (most (by decide)).2.1⟩

/-- A simulated host on which all pages of the pools are in use, so that no pool becomes smaller. -/
def answerInUse : StoreHandler SimHost
  | .setPageCount p count, h => h.setPages p (max count (h.reservedPages p))
  | call, h => SimHost.answer call h

/-- A pool that keeps more pages than it is asked for is resized once more by the same reservation,
and is never marked as satisfied. -/
theorem fullPool_resized_again :
    let full :=
      (Topology.twoNics.addMount largePages.mountPath).addPool Topology.largePages 128 4096
    let handler := World.handler answerInUse fun _ => 0
    let first := Prog.run handler (reserve largePages).run { host := full }
    let second := Prog.run handler (reserve largePages).run first.2
    let survey := Prog.run handler (Survey.take [] (some largePages) []) first.2
    first.1 = .ok (some (.reserved Topology.largePages 128)) ∧
      first.2.host.reservedPages Topology.largePages = 128 ∧ largePages.isMetBy 128 = false ∧
      second.1 = .ok (some (.reserved Topology.largePages 128)) ∧
      second.2.host.changes = first.2.host.changes ++ [.setPageCount Topology.largePages 128] ∧
      survey.1.hasPages largePages = false :=
  ⟨rfl, rfl, rfl, rfl, rfl, rfl⟩

end Reserving

end Provision
