import Provision.Proofs.Bookkeeping
import Provision.Proofs.FixedPoint
import Provision.Proofs.Mirror

/-!
# What a setup makes of a host

What each step makes of a host, if it can be made there, and what the steps of a goal make
of it one after the other.  A setup without a deadline that finds its devices is committed
exactly when its steps can be made, and leaves what they make.  The steps that it passes
over make nothing of the host.

Main results:

- `Setup.made_apply`: one step.
- `Setup.made_applyFrom`: the steps in order.
- `Setup.made_run`: when a setup is committed, and the host that it leaves.
-/

namespace Provision

open StoreTerms CatalogProg

/-! ## What steps make of a host -/

namespace SimHost

/-- The host after a call, if the call succeeds. -/
def after (call : StoreCall) (h : SimHost) : Option SimHost :=
  if (answer call h).1.isOk then some (answer call h).2 else none

/-- The host with a module loaded as requested. -/
def requiring (m : ModuleRequest) (h : SimHost) : Option SimHost :=
  if (h.readModule m.name).loaded then
    if m.satisfiedBy (h.readModule m.name) then some h else none
  else h.after (.loadModule m)

/-- The host with hugetlbfs mounted. -/
def mounting (r : Reservation) (h : SimHost) : Option SimHost :=
  if h.isMounted r.mountPath then some h else h.after (.mount r.mountPath r.pageKb)

/-- Whether a pool can be read and holds no fewer pages than required. -/
def grants (r : Reservation) (h : SimHost) : Bool :=
  match h.readPages r.pool with
  | .ok n => r.required ≤ n
  | .error _ => false

/-- The host with an acceptable number of pages reserved. -/
def reserving (r : Reservation) (h : SimHost) : Option SimHost :=
  if h.isMounted r.mountPath then
    match h.readPages r.pool with
    | .ok n =>
      if r.isMetBy n then some h else (h.after (.setPageCount r.pool r.count)).filter (grants r)
    | .error _ => none
  else none

/-- The host with the driver of a device on record, unless the device has a record or the driver
hands devices to user space. -/
def recording (passthrough : SortedSet String) (a : PciAddress) (driver : String) (h : SimHost) :
    SimHost :=
  if passthrough.contains driver || (h.homes.get? a).isSome then h
  else (answer (.setHome a driver) h).2

/-- The host with a device unbound. -/
def releasing (passthrough : SortedSet String) (a : PciAddress) :
    Option String → SimHost → Option SimHost
  | none, h => some h
  | some driver, h => (recording passthrough a driver h).after (.unbind a driver)

/-- The host with a device bound to another driver. -/
def handing (passthrough : SortedSet String) (a : PciAddress) (target : String) (h : SimHost) :
    Option SimHost :=
  match h.readDriver a with
  | .ok current =>
    if current = some target then some h
    else (releasing passthrough a current h).bind (after (.bind a target))
  | .error _ => none

end SimHost

/-- What a step of a setup makes of a host, if it can be made there. -/
def Step.make (passthrough : SortedSet String) : Step → SimHost → Option SimHost
  | .loadModule m => SimHost.requiring m
  | .mount r => SimHost.mounting r
  | .reserve r => SimHost.reserving r
  | .rebind a target => SimHost.handing passthrough a target
  | .restore _ _ => fun _ => none

/-- What the steps of a setup make of a host one after the other. -/
def Step.makeAll (passthrough : SortedSet String) (steps : List Step) (h : SimHost) :
    Option SimHost :=
  steps.foldlM (fun h step => step.make passthrough h) h

variable {α : Type} {h h' : SimHost} {c : Catalog} {g : SetupGoal} {step : Step}
  {passthrough : SortedSet String}

@[simp]
theorem Step.makeAll_nil : Step.makeAll passthrough [] h = some h := rfl

/-- Steps are made one after the other. -/
@[simp]
theorem Step.makeAll_cons (steps : List Step) :
    Step.makeAll passthrough (step :: steps) h =
      (step.make passthrough h).bind (Step.makeAll passthrough steps) := rfl

/-- What was made in two parts was made at once. -/
theorem Step.makeAll_append (steps later : List Step) :
    Step.makeAll passthrough (steps ++ later) h =
      (Step.makeAll passthrough steps h).bind (Step.makeAll passthrough later) :=
  List.foldlM_append ..

/-- A program succeeds where something can be made of a host, and leaves what is made. -/
def Makes {ε : Type} (made : Option SimHost) (result : Except ε α) (h' : SimHost) : Prop :=
  match result with
  | .ok _ => made = some h'
  | .error _ => made = none

/-- What an error says does not count. -/
theorem makes_mapError {ε ε' : Type} {made : Option SimHost} {result : Except ε α} {f : ε → ε'} :
    Makes made (result.mapError f) h' ↔ Makes made result h' := by
  cases result <;> rfl

namespace SimHost

/-- A call that succeeds leaves the host as the call does. -/
theorem after_of_ok {call : StoreCall} {v : call.Value} (replied : (answer call h).1 = .ok v) :
    h.after call = some (answer call h).2 := by
  rw [after, replied]
  rfl

/-- A call that fails leaves no host to go on with. -/
theorem after_of_error {call : StoreCall} {e : Error} (replied : (answer call h).1 = .error e) :
    h.after call = none := by
  rw [after, replied]
  rfl

end SimHost

open SimHost

/-! ## One step -/

/-- Requiring a module makes its step. -/
theorem Loading.made_require (m : ModuleRequest) :
    HostProg.Ensures (of SimHost.answer) free (require m).run h fun result h' =>
      Makes (requiring m h) result h' := by
  rw [ensures_require, asks_of_read rfl]
  show if (h.readModule m.name).loaded then _ else _
  unfold requiring
  by_cases loaded : (h.readModule m.name).loaded
  · rw [if_pos loaded, if_pos loaded]
    have free := conflict?_eq_none_iff (m := m) loaded
    cases conflict : conflict? m (h.readModule m.name) with
    | none => exact if_pos (free.1 conflict)
    | some parameter =>
      refine if_neg fun satisfied => ?_
      cases conflict.symm.trans (free.2 satisfied)
  · rw [if_neg loaded, if_neg loaded, ensures_loadAbsent, asks_of]
    refine ⟨trivial, ?_⟩
    cases replied : (answer (.loadModule m) h).1 with
    | error e => exact after_of_error replied
    | ok _ =>
      rw [asks_of_read rfl]
      show if ((answer (.loadModule m) h).2.readModule m.name).loaded then _ else _
      rw [if_pos (loaded_of_loadModule replied)]
      exact after_of_ok replied

namespace Reserving

/-- Mounting makes the step of a mount. -/
theorem made_mount (r : Reservation) :
    HostProg.Ensures (of SimHost.answer) free (mount r).run h fun result h' =>
      Makes (mounting r h) result h' := by
  rw [ensures_mount, asks_of_read rfl]
  show if h.isMounted r.mountPath then _ else _
  unfold mounting
  by_cases mounted : h.isMounted r.mountPath
  · rw [if_pos mounted, if_pos mounted]
    rfl
  · rw [if_neg mounted, if_neg mounted, asks_of]
    refine ⟨trivial, ?_⟩
    cases replied : (answer (.mount r.mountPath r.pageKb) h).1 with
    | error e => exact after_of_error replied
    | ok _ => exact after_of_ok replied

/-- Reserving makes the step of a pool. -/
theorem made_reserve (r : Reservation) :
    HostProg.Ensures (of SimHost.answer) free (reserve r).run h fun result h' =>
      Makes (reserving r h) result h' := by
  rw [ensures_reserve, asks_of_read rfl]
  show if h.isMounted r.mountPath then _ else _
  unfold reserving
  by_cases mounted : h.isMounted r.mountPath
  · rw [if_pos mounted, if_pos mounted, asks_of_read rfl]
    have count : (answer (.pageCount r.pool) h).1 = h.readPages r.pool := rfl
    rw [count]
    cases h.readPages r.pool with
    | error e => rfl
    | ok previous =>
      dsimp only
      by_cases met : r.isMetBy previous
      · rw [if_pos met, if_pos met]
        rfl
      · rw [if_neg met, if_neg met, ensures_resize, asks_of]
        refine ⟨trivial, ?_⟩
        cases replied : (answer (.setPageCount r.pool r.count) h).1 with
        | error e =>
          rw [after_of_error replied]
          rfl
        | ok _ =>
          rw [after_of_ok replied, Option.filter_some, asks_of_read rfl]
          have granted :
              (answer (.pageCount r.pool) (answer (.setPageCount r.pool r.count) h).2).1 =
                (answer (.setPageCount r.pool r.count) h).2.readPages r.pool := rfl
          unfold grants
          rw [granted]
          cases (answer (.setPageCount r.pool r.count) h).2.readPages r.pool with
          | error e => rfl
          | ok n =>
            dsimp only
            unfold judge
            by_cases few : n < r.required
            · rw [if_pos few, if_neg (by simpa using few)]
              rfl
            · rw [if_neg few, if_pos (by simpa using few)]
              rfl
  · rw [if_neg mounted, if_neg mounted]
    rfl

end Reserving

namespace Binding

/-- The catalog knows no other home driver of a device than the one on record. -/
abbrev Knows (c : Catalog) (h : SimHost) (a : PciAddress) : Prop :=
  ∀ driver, c.home? a = some driver → h.homes.get? a = some driver

/-- Putting a device on record leaves the host with its record, made now or before. -/
theorem made_recordHome {a : PciAddress} (driver : String) (knows : Knows c h a) :
    Ensures (of SimHost.answer) free (Catalog.recordHome a driver).run c h fun result _ h' =>
      (∃ recorded, result = .ok recorded) ∧ h' = recording c.passthrough a driver h := by
  rw [Catalog.ensures_recordHome]
  unfold recording
  by_cases native : c.isPassthrough driver
  · have native' : c.passthrough.contains driver = true := native
    rw [if_pos native, native', Bool.true_or, if_pos rfl]
    exact ⟨⟨_, rfl⟩, rfl⟩
  · have native' : c.passthrough.contains driver = false := Bool.eq_false_iff.2 native
    rw [if_neg native, native', Bool.false_or, Catalog.ensures_homeDriver]
    cases known : c.home? a with
    | some home =>
      rw [knows home known]
      exact ⟨⟨false, rfl⟩, rfl⟩
    | none =>
      rw [asks_of_read rfl]
      have record : (answer (.homeDriver a) h).1 = .ok (h.homes.get? a) := rfl
      rw [record, skipOnError_ok]
      cases h.homes.get? a with
      | some home => exact ⟨⟨false, rfl⟩, rfl⟩
      | none => exact asks_of.2 ⟨trivial, ⟨true, rfl⟩, rfl⟩

/-- Unbinding a device, with its driver on record. -/
theorem made_release {a : PciAddress} (current : Option String) (knows : Knows c h a) :
    Ensures (of SimHost.answer) free (release a current).run c h fun result _ h' =>
      Makes (releasing c.passthrough a current h) result h' := by
  rw [ensures_release]
  cases current with
  | none => rfl
  | some driver =>
    apply (made_recordHome driver knows).mono
    intro result c' h' recorded
    obtain ⟨⟨recorded, rfl⟩, rfl⟩ := recorded
    rw [skipOnError_ok, ensures_detach, asks_of]
    refine ⟨trivial, ?_⟩
    cases replied : (answer (.unbind a driver) (recording c.passthrough a driver h)).1 with
    | ok _ => exact after_of_ok replied
    | error e =>
      cases recorded with
      | false => exact after_of_error replied
      | true => exact asks_of.2 ⟨trivial, after_of_error replied⟩

/-- Handing a device over. -/
theorem made_handOver {a : PciAddress} (target : String) (knows : Knows c h a) :
    Ensures (of SimHost.answer) free (handOver a target).run c h fun result _ h' =>
      Makes (handing c.passthrough a target h) result h' := by
  rw [ensures_handOver, asks_of_read rfl]
  have bound : (answer (.boundDriver a) h).1 = h.readDriver a := rfl
  unfold handing
  rw [bound]
  cases h.readDriver a with
  | error e => rfl
  | ok current =>
    dsimp only
    by_cases already : current = some target
    · rw [if_pos already, if_pos already]
      rfl
    · rw [if_neg already, if_neg already]
      apply (made_release current knows).mono
      intro released c' h' made
      cases released with
      | error e =>
        have none : releasing c.passthrough a current h = none := made
        rw [none]
        rfl
      | ok recorded =>
        have free : releasing c.passthrough a current h = some h' := made
        rw [free, Option.bind_some]
        refine (ensures_attach a target current recorded).2 (asks_of.2 ⟨trivial, ?_⟩)
        cases replied : (answer (.bind a target) h').1 with
        | error e => exact after_of_error replied
        | ok _ => exact after_of_ok replied

end Binding

namespace Setup

/-- A step of a setup that mirrors the host succeeds where it can be made, and leaves what it
makes. -/
theorem made_apply (mine : step ∈ g.steps) (mirrors : c.Mirrors h) :
    Ensures (of SimHost.answer) free (apply step).run c h fun result _ h' =>
      Makes (step.make c.passthrough h) result h' := by
  rcases SetupGoal.mem_steps.1 mine with ⟨m, _, rfl⟩ | rfl | rfl | ⟨a, _, rfl⟩
  · rw [ensures_apply_loadModule]
    exact (Loading.made_require m).mono fun _ _ => makes_mapError.2
  · rw [ensures_apply_mount]
    exact (Reserving.made_mount g.pages).mono fun _ _ => makes_mapError.2
  · rw [ensures_apply_reserve]
    exact (Reserving.made_reserve g.pages).mono fun _ _ => makes_mapError.2
  · refine Binding.made_handOver g.target fun driver home => ?_
    obtain ⟨d, known, record⟩ := Option.bind_eq_some_iff.1 home
    obtain ⟨rfl, mirrored⟩ := mirrors.devices a d known
    exact mirrored.record.trans record

/-- A step that holds makes nothing of the host. -/
theorem make_of_holds (mine : step ∈ g.steps) (holds : step.Holds h) :
    step.make passthrough h = some h := by
  rcases SetupGoal.mem_steps.1 mine with ⟨m, _, rfl⟩ | rfl | rfl | ⟨a, _, rfl⟩
  · have loaded : (h.readModule m.name).loaded = true := (Bool.and_eq_true_iff.1 holds).1
    exact (if_pos loaded).trans (if_pos holds)
  · exact if_pos holds
  · obtain ⟨mounted, n, read, met⟩ := holds
    show reserving g.pages h = some h
    rw [reserving, if_pos mounted, read]
    exact if_pos met
  · have bound : h.readDriver a = .ok (some g.target) := holds
    show handing passthrough a g.target h = some h
    rw [handing, bound]
    exact if_pos rfl

/-- Steps that hold make nothing of the host. -/
theorem makeAll_of_holds {steps : List Step} (mine : ∀ step ∈ steps, step ∈ g.steps)
    (hold : ∀ step ∈ steps, step.Holds h) : Step.makeAll passthrough steps h = some h := by
  induction steps with
  | nil => rfl
  | cons step rest ih =>
    obtain ⟨isMine, areMine⟩ := List.forall_mem_cons.1 mine
    obtain ⟨holds, hold⟩ := List.forall_mem_cons.1 hold
    rw [Step.makeAll_cons, make_of_holds isMine holds, Option.bind_some, ih areMine hold]

/-! ## The steps in order -/

/-- No note about a device changes which drivers hand devices to user space. -/
theorem notesKeep_policy (a : PciAddress) (passthrough : SortedSet String) :
    NotesKeep a fun c => c.passthrough = passthrough :=
  ⟨fun _ _ => id, fun _ _ => id, fun _ => id⟩

/-- A setup is committed where its steps can be made, and leaves what they make. -/
def Reaches (made : Option SimHost) (outcome : Outcome) (h' : SimHost) : Prop :=
  IsCommitted outcome ∧ made = some h' ∨ ¬ IsCommitted outcome ∧ made = none

/-- A setup that is given up had a step that could not be made. -/
theorem reaches_abort {A : StoreTerms SimHost} (e : Error) (journal : Journal)
    {made : Option SimHost} (none : made = none) :
    Ensures A free (abort e journal) c h fun outcome _ h' => Reaches made outcome h' := by
  rw [ensures_abort]
  apply (HostProg.ensures_true _).mono
  intro report s' _
  refine .inr ⟨?_, none⟩
  rintro ⟨_, _, _, same⟩
  cases same

/-- A setup makes the steps that are left, by induction over them. -/
theorem made_applyFrom (total index : Nat) (steps : List PlannedStep) (p : Progress)
    (mine : ∀ planned ∈ steps, planned.step ∈ g.steps)
    (marked : ∀ planned ∈ steps, planned.satisfied = true → planned.step.Holds h)
    (mirrors : c.Mirrors h) :
    Ensures (of SimHost.answer) free (applyFrom none total index steps p) c h fun outcome _ h' =>
      Reaches (Step.makeAll c.passthrough (steps.map (·.step)) h) outcome h' := by
  induction steps generalizing index p c h with
  | nil =>
    rw [ensures_applyFrom_nil]
    exact .inl ⟨⟨_, _, _, rfl⟩, rfl⟩
  | cons planned rest ih =>
    obtain ⟨isMine, areMine⟩ := List.forall_mem_cons.1 mine
    obtain ⟨first, later⟩ := List.forall_mem_cons.1 marked
    have punctual : isLate none index = pure false := rfl
    rw [ensures_applyFrom_cons, punctual, HostProg.ensures_pure, if_neg Bool.false_ne_true,
      List.map_cons, Step.makeAll_cons]
    by_cases hp : planned.satisfied
    · rw [if_pos hp, make_of_holds isMine (first hp), Option.bind_some]
      exact ih (index + 1) p.skip areMine later mirrors
    · rw [if_neg hp]
      -- what the step leaves: a mirror, the same policy, and a host on which what held still holds
      have kept : Ensures (of SimHost.answer) free (apply planned.step).run c h fun _ c' _ =>
          c'.passthrough = c.passthrough :=
        keeps_apply (fun a => notesKeep_policy a c.passthrough) planned.step rfl
      have mirrored : Ensures (of SimHost.answer) free (apply planned.step).run c h
          fun _ c' h' => c'.Mirrors h' :=
        (mirroring_apply planned.step mirrors).weaken (fun _ _ _ _ => .inl) fun _ _ _ _ _ _ =>
          trivial
      apply ((made_apply isMine mirrors).also ((holds_apply isMine).also (mirrored.also kept))).mono
      intro result c' h' ends
      obtain ⟨made, ⟨-, holds⟩, mirrors', policy⟩ := ends
      have next (p : Progress) {change : Option Change} (ok : result = .ok change) :
          Ensures (of SimHost.answer) free (applyFrom none total (index + 1) rest p) c' h'
            fun outcome _ h' => Reaches ((planned.step.make c.passthrough h).bind
              (Step.makeAll c.passthrough (rest.map (·.step)))) outcome h' := by
        subst ok
        have made : planned.step.make c.passthrough h = some h' := made
        rw [made, Option.bind_some, ← policy]
        refine ih (index + 1) p areMine (fun other hother satisfied => ?_) mirrors'
        exact (holds _ rfl).2 _ (areMine other hother) (later other hother satisfied)
      rcases result with f | _ | ch
      · have none : planned.step.make c.passthrough h = none := made
        rw [none]
        exact reaches_abort f.error (p.journal ++ f.stranded.toList) rfl
      · exact next p.skip rfl
      · exact next (p.note ch) rfl

/-! ## Setups -/

/-- A host lists its devices, and the goal may name those that it names. -/
structure Admits (filter : DeviceFilter) (g : SetupGoal) (c : Catalog) (h : SimHost) : Prop where
  lists : h.faults.listing = false
  admits : ∀ ts : List TrackedDevice, ts.map (·.address) = h.listed filter →
    Plan.admissible (c.enlistEach 0 ts) g.devices.toList = .ok ()

theorem passthrough_enlistEach (index : Nat) (ts : List TrackedDevice) (c : Catalog) :
    (c.enlistEach index ts).passthrough = c.passthrough := by
  induction ts generalizing index c with
  | nil => rfl
  | cons d ts ih => exact ih (index + 1) (c.enlist index d)

/-- A setup without a deadline is committed exactly when it may name its devices and its steps can
be made; the host that it leaves is what they make. -/
theorem made_run (policy : Policy) (untimed : policy.timeout = none) (g : SetupGoal)
    (mirrors : c.Mirrors h) :
    Ensures (of SimHost.answer) free (run policy g) c h fun outcome _ h' =>
      (IsCommitted outcome ↔ Admits policy.filter g c h ∧
        (Step.makeAll c.passthrough g.steps h).isSome = true) ∧
      (IsCommitted outcome → Step.makeAll c.passthrough g.steps h = some h') := by
  have rejected {e : Error} : ¬ IsCommitted (.rejected e) := by
    rintro ⟨_, _, _, same⟩
    cases same
  have mirrored : Ensures (of SimHost.answer) free (plan policy.filter (.setup g)).run c h
      fun _ c' h' => c'.Mirrors h' :=
    (inspecting_mirrors.plan policy.filter (.setup g) mirrors).weaken (fun _ _ _ _ => .inl)
      fun _ _ _ _ _ _ => trivial
  rw [ensures_run, untimed]
  apply ((Plan.ensures_made policy.filter g).also mirrored).mono
  intro result c' h' planned
  obtain ⟨⟨rfl, ends⟩, mirrors'⟩ := planned
  cases ends with
  | unlisted fails =>
    refine ⟨⟨fun committed => absurd committed rejected, fun admitted => ?_⟩,
      fun committed => absurd committed rejected⟩
    rw [admitted.1.lists] at fails
    cases fails
  | refused addresses refused =>
    refine ⟨⟨fun committed => absurd committed rejected, fun admitted => ?_⟩,
      fun committed => absurd committed rejected⟩
    rw [admitted.1.admits _ addresses] at refused
    cases refused
  | @made v ts lists addresses admitted shows =>
    have admits : Admits policy.filter g c h' := ⟨lists, fun ts' addresses' =>
      admissible_again (addresses'.trans addresses.symm) rfl (fun _ _ => ⟨rfl, rfl⟩) admitted⟩
    have reaches := made_applyFrom (g := g) (Plan.setupSteps v g).length 0 (Plan.setupSteps v g) {}
      (fun planned hplanned => Plan.step_mem_steps hplanned)
      (fun planned hplanned => (Plan.satisfied_iff_holds shows hplanned).1) mirrors'
    rw [Plan.steps_setupSteps, passthrough_enlistEach] at reaches
    apply reaches.mono
    intro outcome c'' h'' ending
    rcases ending with ⟨committed, made⟩ | ⟨undone, made⟩
    · rw [made]
      exact ⟨⟨fun _ => ⟨admits, rfl⟩, fun _ => committed⟩, fun _ => rfl⟩
    · rw [made]
      refine ⟨⟨fun committed => absurd committed undone, fun some => ?_⟩,
        fun committed => absurd committed undone⟩
      cases some.2

end Setup

end Provision
