import Provision.Proofs.Contract.World
import Provision.Proofs.HomeDriver
import Provision.Simulation.Topology

/-!
# Histories of runs

A history is a sequence of setups and teardowns on one host, each of which begins
with a fresh catalog or with the one that the run before it left.  The home driver of
a device is not lost in any history, however many calls fail, and wherever the history
ends: a teardown in which no call fails brings the device back.

Main results:

- `HomeDriver.kept_setup`, `HomeDriver.kept_teardown`: what a run preserves.
- `HomeDriver.kept_history`: what a history preserves.
- `HomeDriver.back_teardown`: a teardown in which no call fails.
- `HomeDriver.never_lost`: the home driver is never lost.
-/

namespace Provision

open StoreTerms CatalogProg

/-! ## Histories -/

/-- One run of a history: whether it begins with a fresh catalog, its policy, and its goal. -/
structure Turn where
  fresh : Bool
  policy : Policy
  goal : Goal

/-- Takes a turn, with a fresh catalog or with the one that is there. -/
def Turn.run (t : Turn) : CatalogProg Outcome := do
  if t.fresh then set t.policy.freshCatalog
  Engine.run t.policy t.goal

/-- Takes turns one after the other. -/
def History.run : List Turn → CatalogProg (List Outcome)
  | [] => pure []
  | t :: later => do
    let outcome ← t.run
    let outcomes ← History.run later
    pure (outcome :: outcomes)

section Contracts

variable {σ : Type} {A K : StoreTerms σ} {c : Catalog} {s : σ}

theorem Turn.ensures_run (t : Turn) {Q : Outcome → Catalog → σ → Prop} :
    Ensures A K t.run c s Q ↔
      Ensures A K (Engine.run t.policy t.goal) (if t.fresh then t.policy.freshCatalog else c) s
        Q := by
  unfold Turn.run
  cases t.fresh <;> exact Iff.rfl

theorem History.ensures_run_cons (t : Turn) (later : List Turn)
    {Q : List Outcome → Catalog → σ → Prop} :
    Ensures A K (run (t :: later)) c s Q ↔
      Ensures A K t.run c s fun outcome c s =>
        Ensures A K (run later) c s fun outcomes c s => Q (outcome :: outcomes) c s := by
  rw [run, ensures_bind]
  apply ensures_congr
  intro outcome c' s'
  rw [ensures_bind]
  exact ensures_congr fun outcomes c'' s'' => ensures_pure _

end Contracts

namespace HomeDriver

variable {a b : PciAddress} {home : String} {c : Catalog} {h : SimHost}

/-! ## Listings -/

/-- A device is taken in with the record that is there. -/
theorem Kept.enlist {index : Nat} {d : TrackedDevice} (kept : Kept a home c h)
    (read : d.homeDriver = h.homes.get? d.address) : Kept a home (c.enlist index d) h := by
  refine ⟨kept.safe, fun driver known => ?_, kept.native⟩
  rw [Catalog.home?_enlist] at known
  by_cases same : a = d.address
  · rw [if_pos same, read] at known
    rw [same, known]
  · rw [if_neg same] at known
    exact kept.known driver known

theorem kept_enlistAll (index : Nat) (ds : List Descriptor) (kept : Kept a home c h) :
    Keeps a home (Catalog.enlistAll index ds).run c h fun _ c' h' => Kept a home c' h' := by
  induction ds generalizing index c with
  | nil => exact (Catalog.ensures_enlistAll_nil index).2 kept
  | cons d ds ih =>
    rw [Keeps, Catalog.ensures_enlistAll_cons]
    apply asks_read rfl kept.safe (fun e => kept)
    intro record read
    have there : record = h.homes.get? d.address := (Except.ok.inj read).symm
    have taken : Kept a home (c.enlist index (d.tracked record)) h := kept.enlist there
    apply (ih (index + 1) taken).mono
    intro others c' h' kept'
    cases others <;> exact kept'

/-- A listing keeps the catalog in step. -/
theorem kept_enumerate (filter : DeviceFilter) (kept : Kept a home c h) :
    Keeps a home (Catalog.enumerate filter).run c h fun _ c' h' => Kept a home c' h' := by
  rw [Keeps, Catalog.ensures_enumerate]
  exact asks_read rfl kept.safe (fun e => kept) fun ds _ => kept_enlistAll 0 ds kept

/-- A device that is on record is taken in with its record. -/
theorem Kept.adopt {current : Option String} {driver : String} (kept : Kept a home c h)
    (recorded : h.homes.get? b = some driver) :
    Kept a home { c with records := c.records.insert b (Catalog.adopted b current driver) } h := by
  refine ⟨kept.safe, fun known there => ?_, kept.native⟩
  rw [Catalog.home?_adopted] at there
  by_cases same : a = b
  · rw [if_pos same] at there
    rw [same, recorded, there]
  · rw [if_neg same] at there
    exact kept.known known there

theorem kept_adoptAll (recorded : List (PciAddress × String)) (kept : Kept a home c h)
    (there : ∀ entry ∈ recorded, h.homes.get? entry.1 = some entry.2) :
    Keeps a home (Catalog.adoptAll recorded).run c h fun _ c' h' => Kept a home c' h' := by
  induction recorded generalizing c with
  | nil => exact Catalog.ensures_adoptAll_nil.2 kept
  | cons entry rest ih =>
    obtain ⟨b, driver⟩ := entry
    have later : ∀ entry ∈ rest, h.homes.get? entry.1 = some entry.2 := fun entry hentry =>
      there entry (List.mem_cons_of_mem _ hentry)
    rw [Keeps, Catalog.ensures_adoptAll_cons]
    by_cases known : (c.device? b).isSome
    · rw [if_pos known]
      exact ih kept later
    · rw [if_neg known]
      refine asks_read rfl kept.safe (fun e => ?_) fun current _ => ?_
      · apply (ih kept later).mono
        intro missing c' h' kept'
        cases missing <;> exact kept'
      · exact ih (kept.adopt (there (b, driver) (List.mem_cons_self ..))) later

/-- Taking in the devices on record keeps the catalog in step. -/
theorem kept_adoptRecorded (kept : Kept a home c h) :
    Keeps a home Catalog.adoptRecorded.run c h fun _ c' h' => Kept a home c' h' := by
  rw [Keeps, Catalog.ensures_adoptRecorded]
  apply asks_read rfl kept.safe (fun e => kept)
  intro recorded read
  obtain rfl : h.homes = recorded := Except.ok.inj read
  exact kept_adoptAll _ kept fun entry hentry => SortedMap.get?_of_mem hentry

/-! ## Setups -/

/-- Making a plan keeps the catalog in step. -/
theorem kept_plan (filter : DeviceFilter) (g : SetupGoal) (kept : Kept a home c h) :
    Keeps a home (plan filter (.setup g)).run c h fun result c' h' =>
      Kept a home c' h' ∧ Plan.IsFor g result := by
  rw [Keeps, ensures_plan_setup]
  apply (kept_enumerate filter kept).mono
  intro listed c' h' kept'
  cases listed with
  | error e => exact ⟨kept', trivial⟩
  | ok candidates =>
    rw [skipOnError_ok]
    cases Plan.admissible c' g.devices.toList with
    | error e => exact ⟨kept', trivial⟩
    | ok _ =>
      have surveyed := kept_elsewhere (F := fun _ => False) kept' not_false
        (Survey.within_take g.modules g.pages g.devices.toList)
      exact surveyed.mono fun v h'' holds => ⟨holds.2.1, v, rfl⟩

/-- Undoing a setup that failed keeps the catalog in step. -/
theorem kept_abort (e : Error) (journal : Journal) (kept : Kept a home c h)
    (journaled : Journaled a home journal.newestFirst h) :
    Keeps a home (Setup.abort e journal) c h fun _ c' h' => Kept a home c' h' := by
  rw [Keeps, Setup.ensures_abort]
  exact kept_undoAll kept journaled

/-- The steps of a setup keep the catalog in step, whichever of them fails. -/
theorem kept_applyFrom (timeout : Option Nat) (total index : Nat) (steps : List PlannedStep)
    (p : Setup.Progress) (kept : Kept a home c h)
    (journaled : Journaled a home p.journal.newestFirst h)
    (setup : ∀ planned ∈ steps, ∀ b driver, planned.step ≠ .restore b driver) :
    Keeps a home (Setup.applyFrom timeout total index steps p) c h fun _ c' h' =>
      Kept a home c' h' := by
  induction steps generalizing index p c h with
  | nil =>
    rw [Keeps, Setup.ensures_applyFrom_nil]
    exact kept
  | cons planned rest ih =>
    have first := setup planned (List.mem_cons_self ..)
    have later : ∀ other ∈ rest, ∀ b driver, other.step ≠ .restore b driver :=
      fun other hother => setup other (List.mem_cons_of_mem _ hother)
    rw [Keeps, Setup.ensures_applyFrom_cons]
    apply Setup.ensures_isLate timeout index
    intro late
    by_cases hl : late
    · rw [if_pos hl]
      exact kept_abort _ _ kept journaled
    · rw [if_neg hl]
      by_cases hp : planned.satisfied
      · rw [if_pos hp]
        exact ih _ _ kept journaled later
      · rw [if_neg hp]
        apply (kept_apply planned.step first kept).mono
        intro result c' h' made
        obtain ⟨kept', record, noted⟩ := made
        have journaled' := journaled.take record noted
        rcases result with f | _ | ch
        · exact kept_abort _ _ kept' journaled'
        · refine ih _ _ kept' ?_ later
          exact journaled.keep record
        · exact ih _ _ kept' journaled' later

/-- A setup keeps the home driver, also while it is undone. -/
theorem kept_setup (policy : Policy) (g : SetupGoal) (kept : Kept a home c h) :
    Keeps a home (Setup.run policy g) c h fun _ c' h' => Kept a home c' h' := by
  rw [Keeps, Setup.ensures_run]
  apply (kept_plan policy.filter g kept).mono
  intro result c' h' planned
  obtain ⟨kept', isFor⟩ := planned
  cases result with
  | error e => exact kept'
  | ok steps =>
    obtain ⟨v, rfl⟩ := isFor
    exact kept_applyFrom _ _ _ _ {} kept' journaled_nil fun planned hplanned =>
      g.ne_restore_of_mem_steps (Plan.step_mem_steps hplanned)

/-! ## Teardowns -/

/-- A device that is restored is bound to the home driver that is on record. -/
theorem kept_restore (b : PciAddress) (kept : Kept a home c h) :
    Keeps a home (Binding.restore b).run c h fun _ c' h' => Kept a home c' h' := by
  rw [Keeps, Binding.ensures_restore]
  apply (kept_homeDriver b kept).mono
  intro known c' h' found
  obtain ⟨rfl, rfl, isRecord⟩ := found
  rcases known with e | _ | driver
  · exact kept
  · exact kept
  · have isHome : b = a → driver = home := fun about =>
      kept.safe.only driver (isRecord _ rfl about).symm
    rw [skipOnError_ok]
    refine (kept_bringBack b (some driver) kept fun about =>
      .inl (congrArg some (isHome about))).mono fun result c₁ h₁ brought => ?_
    obtain ⟨kept₁, _, driver₁⟩ := brought
    cases result with
    | error e => exact kept₁
    | ok _ =>
      apply kept_discard kept₁
      intro about
      rw [driver₁ rfl about, isHome about]

/-- What becomes of one device of a teardown keeps the catalog in step. -/
theorem kept_restoreOne (b : PciAddress) (kept : Kept a home c h) :
    Keeps a home (Teardown.restoreOne b) c h fun _ c' h' => Kept a home c' h' := by
  rw [Keeps, Teardown.ensures_restoreOne]
  apply (kept_homeDriver b kept).mono
  intro known c' h' found
  obtain ⟨rfl, rfl, _⟩ := found
  rcases known with e | _ | driver
  · exact kept
  · exact kept
  · apply (kept_restore b kept).mono
    intro result c' h' kept'
    cases result <;> exact kept'

theorem kept_restoreFrom (total index : Nat) (devices : List PciAddress) (kept : Kept a home c h) :
    Keeps a home (Teardown.restoreFrom total index devices) c h fun _ c' h' =>
      Kept a home c' h' := by
  induction devices generalizing index c h with
  | nil => exact (Teardown.ensures_restoreFrom_nil total index).2 kept
  | cons b rest ih =>
    rw [Keeps, Teardown.ensures_restoreFrom_cons]
    exact (kept_restoreOne b kept).mono fun fate c' h' kept' => ih (index + 1) kept'

/-- Before a teardown the devices are listed and those on record are taken in. -/
theorem kept_prepare (filter : DeviceFilter) (kept : Kept a home c h) :
    Keeps a home (Teardown.prepare filter).run c h fun _ c' h' => Kept a home c' h' := by
  rw [Keeps, Teardown.ensures_prepare]
  exact (kept_enumerate filter kept).mono fun _ c' h' kept' => kept_adoptRecorded kept'

/-- A teardown keeps the home driver. -/
theorem kept_teardown (policy : Policy) (devices : SortedSet PciAddress) (kept : Kept a home c h) :
    Keeps a home (Teardown.run policy devices) c h fun _ c' h' => Kept a home c' h' := by
  rw [Keeps, Teardown.ensures_run]
  apply (kept_prepare policy.filter kept).mono
  intro result c' h' kept'
  cases result with
  | error e => exact kept'
  | ok _ => exact kept_restoreFrom _ _ _ kept'

/-! ## Any runs -/

/-- A fresh catalog knows of no record, so it is in step with any host. -/
theorem kept_freshCatalog {policy : Policy} (safe : Safe a home h)
    (native : home ∉ policy.passthrough) : Kept a home policy.freshCatalog h := by
  refine ⟨safe, nofun, ?_⟩
  show SortedMap.contains (SortedSet.ofList policy.passthrough) home = false
  rw [← Bool.not_eq_true, SortedSet.contains_ofList]
  exact native

/-- Whatever runs make up a history, it keeps the home driver. -/
theorem kept_history (turns : List Turn) (native : ∀ t ∈ turns, home ∉ t.policy.passthrough)
    (kept : Kept a home c h) :
    Keeps a home (History.run turns) c h fun _ c' h' => Kept a home c' h' := by
  induction turns generalizing c h with
  | nil => exact kept
  | cons t later ih =>
    rw [Keeps, History.ensures_run_cons, Turn.ensures_run]
    have start : Kept a home (if t.fresh then t.policy.freshCatalog else c) h := by
      by_cases fresh : t.fresh
      · rw [if_pos fresh]
        exact kept_freshCatalog kept.safe (native t (List.mem_cons_self ..))
      · rw [if_neg fresh]
        exact kept
    have taken : Keeps a home (Engine.run t.policy t.goal)
        (if t.fresh then t.policy.freshCatalog else c) h fun _ c' h' => Kept a home c' h' := by
      cases t.goal with
      | setup g => exact kept_setup t.policy g start
      | teardown devices => exact kept_teardown t.policy devices start
    apply taken.mono
    intro outcome c' h' kept'
    exact ih (fun other hother => native other (List.mem_cons_of_mem _ hother)) kept'

/-! ## Teardowns in which no call fails -/

end HomeDriver

section Succeeding

variable {σ : Type} {c : Catalog} {s : σ}

/-- When no call fails, a device is brought back. -/
theorem Binding.bringBack_succeeds (b : PciAddress) (prior : Option String) :
    Ensures succeeding free (bringBack b prior).run c s fun result _ _ => result = .ok () := by
  have reattached (current : Option String) (c : Catalog) (s : σ) :
      Ensures succeeding free (reattach b prior current).run c s fun result _ _ =>
        result = .ok () := by
    rw [ensures_reattach]
    cases prior with
    | none => rfl
    | some driver =>
      rintro reply s' ⟨v, rfl⟩
      exact ⟨trivial, rfl⟩
  rw [ensures_bringBack]
  rintro reply s' ⟨current, rfl⟩
  refine ⟨trivial, ?_⟩
  show if current = prior then _ else _
  by_cases back : current = prior
  · rw [if_pos back]
  · rw [if_neg back]
    cases current with
    | none => exact reattached none c s'
    | some driver =>
      refine (ensures_detach b driver false).2 ?_
      rintro reply s'' ⟨v, rfl⟩
      exact ⟨trivial, reattached (some driver) (c.noteBinding b none) s''⟩

theorem Catalog.adoptAll_succeeds (recorded : List (PciAddress × String)) :
    Ensures succeeding free (adoptAll recorded).run c s fun result _ _ =>
      ∃ missing, result = .ok missing := by
  induction recorded generalizing c s with
  | nil => exact ensures_adoptAll_nil.2 ⟨[], rfl⟩
  | cons entry rest ih =>
    obtain ⟨b, home⟩ := entry
    rw [ensures_adoptAll_cons]
    by_cases known : (c.device? b).isSome
    · rw [if_pos known]
      exact ih
    · rw [if_neg known]
      rintro reply s' ⟨current, rfl⟩
      exact ⟨trivial, ih⟩

/-- When no call fails, a teardown comes to its devices. -/
theorem Teardown.prepare_succeeds (filter : DeviceFilter) :
    Ensures succeeding free (prepare filter).run c s fun result _ _ => result = .ok () := by
  rw [ensures_prepare]
  have listed := Catalog.within_enumerate (A := succeeding) (F := fun _ => True) (c := c) (s := s)
    filter
  refine listed.forget.mono ?_
  intro _ c' s' _
  rw [Catalog.ensures_adoptRecorded]
  rintro reply s'' ⟨recorded, rfl⟩
  refine ⟨trivial, ?_⟩
  dsimp only
  rw [skipOnError_ok]
  apply (Catalog.adoptAll_succeeds recorded.entries).mono
  intro result c'' s3 adopted
  obtain ⟨missing, rfl⟩ := adopted
  rfl

end Succeeding

namespace HomeDriver

variable {a b : PciAddress} {home : String} {c : Catalog} {h : SimHost}

/-- What is kept on a host on which calls fail is kept on one on which no call fails. -/
theorem unfailing_of_keeps {α : Type} {p : CatalogProg α} {Q : α → Catalog → SimHost → Prop}
    (keeps : Keeps a home p c h Q) : Ensures (unfailing SimHost.answer) free p c h Q :=
  keeps.weaken (fun _ _ _ _ answered => .inl answered.1) fun _ _ _ _ _ _ => trivial

/-- What a program does when no call fails. -/
theorem unfailing_of_succeeding {α : Type} {p : CatalogProg α} {Q : α → Catalog → SimHost → Prop}
    (succeeds : Ensures succeeding free p c h Q) :
    Ensures (unfailing SimHost.answer) free p c h Q :=
  succeeds.weaken (fun _ _ _ _ answered => answered.2) fun _ _ _ _ _ kept => kept

/-- A device is back: it is bound to its home driver, and there is no record. -/
structure Back (a : PciAddress) (home : String) (h : SimHost) : Prop where
  bound : h.driverOf a = some home
  unrecorded : h.homes.get? a = none

/-- The home driver of the device is the one on record. -/
theorem unfailing_homeDriver (kept : Kept a home c h) :
    Ensures (unfailing SimHost.answer) free (Catalog.homeDriver a).run c h fun result c' h' =>
      c' = c ∧ h' = h ∧ result = .ok (h.homes.get? a) := by
  rw [Catalog.ensures_homeDriver]
  cases cached : c.home? a with
  | some driver => exact ⟨rfl, rfl, congrArg Except.ok (kept.known driver cached).symm⟩
  | none =>
    rintro reply h' ⟨answered, _⟩
    cases answered
    exact ⟨trivial, rfl, rfl, rfl⟩

/-- When no call fails, a device with a record is restored. -/
theorem back_restore (kept : Kept a home c h) (recorded : h.homes.get? a = some home) :
    Ensures (unfailing SimHost.answer) free (Binding.restore a).run c h fun _ _ h' =>
      Back a home h' := by
  rw [Binding.ensures_restore]
  apply (unfailing_homeDriver kept).mono
  intro result c' h' found
  obtain ⟨rfl, rfl, rfl⟩ := found
  rw [recorded, skipOnError_ok]
  have brought := unfailing_of_keeps (kept_bringBack a (some home) kept fun _ => .inl rfl)
  have succeeded := unfailing_of_succeeding (h := h')
    (Binding.bringBack_succeeds (c := c') a (some home))
  show Ensures (unfailing SimHost.answer) free (Binding.bringBack a (some home)).run c' h' _
  apply (brought.also succeeded).mono
  intro result c₁ h₁ holds
  obtain ⟨⟨_, _, driver⟩, rfl⟩ := holds
  rw [skipOnError_ok, Catalog.ensures_discard]
  rintro reply h₂ ⟨answered, _⟩
  cases answered
  exact ⟨trivial, driver rfl rfl, SortedMap.get?_erase_self ..⟩

/-- When no call fails, the device is brought back, and stays back. -/
theorem back_restoreOne (b : PciAddress) (kept : Kept a home c h) :
    Ensures (unfailing SimHost.answer) free (Teardown.restoreOne b) c h fun _ c' h' =>
      Kept a home c' h' ∧ (b = a ∨ Back a home h → Back a home h') := by
  have back : Ensures (unfailing SimHost.answer) free (Teardown.restoreOne b) c h
      fun _ _ h' => b = a ∨ Back a home h → Back a home h' := by
    by_cases same : b = a
    · subst same
      rw [Teardown.ensures_restoreOne]
      apply (unfailing_homeDriver kept).mono
      intro result c' h' found
      obtain ⟨rfl, rfl, rfl⟩ := found
      cases record : h'.homes.get? b with
      | none => exact fun _ => ⟨kept.safe.bound record, record⟩
      | some driver =>
        have isHome : driver = home := kept.safe.only driver record
        apply (back_restore kept (isHome ▸ record)).mono
        intro result c₁ h₁ back
        cases result <;> exact fun _ => back
    · have other : Resource.device a ≠ .device b := fun e => same (Resource.device.inj e).symm
      have elsewhere := keeps_elsewhere (F := fun r => r = .device b) kept.safe other
        (Teardown.within_restoreOne (c := c) rfl)
      apply (unfailing_of_keeps elsewhere).mono
      intro _ c' h' unchanged which
      have back := which.resolve_left same
      have view : h'.view (.device a) = h.view (.device a) := unchanged.2
      refine ⟨?_, (congrArg Prod.snd view).trans back.unrecorded⟩
      rw [SimHost.driverOf_eq_view, view, ← SimHost.driverOf_eq_view, back.bound]
  exact (unfailing_of_keeps (kept_restoreOne b kept)).also back

theorem back_restoreFrom (total index : Nat) (devices : List PciAddress) (kept : Kept a home c h) :
    Ensures (unfailing SimHost.answer) free (Teardown.restoreFrom total index devices) c h
      fun _ _ h' => a ∈ devices ∨ Back a home h → Back a home h' := by
  induction devices generalizing index c h with
  | nil =>
    rw [Teardown.ensures_restoreFrom_nil]
    exact fun which => which.resolve_left List.not_mem_nil
  | cons b rest ih =>
    rw [Teardown.ensures_restoreFrom_cons]
    apply (back_restoreOne b kept).mono
    intro fate c₁ h₁ restored
    obtain ⟨kept₁, back₁⟩ := restored
    refine (ih (index + 1) kept₁).mono fun report c₂ h₂ back₂ which => back₂ ?_
    rcases which with named | back
    · rcases List.mem_cons.1 named with here | later
      · exact .inr (back₁ (.inl here.symm))
      · exact .inl later
    · exact .inr (back₁ (.inr back))

/-- A teardown in which no call fails brings a device back whose home driver is not lost. -/
theorem back_teardown (policy : Policy) {devices : SortedSet PciAddress}
    (named : a ∈ devices.toList) (kept : Kept a home c h) :
    Ensures (unfailing SimHost.answer) free (Teardown.run policy devices) c h fun _ _ h' =>
      Back a home h' := by
  rw [Teardown.ensures_run]
  have prepared := unfailing_of_keeps (kept_prepare policy.filter kept)
  have succeeded := unfailing_of_succeeding (c := c) (h := h)
    (Teardown.prepare_succeeds policy.filter)
  apply (prepared.also succeeded).mono
  intro result c' h' ready
  obtain ⟨kept', rfl⟩ := ready
  exact (back_restoreFrom _ _ _ kept').mono fun _ _ _ back => back (.inl named)

/-! ## Histories on a host on which calls fail -/

/-- At the beginning, a device that is bound to its home driver, without another one on record, is
safe. -/
theorem safe_of_bound (bound : h.driverOf a = some home)
    (record : h.homes.get? a = none ∨ h.homes.get? a = some home) : Safe a home h := by
  refine ⟨.inl bound, fun driver recorded => ?_⟩
  rcases record with none | same
  · rw [none] at recorded
    cases recorded
  · rw [same] at recorded
    exact (Option.some.inj recorded).symm

/-- A teardown by a fresh catalog in which no call fails brings a safe device back. -/
theorem back_of_safe (safe : Safe a home h) {policy : Policy} (native : home ∉ policy.passthrough)
    {devices : SortedSet PciAddress} (named : a ∈ devices.toList) (clock : Nat → Nat)
    (noneFails : ∀ e ∈ storeCalls SimHost.answer clock (Teardown.run policy devices)
      policy.freshCatalog { host := h }, e.reply.isOk = true) :
    Back a home (runOn SimHost.answer clock (Teardown.run policy devices) policy.freshCatalog
      { host := h }).2.host := by
  have contract := back_teardown policy named (kept_freshCatalog safe native)
  refine (contract.of_storeCalls { host := h } id fun e he => ?_).2
  have fine := noneFails e he
  refine ⟨answer_of_mem_storeCalls he, ?_⟩
  show ∃ v, e.reply = .ok v
  cases replied : e.reply with
  | ok v => exact ⟨v, rfl⟩
  | error failure =>
    rw [replied] at fine
    cases fine

/-- The home driver of a device is never lost.  Take any history of setups and teardowns on a host
on which any calls fail without effect, each begun with a fresh catalog or with the one that the
run before it left.  After every call, so wherever the history ends, a device that was bound to
its home driver is bound to it or has it on record; and from there a teardown that names the
device, by a fresh catalog and without a failing call, leaves it bound to its home driver and
without a record. -/
theorem never_lost (h : SimHost) (a : PciAddress) (home : String) (start : Policy)
    (turns : List Turn) (clock : Nat → Nat) (fails : Nat → Option Error)
    (bound : h.driverOf a = some home)
    (record : h.homes.get? a = none ∨ h.homes.get? a = some home)
    (native : home ∉ start.passthrough)
    (fixed : ∀ t ∈ turns, t.policy.passthrough = start.passthrough) :
    ∀ e ∈ storeCalls (SimHost.answer.unreliable fails) clock (History.run turns)
        start.freshCatalog { host := (h, 0) },
      (e.after.1.driverOf a = some home ∨ e.after.1.homes.get? a = some home) ∧
        ∀ (policy : Policy) (devices : SortedSet PciAddress) (clock' : Nat → Nat),
          policy.passthrough = start.passthrough → a ∈ devices.toList →
          (∀ e' ∈ storeCalls SimHost.answer clock' (Teardown.run policy devices)
            policy.freshCatalog { host := e.after.1 }, e'.reply.isOk = true) →
          let ending := (runOn SimHost.answer clock' (Teardown.run policy devices)
            policy.freshCatalog { host := e.after.1 }).2.host
          ending.driverOf a = some home ∧ ending.homes.get? a = none := by
  intro e he
  have start : Kept a home start.freshCatalog h :=
    kept_freshCatalog (safe_of_bound bound record) native
  have contract := kept_history turns (fun t ht => by rwa [fixed t ht]) start
  have concluded := contract.of_run (SimHost.answer.unreliable fails) clock { host := (h, 0) }
    Prod.fst (SimHost.answer.answer_unreliable fails)
  have safe : Safe a home e.after.1 := concluded.1 e he
  refine ⟨safe.held, fun policy devices clock' same named noneFails => ?_⟩
  have back := back_of_safe safe (same ▸ native) named clock' noneFails
  exact ⟨back.bound, back.unrecorded⟩

/-- A setup fails to bind a controller to the new driver and then to the old one, and a teardown
with the same catalog fails to bind it as well.  It is left unbound, and the next teardown brings
it back. -/
theorem twoNics_brought_back :
    let store := SimHost.answer.unreliable fun place =>
      if place ∈ [24, 26, 36] then some (.noDevice Topology.dataNic) else none
    let turns : List Turn :=
      [⟨true, {}, .setup (Topology.handOver [Topology.dataNic])⟩,
        ⟨false, {}, .teardown (SortedSet.ofList [Topology.dataNic])⟩]
    ∃ e ∈ storeCalls store (fun _ => 0) (History.run turns) (Policy.freshCatalog {})
        { host := (Topology.twoNics, 0) },
      e.after.1.driverOf Topology.dataNic = none ∧
        let ending := (runOn SimHost.answer (fun _ => 0)
          (Teardown.run {} (SortedSet.ofList [Topology.dataNic])) (Policy.freshCatalog {})
          { host := e.after.1 }).2.host
        ending.driverOf Topology.dataNic = some "e1000" ∧
          ending.homes.get? Topology.dataNic = none := by
  intro store turns
  let calls := storeCalls store (fun _ => 0) (History.run turns) (Policy.freshCatalog {})
    { host := (Topology.twoNics, 0) }
  let reached : calls ≠ [] := List.isEmpty_eq_false_iff.1 (by decide +kernel)
  refine ⟨calls.getLast reached, List.getLast_mem reached, by decide +kernel, ?_⟩
  exact (never_lost Topology.twoNics Topology.dataNic "e1000" {} turns (fun _ => 0) _ rfl
    (.inl rfl) (by decide) (by decide) (calls.getLast reached) (List.getLast_mem reached)).2 {}
    (SortedSet.ofList [Topology.dataNic]) (fun _ => 0) rfl (by decide) (by decide +kernel)

end HomeDriver

end Provision
