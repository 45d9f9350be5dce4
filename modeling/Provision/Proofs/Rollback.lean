import Provision.Proofs.Effects
import Provision.Simulation.Topology

/-!
# Rollback

A setup that fails undoes its journal, and so leads back to where it began, except
at the resources of changes that could not be undone, which the report lists, and
at the pool of a reservation that was granted too few pages.

Main results:

- `Setup.rolledBackTo_applyFrom`: the invariant of the steps in order.
- `Setup.rollback_complete`: what differs after a rollback is listed.
-/

namespace Provision

open StoreTerms CatalogProg

variable {c : Catalog} {h : SimHost}

namespace Setup

open Change Reserving

/-! ## Setups that fail -/

/-- What a rollback leads to: where nothing is listed, everything is as at the origin, except for
a pool that granted too few pages. -/
structure RolledBackTo (r : Reservation) (origin after : ResourceView) (e : Error)
    (report : RollbackReport) : Prop where
  complete : ∀ res, (∀ failure ∈ report.failures, failure.1.resource ≠ res) →
    ¬ (e.isShortfall = true ∧ res = .pool r.pool) → after res = origin res
  short : e.isShortfall = true → FellShort r origin after

/-- Undoing the journal of a failed setup leads back to its origin. -/
theorem rolledBackTo_abort {r : Reservation} {origin v : ResourceView} {e : Error}
    {journal : Journal} (chain : LeadsBack origin journal.newestFirst v) (sound : h.Sound)
    (agrees : ∀ res, ¬ (e.isShortfall = true ∧ res = .pool r.pool) → h.view res = v res)
    (short : e.isShortfall = true →
      FellShort r origin h.view ∧ ∀ ch ∈ journal, ch.resource ≠ .pool r.pool) :
    Ensures (of SimHost.answer) free (abort e journal) c h fun outcome _ h' =>
      ∀ e report, outcome = .rolledBack e report → RolledBackTo r origin h'.view e report := by
  have framed := SimHost.ensures_frame_of (c := c) (h := h)
    (within_abort (F := fun res => ∃ ch ∈ journal, ch.resource = res) e journal
      fun ch hch => ⟨ch, hch, rfl⟩)
  have undone : Ensures (of SimHost.answer) free (abort e journal) c h fun outcome _ h' =>
      ∃ report, outcome = .rolledBack e report ∧
        ∀ res, ¬ (e.isShortfall = true ∧ res = .pool r.pool) →
          (∀ failure ∈ report.failures, failure.1.resource ≠ res) → h'.view res = origin res := by
    rw [ensures_abort]
    apply (leadsBack_undoAll chain _ sound agrees).mono
    intro report c' h' led
    exact ⟨report, rfl, led⟩
  apply (undone.also framed).mono
  intro outcome c' h' holds
  obtain ⟨⟨report, rfl, led⟩, _, elsewhere, _, _⟩ := holds
  intro e' report' same
  cases same
  refine ⟨fun res unlisted ordinary => led res ordinary unlisted, fun isShort => ?_⟩
  obtain ⟨⟨pool, was, now⟩, untouched⟩ := short isShort
  refine ⟨pool, was, ?_⟩
  rw [elsewhere (.pool r.pool) fun ⟨ch, hch, about⟩ => untouched ch hch about]
  exact now

/-- What holds between two steps of a setup: the journal leads back to where the setup began, and
the pool is as it was as long as the reservation is still to be made. -/
structure Underway (r : Reservation) (origin : ResourceView) (steps : List PlannedStep)
    (journal : Journal) (h : SimHost) : Prop where
  sound : h.Sound
  chain : LeadsBack origin journal.newestFirst h.view
  setup : ∀ planned ∈ steps, (∀ a driver, planned.step ≠ .restore a driver) ∧
    ∀ r', planned.step = .reserve r' → r' = r
  apart : steps.Pairwise fun earlier later =>
    later.step = .reserve r → earlier.step.resource ≠ .pool r.pool
  untouched : ∀ planned ∈ steps, planned.step = .reserve r →
    ∀ ch ∈ journal, ch.resource ≠ .pool r.pool

/-- A step that takes at most one change leads on to the next step. -/
theorem Underway.next {r : Reservation} {origin : ResourceView} {planned : PlannedStep}
    {rest : List PlannedStep} {journal : Journal} {h h' : SimHost} {made : Option Change}
    (underway : Underway r origin (planned :: rest) journal h) (sound : h'.Sound)
    (taken : WasTaken h.view h'.view made)
    (about : ∀ ch, made = some ch → ch.resource = planned.step.resource) :
    Underway r origin rest (journal ++ made.toList) h' where
  sound := sound
  chain := underway.chain.take taken
  setup later hlater := underway.setup later (List.mem_cons_of_mem _ hlater)
  apart := underway.apart.of_cons
  untouched later hlater reserves ch hch := by
    rcases List.mem_append.1 hch with old | new
    · exact underway.untouched later (List.mem_cons_of_mem _ hlater) reserves ch old
    · rw [about ch (Option.mem_toList.1 new)]
      exact List.rel_of_pairwise_cons underway.apart hlater reserves

/-- A step that is passed over leads on to the next step. -/
theorem Underway.skip {r : Reservation} {origin : ResourceView} {planned : PlannedStep}
    {rest : List PlannedStep} {journal : Journal} {h : SimHost}
    (underway : Underway r origin (planned :: rest) journal h) :
    Underway r origin rest journal h := by
  have next : Underway r origin rest (journal ++ (none : Option Change).toList) h :=
    underway.next underway.sound rfl nofun
  rwa [Option.toList_none, List.append_nil] at next

/-- Whichever step fails, the changes noted so far lead back to where the setup began. -/
theorem rolledBackTo_applyFrom {r : Reservation} {origin : ResourceView} (timeout : Option Nat)
    (total index : Nat) (steps : List PlannedStep) (p : Progress)
    (underway : Underway r origin steps p.journal h) :
    Ensures (of SimHost.answer) free (applyFrom timeout total index steps p) c h
      fun outcome _ h' =>
        ∀ e report, outcome = .rolledBack e report → RolledBackTo r origin h'.view e report := by
  induction steps generalizing index p c h with
  | nil =>
    rw [ensures_applyFrom_nil]
    exact nofun
  | cons planned rest ih =>
    rw [ensures_applyFrom_cons]
    apply ensures_isLate timeout index
    intro late
    by_cases hl : late
    · rw [if_pos hl]
      exact rolledBackTo_abort underway.chain underway.sound (fun _ _ => rfl) nofun
    · rw [if_neg hl]
      by_cases hp : planned.satisfied
      · rw [if_pos hp]
        exact ih _ _ underway.skip
      · rw [if_neg hp]
        have isSetup := underway.setup planned (List.mem_cons_self ..)
        apply (effect_apply planned.step isSetup.1 underway.sound).mono
        intro result c' h' effect
        obtain ⟨sound, notes,
          ⟨taken, ordinary⟩ | ⟨r', e, reserves, rfl, isShort, fell, elsewhere⟩⟩ := effect
        · have next := underway.next sound taken notes
          rcases result with f | _ | made
          · apply rolledBackTo_abort next.chain sound (fun _ _ => rfl)
            intro isShort
            rw [ordinary f rfl] at isShort
            cases isShort
          · have kept : Underway r origin rest p.journal h' := by
              simpa [Binding.Failure.noted] using next
            exact ih _ _ kept
          · exact ih _ _ next
        · have same : r' = r := isSetup.2 r' reserves
          subst same
          have untouched := underway.untouched planned (List.mem_cons_self ..) reserves
          have journal : p.journal ++ (Binding.Failure.plain e).stranded.toList = p.journal :=
            List.append_nil _
          refine rolledBackTo_abort (journal.symm ▸ underway.chain) sound (fun res other => ?_)
            fun _ => ⟨?_, journal.symm ▸ untouched⟩
          · exact elsewhere res fun same => other ⟨isShort, same⟩
          · obtain ⟨pool, was, now⟩ := fell
            have asOrigin := underway.chain.eq_of_untouched (r := .pool r'.pool) fun ch hch =>
              untouched ch (List.mem_reverse.1 hch)
            exact ⟨pool, asOrigin ▸ was, now⟩

/-- No step of a plan before the reservation is about its pool. -/
theorem pairwise_setupSteps (v : HostView) (g : SetupGoal) :
    (Plan.setupSteps v g).Pairwise fun earlier later =>
      later.step = .reserve g.pages → earlier.step.resource ≠ .pool g.pages.pool := by
  unfold Plan.setupSteps
  rw [List.pairwise_append, List.pairwise_append, List.pairwise_map, List.pairwise_map]
  refine ⟨⟨?_, ?_, ?_⟩, ?_, ?_⟩
  · exact List.pairwise_of_forall fun _ _ => by simp
  · simp [Step.resource]
  · intro earlier hearlier later _ _
    obtain ⟨m, _, rfl⟩ := List.mem_map.1 hearlier
    simp [Step.resource]
  · exact List.pairwise_of_forall fun _ _ => by simp
  · intro earlier _ later hlater reserves
    obtain ⟨a, _, rfl⟩ := List.mem_map.1 hlater
    cases reserves

/-- A setup that was rolled back leads back to where it began. -/
theorem rolledBackTo_run (policy : Policy) (g : SetupGoal) (sound : h.Sound) :
    Ensures (of SimHost.answer) free (run policy g) c h fun outcome _ h' =>
      SimHost.SameMachine h h' ∧ ∀ e report, outcome = .rolledBack e report →
        RolledBackTo g.pages h.view h'.view e report := by
  have framed := SimHost.ensures_frame_of (c := c) (h := h)
    (within_run (F := fun _ => True) policy g fun _ _ => trivial)
  have led : Ensures (of SimHost.answer) free (run policy g) c h fun outcome _ h' =>
      ∀ e report, outcome = .rolledBack e report → RolledBackTo g.pages h.view h'.view e report := by
    rw [ensures_run]
    have planned := SimHost.ensures_frame_of (c := c) (h := h)
      (within_plan_setup (F := fun _ => False) policy.filter g)
    apply planned.forget.mono
    intro result c' h' holds
    obtain ⟨isFor, same, _, sound'⟩ := holds
    cases result with
    | error e => exact nofun
    | ok steps =>
      obtain ⟨v, rfl⟩ := isFor
      have unchanged : h'.view = h.view := funext fun r => same r not_false
      have underway : Underway g.pages h.view (Plan.setupSteps v g) [] h' := {
        sound := sound' sound
        chain := unchanged ▸ .origin
        setup := by
          intro planned hplanned
          have isStep := Plan.step_mem_steps hplanned
          refine ⟨g.ne_restore_of_mem_steps isStep, fun r' reserves => ?_⟩
          rw [reserves] at isStep
          simpa [SetupGoal.mem_steps] using isStep
        apart := pairwise_setupSteps v g
        untouched := by
          intro planned _ _ ch hch
          cases hch }
      exact rolledBackTo_applyFrom policy.timeout _ 0 _ {} underway
  exact (led.also framed).mono fun outcome c' h' holds => ⟨holds.2.2.2.1, holds.1⟩

/-- A rollback is complete, and its report is honest.  Whichever step of a setup fails, or between
which steps the deadline passes: what the snapshot after the rollback shows otherwise than the one
before the setup is listed among the changes that could not be undone.  The one exception is the
pool of the reservation when too few pages were granted: it holds exactly what was granted. -/
theorem rollback_complete (h : SimHost) (made : h.Made)
    (distinct : (h.devices.map (·.address)).Nodup) (fits : h.Fits) (clock : Nat → Nat)
    (policy : Policy) (g : SetupGoal) (c : Catalog) (e : Error) (report : RollbackReport)
    (rolledBack : (runOn SimHost.answer clock (run policy g) c { host := h }).1.1 =
      .rolledBack e report) :
    let h' := (runOn SimHost.answer clock (run policy g) c { host := h }).2.host
    (∀ r, ¬ h.snapshot.AgreeAt h'.snapshot r →
      (∃ failure ∈ report.failures, failure.1.resource = r) ∨
        e.isShortfall = true ∧ r = .pool g.pages.pool) ∧
    (e.isShortfall = true → ∃ pool, h.pools.get? g.pages.pool = some pool ∧
      h'.pools.get? g.pages.pool =
        some { pool with reserved := min g.pages.count pool.capacity }) ∧
    (report.failures = [] → e.isShortfall = false → h'.snapshot = h.snapshot) := by
  intro h'
  have sound : h.Sound := ⟨made.listsLoaded, fits⟩
  have concluded := (rolledBackTo_run (c := c) policy g sound).of_run SimHost.answer clock
    { host := h } id fun _ _ => rfl
  obtain ⟨machine, led⟩ := concluded.2
  have back := led e report rolledBack
  have listed : ∀ r, ¬ h.snapshot.AgreeAt h'.snapshot r →
      (∃ failure ∈ report.failures, failure.1.resource = r) ∨
        e.isShortfall = true ∧ r = .pool g.pages.pool := by
    intro r differs
    by_contra unlisted
    rw [not_or, not_exists] at unlisted
    have unlisted' : ∀ failure ∈ report.failures, failure.1.resource ≠ r := fun failure hf same =>
      unlisted.1 failure ⟨hf, same⟩
    exact differs (SimHost.agreeAt_of_view_eq distinct machine
      (back.complete r unlisted' unlisted.2))
  refine ⟨listed, back.short, fun empty ordinary => ?_⟩
  apply Snapshot.eq_of_agreeAt
  intro r
  by_contra differs
  rcases listed r differs with ⟨failure, hf, _⟩ | ⟨isShort, _⟩
  · rw [empty] at hf
    exact absurd hf List.not_mem_nil
  · rw [ordinary] at isShort
    cases isShort

/-- The machine with two controllers is built from an empty one. -/
theorem made_twoNics : Topology.twoNics.Made := by
  have display := SimHost.Made.empty.addDevice
    ⟨Topology.display, "0300", "15ad", "0405", some "vmwgfx"⟩
  have management := display.addDevice
    ⟨Topology.managementNic, "0200", "8086", "100f", some "e1000"⟩
  have data := management.addDevice ⟨Topology.dataNic, "0200", "8086", "100f", some "e1000"⟩
  have modules := (((data.addAvailable "vfio").addAvailable "vfio_pci").addAvailable
    "uio").addAvailable "uio_pci_generic"
  exact modules.addPool Topology.largePages 0 4096

/-- A controller that can be bound neither to the new driver nor to the old one any more is all
that differs after the rollback. -/
theorem twoNics_stuck_rolledBack :
    let h := (Topology.twoNics.failBind Topology.dataNic "vfio-pci").failBind Topology.dataNic
      "e1000"
    let ending := runOn SimHost.answer (fun _ => 0) (run {} (Topology.handOver [Topology.dataNic]))
      (Policy.freshCatalog {}) { host := h }
    ∃ e report, ending.1.1 = .rolledBack e report ∧
      ∀ r, ¬ h.snapshot.AgreeAt ending.2.host.snapshot r → r = .device Topology.dataNic := by
  intro h
  have made : h.Made := (made_twoNics.withFaults _).withFaults _
  have fits : h.Fits := .of_values Topology.reserved_le_capacity
  obtain ⟨e, report, rolledBack, remains, ordinary⟩ : ∃ e report,
      (runOn SimHost.answer (fun _ => 0) (run {} (Topology.handOver [Topology.dataNic]))
        (Policy.freshCatalog {}) { host := h }).1.1 = .rolledBack e report ∧
        report.failures.map (fun failure => failure.1.resource) = [.device Topology.dataNic] ∧
        e.isShortfall = false := ⟨_, _, rfl, rfl, rfl⟩
  refine ⟨e, report, rolledBack, fun r differs => ?_⟩
  have listed := (rollback_complete h made (by decide) fits (fun _ => 0) {}
    (Topology.handOver [Topology.dataNic]) (Policy.freshCatalog {}) e report rolledBack).1 r differs
  rcases listed with ⟨failure, hf, about⟩ | ⟨isShort, _⟩
  · have among : r ∈ report.failures.map fun failure => failure.1.resource :=
      List.mem_map.2 ⟨failure, hf, about⟩
    rw [remains] at among
    exact List.mem_singleton.1 among
  · rw [ordinary] at isShort
    cases isShort

end Setup

end Provision
