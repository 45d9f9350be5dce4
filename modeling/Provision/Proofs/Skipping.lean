import Provision.Proofs.Announcements
import Provision.Proofs.FixedPoint
import Provision.Proofs.Mirror

/-!
# Passing over satisfied steps

A setup passes over the steps that its plan marks as satisfied.  This saves calls and
nothing else: a step that holds finds nothing to do when it is made, no step that is
made keeps a later one from holding, and what a step that moves a device would note of
it is what the catalog shows already.

Main results:

- `Setup.runOn_apply_of_holds`: making a step that holds changes nothing.
- `Setup.runOn_applyEachFrom`: the steps from a place on.
- `Setup.skipping_is_an_optimization`: a setup ends as if it passed over no step.
-/

namespace Provision

open StoreTerms CatalogProg

variable {α β σ : Type}

/-! ## Runs of sequences -/

namespace CatalogProg

variable {store : StoreHandler σ} {clock : Nat → Nat} {c : Catalog} {w : World σ}

/-- A sequence runs its parts one after the other. -/
theorem runOn_bind (p : CatalogProg α) (f : α → CatalogProg β) :
    runOn store clock (p >>= f) c w =
      runOn store clock (f (runOn store clock p c w).1.1) (runOn store clock p c w).1.2
        (runOn store clock p c w).2 := by
  unfold runOn
  rw [StateT.run_bind, Prog.run_bind]

theorem runOn_announce (state : RunState) :
    runOn store clock (liftM (HostProg.enter state)) c w = (((), c), w.announce state) := rfl

end CatalogProg

namespace Setup

variable {clock : Nat → Nat} {c : Catalog} {g : SetupGoal}

/-! ## Making every step -/

/-- Makes the steps of a plan from a place on, also those that are satisfied. -/
def applyEachFrom (timeout : Option Nat) (total : Nat) :
    Nat → List PlannedStep → Progress → CatalogProg Outcome
  | _, [], p => do
    HostProg.enter .committed
    pure (.committed p.journal p.applied p.skipped)
  | index, planned :: rest, p => do
    HostProg.enter (.applying (index + 1) total)
    if ← isLate timeout index then abort (.timedOut index) p.journal
    else
      match ← (apply planned.step).run with
      | .ok (some c) => applyEachFrom timeout total (index + 1) rest (p.note c)
      | .ok none => applyEachFrom timeout total (index + 1) rest p.skip
      | .error f => abort f.error (p.journal ++ f.stranded.toList)

/-- Runs a setup that passes over no step. -/
def runEach (policy : Policy) (g : SetupGoal) : CatalogProg Outcome := do
  HostProg.enter .idle
  HostProg.enter .probing
  match ← (plan policy.filter (.setup g)).run with
  | .error e => do
    HostProg.enter .failed
    pure (.rejected e)
  | .ok steps => applyEachFrom policy.timeout steps.length 0 steps {}

/-- What remains, after a step was made, of a setup that passes over no step. -/
def eachAfterStep (total index : Nat) (rest : List PlannedStep) (p : Progress) :
    Except Binding.Failure (Option Change) → CatalogProg Outcome
  | .ok (some ch) => applyEachFrom none total (index + 1) rest (p.note ch)
  | .ok none => applyEachFrom none total (index + 1) rest p.skip
  | .error f => abort f.error (p.journal ++ f.stranded.toList)

section Runs

variable {store : StoreHandler σ} {w : World σ}

/-- Without a deadline, no step is late. -/
theorem runOn_isLate_none (index : Nat) :
    runOn store clock (liftM (isLate none index)) c w = ((false, c), w) := rfl

/-- Without a deadline, a step is made or passed over as soon as it is announced. -/
theorem runOn_applyFrom_cons (total index : Nat) (planned : PlannedStep) (rest : List PlannedStep)
    (p : Progress) :
    runOn store clock (applyFrom none total index (planned :: rest) p) c w =
      let w' := w.announce (.applying (index + 1) total)
      if planned.satisfied then
        runOn store clock (applyFrom none total (index + 1) rest p.skip) c w'
      else
        let made := runOn store clock (apply planned.step).run c w'
        runOn store clock (afterStep none total index rest p made.1.1) made.1.2 made.2 := by
  rw [applyFrom, runOn_bind, runOn_announce, runOn_bind, runOn_isLate_none]
  dsimp only
  rw [if_neg Bool.false_ne_true]
  by_cases hp : planned.satisfied
  · rw [if_pos hp, if_pos hp]
  · rw [if_neg hp, if_neg hp, runOn_bind]
    rcases (runOn store clock (apply planned.step).run c
      (w.announce (.applying (index + 1) total))).1.1 with f | _ | ch <;> rfl

/-- Without a deadline, a step is made and counted by what it gave. -/
theorem runOn_applyEachFrom_cons (total index : Nat) (planned : PlannedStep)
    (rest : List PlannedStep) (p : Progress) :
    runOn store clock (applyEachFrom none total index (planned :: rest) p) c w =
      let made := runOn store clock (apply planned.step).run c
        (w.announce (.applying (index + 1) total))
      runOn store clock (eachAfterStep total index rest p made.1.1) made.1.2 made.2 := by
  rw [applyEachFrom, runOn_bind, runOn_announce, runOn_bind, runOn_isLate_none]
  dsimp only
  rw [if_neg Bool.false_ne_true, runOn_bind]
  rcases (runOn store clock (apply planned.step).run c
    (w.announce (.applying (index + 1) total))).1.1 with f | _ | ch <;> rfl

end Runs

/-! ## Steps that hold -/

variable {w : World SimHost}

/-- A program that moves no device and has no catalog runs by itself. -/
theorem runOn_shared (p : HostM α) :
    runOn SimHost.answer clock (liftM (liftM p : CatalogM α) : Binding.MoveM α).run c w =
      (((Prog.run (World.handler SimHost.answer clock) p.run w).1.mapError .plain, c),
        (Prog.run (World.handler SimHost.answer clock) p.run w).2) := by
  show runOn _ _ (Except.mapError Binding.Failure.plain <$> (liftM p.run : CatalogProg _)) c w = _
  rw [map_eq_pure_bind, runOn_bind]
  show (((runOn _ _ (liftM p.run : CatalogProg _) c w).1.1.mapError Binding.Failure.plain, _), _) =
    _
  have lifted : runOn SimHost.answer clock (liftM p.run : CatalogProg _) c w =
      (((Prog.run (World.handler SimHost.answer clock) p.run w).1, c),
        (Prog.run (World.handler SimHost.answer clock) p.run w).2) :=
    Prog.run_bind _ _ _ _
  rw [lifted]

/-- A module that is loaded as requested is left alone. -/
theorem run_require_of_holds {m : ModuleRequest} (holds : (Step.loadModule m).Holds w.host) :
    Prog.run (World.handler SimHost.answer clock) (Loading.require m).run w = (.ok none, w) := by
  have loaded : (w.host.readModule m.name).loaded = true := (Bool.and_eq_true_iff.1 holds).1
  have free : Loading.conflict? m (w.host.readModule m.name) = none :=
    (Loading.conflict?_eq_none_iff loaded).2 holds
  unfold Loading.require
  rw [ExceptT.run_bind, Prog.run_bind]
  show Prog.run _ (ExceptT.run (if (w.host.readModule m.name).loaded then _ else _)) w = _
  rw [if_pos loaded, free]
  rfl

/-- What is mounted is left alone. -/
theorem run_mount_of_holds {r : Reservation} (mounted : w.host.isMounted r.mountPath = true) :
    Prog.run (World.handler SimHost.answer clock) (Reserving.mount r).run w = (.ok none, w) := by
  unfold Reserving.mount
  rw [ExceptT.run_bind, Prog.run_bind]
  show Prog.run _ (ExceptT.run (if w.host.isMounted r.mountPath then _ else _)) w = _
  rw [if_pos mounted]
  rfl

/-- A pool that does as it is is left alone. -/
theorem run_reserve_of_holds {r : Reservation} (holds : (Step.reserve r).Holds w.host) :
    Prog.run (World.handler SimHost.answer clock) (Reserving.reserve r).run w = (.ok none, w) := by
  obtain ⟨mounted, n, read, met⟩ := holds
  unfold Reserving.reserve
  rw [ExceptT.run_bind, Prog.run_bind]
  show Prog.run _ (ExceptT.run (if w.host.isMounted r.mountPath then _ else _)) w = _
  have count : Prog.run (World.handler SimHost.answer clock) (HostM.ask (.pageCount r.pool)).run w =
      (w.host.readPages r.pool, w) := rfl
  rw [if_pos mounted, ExceptT.run_bind, Prog.run_bind, count, read]
  show Prog.run _ (ExceptT.run (if r.isMetBy n then _ else _)) w = _
  rw [if_pos met]
  rfl

/-- A device that is bound to the driver is left alone, and is known to be. -/
theorem runOn_handOver_of_holds {a : PciAddress} {target : String} (mirrors : c.Mirrors w.host)
    (read : w.host.readDriver a = .ok (some target)) :
    runOn SimHost.answer clock (Binding.handOver a target).run c w = ((.ok none, c), w) := by
  have bound : runOn SimHost.answer clock (liftM (liftM (HostM.ask (.boundDriver a)) :
      CatalogM (Option String)) : Binding.MoveM (Option String)).run c w =
        ((.ok (some target), c), w) := by
    show (((w.host.readDriver a).mapError _, c), w) = _
    rw [read]
    rfl
  unfold Binding.handOver
  rw [ExceptT.run_bind, runOn_bind, bound]
  show runOn _ _ (ExceptT.run (if some target = some target then _ else _)) c w = _
  rw [if_pos rfl]
  show ((_, c.noteBinding a (some target)), w) = _
  rw [mirrors.noteBinding_eq read]

/-- Making a step that holds changes nothing, and says so. -/
theorem runOn_apply_of_holds {step : Step} (mine : step ∈ g.steps) (mirrors : c.Mirrors w.host)
    (holds : step.Holds w.host) :
    runOn SimHost.answer clock (apply step).run c w = ((.ok none, c), w) := by
  rcases SetupGoal.mem_steps.1 mine with ⟨m, _, rfl⟩ | rfl | rfl | ⟨a, _, rfl⟩
  · refine (runOn_shared _).trans ?_
    rw [run_require_of_holds holds]
    rfl
  · refine (runOn_shared _).trans ?_
    rw [run_mount_of_holds holds]
    rfl
  · refine (runOn_shared _).trans ?_
    rw [run_reserve_of_holds holds]
    rfl
  · exact runOn_handOver_of_holds mirrors holds

/-- A setup that passes over the steps that hold ends as one that makes them. -/
theorem runOn_applyEachFrom (total index : Nat) (steps : List PlannedStep) (p : Progress)
    (mine : ∀ planned ∈ steps, planned.step ∈ g.steps)
    (marked : ∀ planned ∈ steps, planned.satisfied = true → planned.step.Holds w.host)
    (mirrors : c.Mirrors w.host) :
    runOn SimHost.answer clock (applyEachFrom none total index steps p) c w =
      runOn SimHost.answer clock (applyFrom none total index steps p) c w := by
  induction steps generalizing index p c w with
  | nil => rfl
  | cons planned rest ih =>
    obtain ⟨isMine, areMine⟩ := List.forall_mem_cons.1 mine
    obtain ⟨first, later⟩ := List.forall_mem_cons.1 marked
    rw [runOn_applyEachFrom_cons, runOn_applyFrom_cons]
    let announced := w.announce (.applying (index + 1) total)
    by_cases hp : planned.satisfied
    · have made : runOn SimHost.answer clock (apply planned.step).run c announced =
          ((.ok none, c), announced) := runOn_apply_of_holds isMine mirrors (first hp)
      rw [if_pos hp, made]
      exact ih (index + 1) p.skip areMine later mirrors
    · -- what this step leaves behind: a mirror, and a host on which the satisfied steps still hold
      rw [if_neg hp]
      have kept := (mirroring_apply planned.step mirrors).of_run SimHost.answer clock announced id
        fun _ _ => .inl rfl
      have held := (holds_apply isMine (c := c) (h := w.host)).of_run SimHost.answer clock announced
        id fun _ _ => rfl
      have mirrors' := kept.2
      have holds' := held.2.2
      show runOn _ _ (eachAfterStep _ _ _ _ (runOn _ _ _ c announced).1.1) _ _ =
        runOn _ _ (afterStep _ _ _ _ _ (runOn _ _ _ c announced).1.1) _ _
      generalize runOn SimHost.answer clock (apply planned.step).run c announced = made
        at mirrors' holds' ⊢
      obtain ⟨⟨f | _ | ch, c'⟩, w'⟩ := made
      · rfl
      · refine ih (index + 1) p.skip areMine (fun other hother hs => ?_) mirrors'
        exact (holds' none rfl).2 _ (areMine other hother) (later other hother hs)
      · refine ih (index + 1) (p.note ch) areMine (fun other hother hs => ?_) mirrors'
        exact (holds' (some ch) rfl).2 _ (areMine other hother) (later other hother hs)

/-- A setup without a deadline ends as if it passed over no step: on every host on which each
device has an address of its own, whatever fails there, it ends with the same outcome, and it
leaves the same catalog and the same host, with the same list of changes. -/
theorem skipping_is_an_optimization (policy : Policy) (untimed : policy.timeout = none)
    (g : SetupGoal) (clock : Nat → Nat) (w : World SimHost)
    (distinct : (w.host.devices.map (·.address)).Nodup) :
    runOn SimHost.answer clock (run policy g) policy.freshCatalog w =
      runOn SimHost.answer clock (runEach policy g) policy.freshCatalog w := by
  unfold run runEach
  rw [runOn_bind, runOn_announce, runOn_bind, runOn_announce, runOn_bind]
  rw [runOn_bind, runOn_announce, runOn_bind, runOn_announce, runOn_bind]
  let probing := (w.announce .idle).announce .probing
  have start : policy.freshCatalog.Mirrors w.host := Catalog.mirrors_new _ _ distinct
  have kept := (inspecting_mirrors.plan policy.filter (.setup g) start).of_run SimHost.answer clock
    probing id fun _ _ => .inl rfl
  have planned := (Plan.ensures_made (c := policy.freshCatalog) (h := w.host)
    policy.filter g).of_run SimHost.answer clock probing id fun _ _ => rfl
  have mirrors := kept.2
  have ends := planned.2
  dsimp only
  generalize runOn SimHost.answer clock (plan policy.filter (.setup g)).run policy.freshCatalog
    probing = made at mirrors ends ⊢
  obtain ⟨⟨result, c'⟩, w'⟩ := made
  obtain ⟨same, ends⟩ := ends
  cases ends with
  | unlisted fails => rfl
  | refused addresses refused => rfl
  | @made v ts lists addresses admitted shows =>
    -- planning only read, so the steps are marked after the host on which they will be made
    dsimp only
    rw [carryOut, untimed]
    symm
    apply runOn_applyEachFrom (g := g)
    · exact fun planned hplanned => Plan.step_mem_steps hplanned
    · intro planned hplanned
      have host : w'.host = w.host := same
      rw [host]
      exact (Plan.satisfied_iff_holds shows hplanned).1
    · exact mirrors

/-- A setup that finds one of its modules loaded and one of its controllers handed over makes the
other four steps, and counts the two as it would had it tried them. -/
theorem half_done_setup_counted :
    let g := Topology.handOver [Topology.dataNic, Topology.secondDataNic]
    let w : World SimHost :=
      { host := (Topology.threeNics.addLoaded "vfio" ∅).setDriver Topology.dataNic "vfio-pci" }
    (runOn SimHost.answer (fun _ => 0) (run {} g) (Policy.freshCatalog {}) w).1.1 =
        .committed [.moduleLoaded "vfio-pci", .mounted ⟨"/mnt/huge"⟩ 2048,
          .reserved Topology.largePages 0, .rebound Topology.secondDataNic (some "e1000") true] 4 2 ∧
      runOn SimHost.answer (fun _ => 0) (run {} g) (Policy.freshCatalog {}) w =
        runOn SimHost.answer (fun _ => 0) (runEach {} g) (Policy.freshCatalog {}) w := by
  intro g w
  exact ⟨by decide +kernel, skipping_is_an_optimization {} rfl g (fun _ => 0) w (by decide)⟩

end Setup

end Provision
