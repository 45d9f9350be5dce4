import Provision.Proofs.Announcements
import Provision.Proofs.FixedPoint

/-!
# Dependency order

The resources of a setup stand in layers: modules, the mount, the pool, and the
devices on top.  A setup changes a resource only while all that it asks for in the
layers below holds, also while it is undone: a rollback goes through the layers from
the top.

Main results:

- `SetupGoal.StandsBelow.answer`: a call leaves the layers below its own alone.
- `Setup.Orderly.next`: one step further, the layers below every change still stand.
- `Setup.orderly_run`: a setup changes a resource only while the layers below it stand.
-/

namespace Provision

open StoreTerms CatalogProg

/-! ## Layers -/

/-- The layer of a resource. -/
def Resource.layer : Resource → Nat
  | .module _ => 0
  | .mount _ => 1
  | .pool _ => 2
  | .device _ => 3

/-- The layer that a call reads or changes. -/
def StoreCall.layer : StoreCall → Nat
  | .moduleState _ | .loadModule _ | .unloadModule _ => 0
  | .isMounted _ | .mount _ _ | .unmount _ => 1
  | .pageCount _ | .setPageCount _ _ => 2
  | .boundDriver _ | .unbind _ _ | .bind _ _ | .listDevices _ | .homeDriver _ | .setHome _ _
  | .clearHome _ | .recordedDevices => 3

/-- The layer of a step. -/
abbrev Step.layer (step : Step) : Nat := step.resource.layer

/-- The layer of a change. -/
abbrev Change.layer (ch : Change) : Nat := ch.resource.layer

/-- A step depends on no layer above its own. -/
theorem Step.layer_of_mem_reads {step : Step} {r : Resource} (h : r ∈ step.reads) :
    r.layer ≤ step.layer := by
  cases step <;> simp only [reads, List.mem_cons, List.not_mem_nil, or_false] at h
  case reserve spec =>
    rcases h with rfl | rfl
    · exact Nat.le_succ 1
    · exact Nat.le_refl 2
  all_goals exact h ▸ Nat.le_refl _

/-- The steps of a setup go through the layers from the bottom. -/
theorem SetupGoal.pairwise_layer_steps (g : SetupGoal) :
    g.steps.Pairwise fun earlier later => earlier.layer ≤ later.layer := by
  have modules : (g.modules.map Step.loadModule).Pairwise fun a b => a.layer ≤ b.layer :=
    List.pairwise_map.2 (List.pairwise_of_forall fun _ _ => Nat.le_refl 0)
  have devices : (g.devices.toList.map (Step.rebind · g.target)).Pairwise
      fun a b => a.layer ≤ b.layer :=
    List.pairwise_map.2 (List.pairwise_of_forall fun _ _ => Nat.le_refl 3)
  have pages : [Step.mount g.pages, Step.reserve g.pages].Pairwise fun a b => a.layer ≤ b.layer :=
    List.pairwise_pair.2 (Nat.le_succ 1)
  refine List.pairwise_append.2 ⟨List.pairwise_append.2 ⟨modules, pages, ?_⟩, devices, ?_⟩
  · intro step hstep other _
    obtain ⟨m, _, rfl⟩ := List.mem_map.1 hstep
    exact Nat.zero_le _
  · intro other _ step hstep
    obtain ⟨a, _, rfl⟩ := List.mem_map.1 hstep
    show other.resource.layer ≤ 3
    cases other.resource with
    | module name => exact Nat.zero_le 3
    | mount key => exact Nat.le_of_ble_eq_true rfl
    | pool p => exact Nat.le_succ 2
    | device b => exact Nat.le_refl 3

/-! ## Layers that stand -/

variable {α : Type} {g : SetupGoal} {c : Catalog} {h : SimHost} {n : Nat}

/-- All that a setup asks for below a layer holds. -/
def SetupGoal.StandsBelow (g : SetupGoal) (n : Nat) (h : SimHost) : Prop :=
  ∀ step ∈ g.steps, step.layer < n → step.Holds h

/-- A call leaves the layers below its own alone. -/
theorem SetupGoal.StandsBelow.answer {call : StoreCall} (stands : g.StandsBelow n h)
    (above : ∀ r, call.resource? = some r → n ≤ r.layer) :
    g.StandsBelow n (SimHost.answer call h).2 := by
  intro step mine below
  refine (stands step mine below).congr (SimHost.sameMachine_answer call h).faults fun r hr => ?_
  refine SimHost.view_answer_of_ne (fun about => ?_) h
  have lower : r.layer ≤ step.layer := Step.layer_of_mem_reads hr
  exact absurd (above r about) (Nat.not_le.2 (Nat.lt_of_le_of_lt lower below))

/-- The terms of changing a resource only while the layers below it stand. -/
def StoreTerms.orderly (g : SetupGoal) : StoreTerms SimHost :=
  fun call h _ _ => ∀ r, call.resource? = some r → g.StandsBelow r.layer h

/-- A program that keeps to one resource is orderly when the layers below it stand, and they go on
standing. -/
theorem orderly_of_within {r : Resource} {p : CatalogProg α} {Q : α → Catalog → SimHost → Prop}
    (contract : Ensures (of SimHost.answer) (within (· = r)) p c h Q)
    (stands : g.StandsBelow r.layer h) :
    Ensures (of SimHost.answer) (orderly g) p c h fun a c' h' =>
      Q a c' h' ∧ ∀ n ≤ r.layer, g.StandsBelow n h → g.StandsBelow n h' := by
  have kept := contract.invariant
    (J := fun h' => ∀ n ≤ r.layer, g.StandsBelow n h → g.StandsBelow n h')
    (fun call s reply s' answered inside holds n hn start => by
      have after : (SimHost.answer call s).2 = s' := congrArg Prod.snd answered
      refine after ▸ (holds n hn start).answer fun r' about => ?_
      exact inside r' about ▸ hn)
    fun _ _ start => start
  refine kept.weaken (fun _ _ _ _ answered => answered) fun call s reply s' _ promise r' about => ?_
  obtain ⟨inside, before, _⟩ := promise
  rw [inside r' about]
  exact before r.layer (Nat.le_refl _) stands

namespace Setup

/-- Changes are undone orderly from the top layer down. -/
theorem orderly_undoAll (changes : List Change)
    (descending : changes.Pairwise fun newer older => older.layer ≤ newer.layer)
    (stand : ∀ ch ∈ changes, g.StandsBelow ch.layer h) :
    Ensures (of SimHost.answer) (orderly g) (undoAll changes) c h fun _ _ _ => True := by
  induction changes generalizing c h with
  | nil => trivial
  | cons ch older ih =>
    obtain ⟨below, descending⟩ := List.pairwise_cons.1 descending
    rw [ensures_undoAll_cons]
    apply (orderly_of_within (within_undo ch rfl) (stand ch (List.mem_cons_self ..))).mono
    intro result c' h' undone
    refine (ih descending fun other hother => ?_).mono fun _ _ _ _ => trivial
    exact undone.2 _ (below other hother) (stand other (List.mem_cons_of_mem _ hother))

theorem orderly_abort (e : Error) (journal : Journal)
    (ascending : journal.Pairwise fun older newer => older.layer ≤ newer.layer)
    (stand : ∀ ch ∈ journal, g.StandsBelow ch.layer h) :
    Ensures (of SimHost.answer) (orderly g) (abort e journal) c h fun _ _ _ => True := by
  rw [ensures_abort]
  refine (orderly_undoAll journal.newestFirst (List.pairwise_reverse.2 ascending) ?_).mono ?_
  · exact fun ch hch => stand ch (List.mem_reverse.1 hch)
  · exact fun _ _ _ _ => trivial

/-- The changes that a setup has noted and the steps that are still to come go through the layers
from the bottom. -/
def Ascending (noted : Journal) (steps : List PlannedStep) : Prop :=
  (noted.map Change.layer ++ steps.map (·.step.layer)).Pairwise (· ≤ ·)

variable {noted : Journal} {planned : PlannedStep} {rest : List PlannedStep}

theorem Ascending.skip (ascending : Ascending noted (planned :: rest)) : Ascending noted rest :=
  List.Pairwise.sublist (List.Sublist.append_left (List.sublist_cons_self ..) _) ascending

/-- A change takes the place of the step that made it. -/
theorem Ascending.note (ascending : Ascending noted (planned :: rest)) {made : Option Change}
    (about : ∀ ch, made = some ch → ch.resource = planned.step.resource) :
    Ascending (noted ++ made.toList) rest := by
  cases made with
  | none => simpa using ascending.skip
  | some ch =>
    have layer : ch.layer = planned.step.layer := congrArg Resource.layer (about ch rfl)
    simpa [Ascending, layer] using ascending

theorem Ascending.journal {steps : List PlannedStep} (ascending : Ascending noted steps) :
    noted.Pairwise fun older newer => older.layer ≤ newer.layer :=
  List.pairwise_map.1 (List.pairwise_append.1 ascending).1

theorem Ascending.le (ascending : Ascending noted (planned :: rest)) {ch : Change}
    (hch : ch ∈ noted) : ch.layer ≤ planned.step.layer :=
  (List.pairwise_append.1 ascending).2.2 _ (List.mem_map_of_mem hch) _ (List.mem_cons_self ..)

theorem Ascending.rest_le (ascending : Ascending noted (planned :: rest)) {other : PlannedStep}
    (hother : other ∈ rest) : planned.step.layer ≤ other.step.layer :=
  List.rel_of_pairwise_cons (List.pairwise_append.1 ascending).2.1 (List.mem_map_of_mem hother)

/-- How far an orderly setup has come: every step holds or is still to come, and the layers below
every change stand. -/
structure Orderly (g : SetupGoal) (h : SimHost) (noted : Journal) (steps : List PlannedStep) :
    Prop where
  ascending : Ascending noted steps
  mine : ∀ planned ∈ steps, planned.step ∈ g.steps
  marked : ∀ planned ∈ steps, planned.satisfied = true → planned.step.Holds h
  due : ∀ step ∈ g.steps, step.Holds h ∨ ∃ planned ∈ steps, planned.step = step
  stand : ∀ ch ∈ noted, g.StandsBelow ch.layer h

/-- The layers below the step that comes next stand. -/
theorem Orderly.standsBelow (orderly : Orderly g h noted (planned :: rest)) :
    g.StandsBelow planned.step.layer h := by
  intro step mine below
  refine (orderly.due step mine).resolve_right ?_
  rintro ⟨other, hother, rfl⟩
  rcases List.mem_cons.1 hother with rfl | later
  · exact absurd below (Nat.lt_irrefl _)
  · exact absurd (orderly.ascending.rest_le later) (Nat.not_le.2 below)

/-- A setup comes one step further when the step holds and the other steps go on holding. -/
theorem Orderly.next {h' : SimHost} (made : Option Change)
    (orderly : Orderly g h noted (planned :: rest)) (holds : planned.step.Holds h')
    (kept : ∀ step ∈ g.steps, step.Holds h → step.Holds h')
    (about : ∀ ch, made = some ch → ch.resource = planned.step.resource) :
    Orderly g h' (noted ++ made.toList) rest where
  ascending := orderly.ascending.note about
  mine other hother := orderly.mine other (List.mem_cons_of_mem _ hother)
  marked other hother satisfied :=
    kept _ (orderly.mine other (List.mem_cons_of_mem _ hother))
      (orderly.marked other (List.mem_cons_of_mem _ hother) satisfied)
  due step mine := by
    rcases orderly.due step mine with before | ⟨other, hother, rfl⟩
    · exact .inl (kept step mine before)
    · rcases List.mem_cons.1 hother with rfl | later
      · exact .inl holds
      · exact .inr ⟨other, later, rfl⟩
  stand ch hch := by
    rcases List.mem_append.1 hch with old | new
    · exact fun step mine below => kept step mine (orderly.stand ch old step mine below)
    · have layer : ch.layer = planned.step.layer :=
        congrArg Resource.layer (about ch (Option.mem_toList.1 new))
      exact layer ▸ fun step mine below => kept step mine (orderly.standsBelow step mine below)

/-- The steps of a setup are made orderly, and undone orderly. -/
theorem orderly_applyFrom (timeout : Option Nat) (total index : Nat) (steps : List PlannedStep)
    (p : Progress) (come : Orderly g h p.journal steps) :
    Ensures (of SimHost.answer) (orderly g) (applyFrom timeout total index steps p) c h
      fun _ _ _ => True := by
  induction steps generalizing index p c h with
  | nil =>
    rw [ensures_applyFrom_nil]
    trivial
  | cons planned rest ih =>
    have isMine := come.mine planned (List.mem_cons_self ..)
    rw [ensures_applyFrom_cons]
    apply ensures_isLate timeout index
    intro late
    by_cases hl : late
    · rw [if_pos hl]
      exact orderly_abort _ _ come.ascending.journal come.stand
    · rw [if_neg hl]
      by_cases hp : planned.satisfied
      · rw [if_pos hp]
        have holds := come.marked planned (List.mem_cons_self ..) hp
        have next := come.next none holds (fun _ _ before => before) nofun
        rw [Option.toList_none, List.append_nil] at next
        exact ih (index + 1) p.skip next
      · rw [if_neg hp]
        have kept := orderly_of_within (within_apply (c := c) planned.step rfl) come.standsBelow
        apply (kept.also (holds_apply isMine)).mono
        intro result c' h' made
        obtain ⟨⟨about, lower⟩, _, holds⟩ := made
        rcases result with f | _ | ch
        · refine orderly_abort _ _ (come.ascending.note about).journal fun ch hch => ?_
          rcases List.mem_append.1 hch with old | new
          · exact lower _ (come.ascending.le old) (come.stand ch old)
          · have layer : ch.layer = planned.step.layer :=
              congrArg Resource.layer (about ch (Option.mem_toList.1 new))
            exact layer ▸ lower _ (Nat.le_refl _) come.standsBelow
        · have next := come.next none (holds none rfl).1 (holds none rfl).2 nofun
          rw [Option.toList_none, List.append_nil] at next
          exact ih (index + 1) p.skip next
        · have next := come.next (some ch) (holds _ rfl).1 (holds _ rfl).2 about
          exact ih (index + 1) (p.note ch) next

theorem ascending_setupSteps (v : HostView) (g : SetupGoal) :
    Ascending [] (Plan.setupSteps v g) := by
  have steps := List.pairwise_map.2 g.pairwise_layer_steps
  rw [← Plan.steps_setupSteps v g, List.map_map] at steps
  exact steps

/-- A setup that was planned has nothing behind it and all its steps before it. -/
theorem orderly_setupSteps {v : HostView} (shows : Survey.Shows h g v) :
    Orderly g h [] (Plan.setupSteps v g) where
  ascending := ascending_setupSteps v g
  mine _ hplanned := Plan.step_mem_steps hplanned
  marked _ hplanned := (Plan.satisfied_iff_holds shows hplanned).1
  due step mine := by
    rw [← Plan.steps_setupSteps v g] at mine
    exact .inr (List.mem_map.1 mine)
  stand _ hch := absurd hch List.not_mem_nil

/-- A setup changes a resource only while the layers below it stand. -/
theorem orderly_run (policy : Policy) (g : SetupGoal) :
    Ensures (of SimHost.answer) (orderly g) (run policy g) c h fun _ _ _ => True := by
  rw [ensures_run]
  have planned := (within_plan_setup (A := of SimHost.answer) (F := fun _ => False) (c := c)
    (s := h) policy.filter g).also (Plan.ensures_made policy.filter g)
  apply (planned.weaken (fun _ _ _ _ answered => answered)
    fun _ _ _ _ _ reads r about => (reads r about).elim).mono
  intro result c' h' made
  obtain ⟨_, rfl, ends⟩ := made
  cases ends with
  | unlisted fails => trivial
  | refused addresses refused => trivial
  | made lists addresses admitted shows =>
    exact orderly_applyFrom policy.timeout _ 0 _ {} (orderly_setupSteps shows)

end Setup

end Provision
