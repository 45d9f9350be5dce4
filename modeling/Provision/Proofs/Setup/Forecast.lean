import Mathlib.Data.List.Forall2
import Mathlib.Data.List.Nodup
import Provision.Proofs.Inspection
import Provision.Proofs.Refusal
import Provision.Proofs.Skipping

/-!
# Plans of setups

The plan of a setup is made before the setup makes its first step, and the setup looks
at every resource again when it comes to its step.  No step is about the resource of
another one, so each of them still finds what the plan saw: a step that the plan marks
as satisfied notes nothing, and the others note the changes that they make.  A
reservation differs: it asks for a mount as well as for pages, and notes only pages.

Main results:

- `Plan.isDue_iff`: the steps that are due are those whose resource is not as they ask.
- `Setup.notes_apply`: a step notes a change exactly when it was due.
- `Setup.foretold_applyFrom`: the steps in order.
- `Setup.dry_run_foretells`: the plan and the setup.
-/

namespace Provision

open StoreTerms CatalogProg

/-! ## Steps that are due -/

/-- What a step notes of the change that it makes. -/
def Step.Notes : Step → Change → Prop
  | .loadModule m, ch => ch = .moduleLoaded m.name
  | .mount r, ch => ch = .mounted r.mountPath r.pageKb
  | .reserve r, ch => ∃ previous, ch = .reserved r.pool previous
  | .rebind a _, ch => ∃ prior recorded, ch = .rebound a prior recorded
  | .restore _ _, _ => False

/-- Whether a pool holds an acceptable number of pages, as far as it can be read. -/
def SimHost.meets (h : SimHost) (r : Reservation) : Bool :=
  (Observed.ofResult (h.readPages r.pool)).holds r.isMetBy

/-- Whether a planned step will make a change: one that is satisfied will not, and neither will a
reservation that only lacks its mount. -/
def PlannedStep.isDue (h : SimHost) : PlannedStep → Bool
  | ⟨.reserve r, satisfied⟩ => !satisfied && !h.meets r
  | ⟨_, satisfied⟩ => !satisfied

theorem PlannedStep.isDue_of_satisfied {planned : PlannedStep} {h : SimHost}
    (satisfied : planned.satisfied = true) : planned.isDue h = false := by
  obtain ⟨step, marked⟩ := planned
  have marked : marked = true := satisfied
  cases step <;> simp [isDue, marked]

/-- The resource of a step is as the step asks for it; of a reservation, that is the pool. -/
def Step.Stands (h : SimHost) : Step → Prop
  | .reserve r => h.meets r = true
  | step => step.Holds h

variable {h h' h₀ : SimHost} {g : SetupGoal} {step : Step} {c : Catalog}

/-- Of a step that reserves no pages, the whole is asked for. -/
theorem Step.stands_iff_holds (other : ∀ r, step ≠ .reserve r) : step.Stands h ↔ step.Holds h := by
  cases step with
  | reserve r => exact absurd rfl (other r)
  | _ => exact Iff.rfl

/-- Whether a step finds its resource as it asks for it is a matter of this resource alone. -/
theorem Step.Stands.congr (stands : step.Stands h) (faults : h'.faults = h.faults)
    (same : h'.view step.resource = h.view step.resource) : step.Stands h' := by
  by_cases pages : ∃ r, step = .reserve r
  · obtain ⟨r, rfl⟩ := pages
    have pool : h'.pools.get? r.pool = h.pools.get? r.pool := same
    have read : h'.readPages r.pool = h.readPages r.pool := by
      unfold SimHost.readPages
      rw [faults, pool]
    show h'.meets r = true
    unfold SimHost.meets
    rw [read]
    exact stands
  · have other (r : Reservation) : step ≠ .reserve r := fun e => pages ⟨r, e⟩
    rw [stands_iff_holds other] at stands ⊢
    refine stands.congr faults fun r hr => ?_
    have itself : r = step.resource := by
      cases step with
      | reserve r => exact absurd rfl (other r)
      | _ => exact List.mem_singleton.1 hr
    rw [itself]
    exact same

/-- On the host that the plan was made on, the steps that are due are those that do not find their
resource as they ask for it. -/
theorem Plan.isDue_iff {v : HostView} (shows : Survey.Shows h g v) {planned : PlannedStep}
    (hplanned : planned ∈ setupSteps v g) :
    planned.isDue h = true ↔ ¬ planned.step.Stands h := by
  have marked := satisfied_iff_holds shows hplanned
  obtain ⟨step, satisfied⟩ := planned
  have marked : satisfied = true ↔ step.Holds h := marked
  by_cases pages : ∃ r, step = .reserve r
  · obtain ⟨r, rfl⟩ := pages
    have met : satisfied = true → h.meets r = true := fun holds =>
      (Observed.holds_ofResult _ _).2 (marked.1 holds).2
    show (!satisfied && !h.meets r) = true ↔ ¬ h.meets r = true
    cases satisfied with
    | false => simp
    | true => simp [met rfl]
  · have other (r : Reservation) : step ≠ .reserve r := fun e => pages ⟨r, e⟩
    have plain : PlannedStep.isDue h ⟨step, satisfied⟩ = !satisfied := by
      cases step with
      | reserve r => exact absurd rfl (other r)
      | _ => rfl
    rw [plain, Bool.not_eq_true', ← Bool.not_eq_true, marked, Step.stands_iff_holds other]

/-! ## Making steps -/

/-- What becomes of a step that is made: it notes nothing where its resource is as it asks for it,
and its change elsewhere. -/
def Step.Tells (step : Step) (h : SimHost) : Option Change → Prop
  | none => step.Stands h
  | some ch => step.Notes ch ∧ ¬ step.Stands h

theorem Loading.notes_require (m : ModuleRequest) :
    HostProg.Ensures (of SimHost.answer) free (require m).run h fun result _ =>
      ∀ made, result = .ok made → (Step.loadModule m).Tells h made := by
  rw [ensures_require, SimHost.asks_of_read rfl]
  show if (h.readModule m.name).loaded then _ else _
  by_cases loaded : (h.readModule m.name).loaded
  · rw [if_pos loaded]
    cases conflict : conflict? m (h.readModule m.name) with
    | some parameter => exact nofun
    | none =>
      rintro made ⟨⟩
      exact (conflict?_eq_none_iff loaded).1 conflict
  · have busy : ¬ (Step.loadModule m).Stands h := fun stands =>
      loaded (Bool.and_eq_true_iff.1 stands).1
    rw [if_neg loaded, ensures_loadAbsent, asks_of]
    refine ⟨trivial, ?_⟩
    cases (SimHost.answer (.loadModule m) h).1 with
    | error e => exact nofun
    | ok _ =>
      rw [SimHost.asks_of_read rfl]
      show if ((SimHost.answer (.loadModule m) h).2.readModule m.name).loaded then _ else _
      by_cases there : ((SimHost.answer (.loadModule m) h).2.readModule m.name).loaded
      · rw [if_pos there]
        rintro made ⟨⟩
        exact ⟨rfl, busy⟩
      · rw [if_neg there]
        exact nofun

namespace Reserving

theorem notes_mount (r : Reservation) :
    HostProg.Ensures (of SimHost.answer) free (mount r).run h fun result _ =>
      ∀ made, result = .ok made → (Step.mount r).Tells h made := by
  rw [ensures_mount, SimHost.asks_of_read rfl]
  show if h.isMounted r.mountPath then _ else _
  by_cases mounted : h.isMounted r.mountPath
  · rw [if_pos mounted]
    rintro made ⟨⟩
    exact mounted
  · rw [if_neg mounted, asks_of]
    refine ⟨trivial, ?_⟩
    cases (SimHost.answer (.mount r.mountPath r.pageKb) h).1 with
    | error e => exact nofun
    | ok _ =>
      rintro made ⟨⟩
      exact ⟨rfl, mounted⟩

/-- Whether a pool that was read will do. -/
theorem meets_iff {r : Reservation} {n : Nat} (read : h.readPages r.pool = .ok n) :
    h.meets r = true ↔ r.isMetBy n = true := by
  unfold SimHost.meets
  rw [read]
  exact Iff.rfl

theorem notes_reserve (r : Reservation) :
    HostProg.Ensures (of SimHost.answer) free (reserve r).run h fun result _ =>
      ∀ made, result = .ok made → (Step.reserve r).Tells h made := by
  rw [ensures_reserve, SimHost.asks_of_read rfl]
  show if h.isMounted r.mountPath then _ else _
  by_cases mounted : h.isMounted r.mountPath
  · rw [if_pos mounted, SimHost.asks_of_read rfl]
    cases read : (SimHost.answer (.pageCount r.pool) h).1 with
    | error e => exact nofun
    | ok previous =>
      show if r.isMetBy previous then _ else _
      by_cases met : r.isMetBy previous
      · rw [if_pos met]
        rintro made ⟨⟩
        exact (meets_iff read).2 met
      · have busy : ¬ (Step.reserve r).Stands h := fun stands => met ((meets_iff read).1 stands)
        rw [if_neg met, ensures_resize, asks_of]
        refine ⟨trivial, ?_⟩
        cases (SimHost.answer (.setPageCount r.pool r.count) h).1 with
        | error e => exact nofun
        | ok _ =>
          rw [SimHost.asks_of_read rfl]
          cases (SimHost.answer (.pageCount r.pool)
              (SimHost.answer (.setPageCount r.pool r.count) h).2).1 with
          | error e => exact nofun
          | ok granted =>
            intro made accepted
            unfold judge at accepted
            split at accepted
            · cases accepted
            · cases accepted
              exact ⟨⟨previous, rfl⟩, busy⟩
  · rw [if_neg mounted]
    exact nofun

end Reserving

theorem Binding.notes_handOver (a : PciAddress) (target : String) :
    Ensures (of SimHost.answer) free (handOver a target).run c h fun result _ _ =>
      ∀ made, result = .ok made → (Step.rebind a target).Tells h made := by
  rw [ensures_handOver, SimHost.asks_of_read rfl]
  cases read : (SimHost.answer (.boundDriver a) h).1 with
  | error e => exact nofun
  | ok current =>
    show if current = some target then _ else _
    by_cases already : current = some target
    · rw [if_pos already]
      rintro made ⟨⟩
      exact read.trans (congrArg Except.ok already)
    · have busy : ¬ (Step.rebind a target).Stands h := fun stands =>
        already (Except.ok.inj (read.symm.trans stands))
      rw [if_neg already]
      apply (HostProg.ensures_true _).mono
      intro released h₁ _
      obtain ⟨result, c₁⟩ := released
      cases result with
      | error e => exact nofun
      | ok recorded =>
        refine (ensures_attach a target current recorded).2 (asks_of.2 ⟨trivial, ?_⟩)
        cases (SimHost.answer (.bind a target) h₁).1 with
        | error e => exact nofun
        | ok _ =>
          rintro made ⟨⟩
          exact ⟨⟨current, recorded, rfl⟩, busy⟩

namespace Setup

/-- A step of a setup that is made notes its change unless its resource is as it asks for it. -/
theorem notes_apply (mine : step ∈ g.steps) :
    Ensures (of SimHost.answer) free (apply step).run c h fun result _ _ =>
      ∀ made, result = .ok made → step.Tells h made := by
  have lift {p : HostM (Option Change)}
      (tells : HostProg.Ensures (of SimHost.answer) free p.run h fun result _ =>
        ∀ made, result = .ok made → step.Tells h made) :
      HostProg.Ensures (of SimHost.answer) free p.run h fun result _ =>
        ∀ made, result.mapError Binding.Failure.plain = .ok made → step.Tells h made := by
    apply tells.mono
    intro result _ tells made same
    cases result with
    | error e => cases same
    | ok _ =>
      cases same
      exact tells _ rfl
  rcases SetupGoal.mem_steps.1 mine with ⟨m, _, rfl⟩ | rfl | rfl | ⟨a, _, rfl⟩
  · rw [ensures_apply_loadModule]
    exact lift (Loading.notes_require m)
  · rw [ensures_apply_mount]
    exact lift (Reserving.notes_mount g.pages)
  · rw [ensures_apply_reserve]
    exact lift (Reserving.notes_reserve g.pages)
  · exact Binding.notes_handOver a g.target

/-! ## Steps in order -/

/-- A setup that was committed has noted, besides what it had noted `before`, the changes of the
steps that were due, in order. -/
def NotedDue (h₀ : SimHost) (steps : List PlannedStep) (before : Journal) (outcome : Outcome) :
    Prop :=
  ∀ journal applied skipped, outcome = .committed journal applied skipped →
    ∃ noted, journal = before ++ noted ∧
      List.Forall₂ (fun planned ch => planned.step.Notes ch) (steps.filter (·.isDue h₀)) noted

section

variable {planned : PlannedStep} {rest : List PlannedStep} {before : Journal} {outcome : Outcome}

theorem NotedDue.of_skipped (unchanged : ¬ planned.isDue h₀ = true)
    (later : NotedDue h₀ rest before outcome) : NotedDue h₀ (planned :: rest) before outcome := by
  unfold NotedDue
  rw [List.filter_cons_of_neg unchanged]
  exact later

theorem NotedDue.of_noted {ch : Change} (isDue : planned.isDue h₀ = true)
    (notes : planned.step.Notes ch) (later : NotedDue h₀ rest (before ++ [ch]) outcome) :
    NotedDue h₀ (planned :: rest) before outcome := by
  intro journal applied skipped committed
  obtain ⟨noted, rfl, noting⟩ := later journal applied skipped committed
  rw [List.filter_cons_of_pos isDue]
  exact ⟨ch :: noted, List.append_assoc .., .cons notes noting⟩

end

/-- When steps about different resources come to their end, those that were due when they were
planned have noted their changes. -/
theorem foretold_applyFrom (timeout : Option Nat) (total index : Nat) (steps : List PlannedStep)
    (p : Progress) (mine : ∀ planned ∈ steps, planned.step ∈ g.steps)
    (apart : (steps.map (·.step.resource)).Nodup)
    (due : ∀ planned ∈ steps, planned.isDue h₀ = true ↔ ¬ planned.step.Stands h) :
    Ensures (of SimHost.answer) free (applyFrom timeout total index steps p) c h
      fun outcome _ _ => NotedDue h₀ steps p.journal outcome := by
  have undone {steps : List PlannedStep} {before : Journal} (e : Error) (journal : Journal)
      (c : Catalog) (h : SimHost) : Ensures (of SimHost.answer) free (abort e journal) c h
        fun outcome _ _ => NotedDue h₀ steps before outcome :=
    (abort_not_committed (Q := fun _ _ _ => False) e journal).mono
      fun _ _ _ never _ _ _ same => (never ⟨_, _, _, same⟩).elim
  induction steps generalizing index p c h with
  | nil =>
    rw [ensures_applyFrom_nil]
    rintro journal applied skipped ⟨⟩
    exact ⟨[], (List.append_nil _).symm, .nil⟩
  | cons planned rest ih =>
    obtain ⟨isMine, areMine⟩ := List.forall_mem_cons.1 mine
    obtain ⟨first, later⟩ := List.forall_mem_cons.1 due
    obtain ⟨other, apart⟩ := List.nodup_cons.1 apart
    rw [ensures_applyFrom_cons]
    apply ensures_isLate timeout index
    intro late
    by_cases hl : late
    · rw [if_pos hl]
      exact undone _ _ _ _
    · rw [if_neg hl]
      by_cases hp : planned.satisfied
      · have skipped : ¬ planned.isDue h₀ = true := by
          rw [PlannedStep.isDue_of_satisfied hp]
          exact Bool.false_ne_true
        rw [if_pos hp]
        refine (ih (index + 1) p.skip areMine apart later).mono fun _ _ _ reached => ?_
        exact reached.of_skipped skipped
      · rw [if_neg hp]
        have framed := SimHost.ensures_frame_of (F := fun r => r = planned.step.resource) (c := c)
          (h := h) (within_apply planned.step rfl)
        apply ((notes_apply isMine).also framed).mono
        intro result c' h' made
        obtain ⟨tells, _, elsewhere, machine, _⟩ := made
        -- the steps that are still to come find what they would have found before this one
        have later' : ∀ planned ∈ rest, planned.isDue h₀ = true ↔ ¬ planned.step.Stands h' := by
          intro next hnext
          have ne : next.step.resource ≠ planned.step.resource := fun e =>
            other (List.mem_map.2 ⟨next, hnext, e⟩)
          have same := elsewhere _ ne
          rw [later next hnext]
          exact not_congr ⟨fun stands => stands.congr machine.faults same,
            fun stands => stands.congr machine.faults.symm same.symm⟩
        unfold AfterStep
        rcases result with f | _ | ch
        · exact undone _ _ _ _
        · have stands : planned.step.Stands h := tells none rfl
          have unchanged : ¬ planned.isDue h₀ = true := fun isDue => first.1 isDue stands
          refine (ih (index + 1) p.skip areMine apart later').mono fun _ _ _ reached => ?_
          exact reached.of_skipped unchanged
        · obtain ⟨notes, busy⟩ := tells (some ch) rfl
          refine (ih (index + 1) (p.note ch) areMine apart later').mono fun _ _ _ reached => ?_
          exact reached.of_noted (first.2 busy) notes

/-! ## The plan and the setup -/

end Setup

/-- A program that announces nothing does the same whatever was announced before. -/
theorem HostProg.Silent.run_announce {α σ : Type} {store : StoreHandler σ} {clock : Nat → Nat}
    {p : HostProg α} (silent : Silent p) (w : World σ) (state : RunState) :
    Prog.run (World.handler store clock) p (w.announce state) =
      ((Prog.run (World.handler store clock) p w).1,
        (Prog.run (World.handler store clock) p w).2.announce state) := by
  induction p generalizing w with
  | done a => rfl
  | call call next ih =>
    cases call with
    | store call =>
      let w' : World σ := { w with host := (store call w.host).2 }
      exact ih (store call w.host).1 (silent.2 _) w'
    | elapsed =>
      let w' : World σ := { w with readings := w.readings + 1 }
      exact ih (clock w.readings) (silent.2 _) w'
    | enter entered => exact absurd rfl (silent.1 entered)

/-- No two steps of a setup are about one resource when no two modules have one name. -/
theorem SetupGoal.nodup_resources (g : SetupGoal)
    (distinct : (g.modules.map fun m => KernelModule.normalize m.name).Nodup) :
    g.resources.Nodup := by
  have modules : (g.modules.map fun m => (Step.loadModule m).resource).Nodup := by
    have names : (g.modules.map fun m => (Step.loadModule m).resource) =
        (g.modules.map fun m => KernelModule.normalize m.name).map Resource.module := by
      rw [List.map_map]
      rfl
    rw [names]
    exact List.Nodup.map (fun _ _ same => Resource.module.inj same) distinct
  have devices : (g.devices.toList.map fun a => (Step.rebind a g.target).resource).Nodup :=
    List.Nodup.map (fun _ _ same => Resource.device.inj same) g.devices.nodup_toList
  simp only [resources, steps, List.map_append, List.map_map, Function.comp_def]
  refine List.nodup_append.2 ⟨List.nodup_append.2 ⟨modules, ?_, ?_⟩, devices, ?_⟩
  · simp [Step.resource]
  · simp [Step.resource]
  · intro earlier hearlier later hlater
    obtain ⟨a, _, rfl⟩ := List.mem_map.1 hlater
    rcases List.mem_append.1 hearlier with isModule | isPages
    · obtain ⟨m, _, rfl⟩ := List.mem_map.1 isModule
      exact Resource.noConfusion
    · rcases List.mem_pair.1 isPages with rfl | rfl
      · exact Resource.noConfusion
      · exact Resource.noConfusion

namespace Setup

/-- A setup begins with its plan. -/
theorem runOn_run {σ : Type} (store : StoreHandler σ) (clock : Nat → Nat) (policy : Policy)
    (g : SetupGoal) (c : Catalog) (w : World σ) :
    runOn store clock (run policy g) c w =
      let planned := runOn store clock (plan policy.filter (.setup g)).run c w
      match planned.1.1 with
      | .error e => ((.rejected e, planned.1.2), planned.2.announce .failed)
      | .ok steps =>
        runOn store clock (carryOut policy.timeout steps) planned.1.2
          (planned.2.announce .probing) := by
  have planned : runOn store clock (plan policy.filter (.setup g)).run c
      ((w.announce .idle).announce .probing) =
        ((runOn store clock (plan policy.filter (.setup g)).run c w).1,
          (runOn store clock (plan policy.filter (.setup g)).run c w).2.announce .probing) :=
    (silent_plan_setup policy.filter g c).run_announce w .probing
  unfold run
  rw [runOn_bind, runOn_announce, runOn_bind, runOn_announce, runOn_bind, planned]
  dsimp only
  cases (runOn store clock (plan policy.filter (.setup g)).run c w).1.1 <;> rfl

/-- A setup whose steps were planned on the host as it is notes the changes of those that are due,
and is not rejected any more. -/
theorem foretold_carryOut {v : HostView} (shows : Survey.Shows h g v)
    (distinct : (g.modules.map fun m => KernelModule.normalize m.name).Nodup)
    (timeout : Option Nat) :
    Ensures (of SimHost.answer) free (carryOut timeout (Plan.setupSteps v g)) c h fun outcome _ _ =>
      NotedDue h (Plan.setupSteps v g) [] outcome ∧ ¬ outcome.IsRejected := by
  have apart : ((Plan.setupSteps v g).map (·.step.resource)).Nodup := by
    have resources := g.nodup_resources distinct
    rwa [SetupGoal.resources, ← Plan.steps_setupSteps v g, List.map_map] at resources
  refine Ensures.also ?_ (not_rejected_applyFrom _ _ _ _ _)
  apply foretold_applyFrom (g := g)
  · exact fun planned hplanned => Plan.step_mem_steps hplanned
  · exact apart
  · exact fun planned hplanned => Plan.isDue_iff shows hplanned

/-- The plan of a setup foretells the setup.  Whatever fails on the host, whatever stands there
before, and whatever a goal asks for whose modules have different names: making the plan changes
nothing; the plan fails exactly when the setup that begins with the same catalog, such as a fresh
one, on the same host is rejected, with the same error; and when the setup is committed, its journal
holds one change for each step that the plan does not mark as satisfied, in the order of the plan,
and none for the others.  The exception is a reservation that only lacks its mount when the plan is
made: the pool holds an acceptable number of pages already, and nothing is noted. -/
theorem dry_run_foretells (h : SimHost) (clock : Nat → Nat) (policy : Policy) (g : SetupGoal)
    (c : Catalog) (distinct : (g.modules.map fun m => KernelModule.normalize m.name).Nodup) :
    let inspection := (plan policy.filter (.setup g)).run
    let planned := runOn SimHost.answer clock inspection c { host := h }
    let ran := runOn SimHost.answer clock (run policy g) c { host := h }
    planned.2.host = h ∧
      (∀ e ∈ storeCalls SimHost.answer clock inspection c { host := h }, e.call.writes = false) ∧
      (∀ e, planned.1.1 = .error e ↔ ran.1.1 = .rejected e) ∧
      ∀ journal applied skipped, ran.1.1 = .committed journal applied skipped →
        ∃ steps, planned.1.1 = .ok steps ∧
          List.Forall₂ (fun planned ch => planned.step.Notes ch) (steps.filter (·.isDue h))
            journal := by
  intro inspection planned ran
  have readsOnly := (inspecting_within (A := of SimHost.answer) fun _ => False).plan policy.filter
    (.setup g) (c := c) (s := h) trivial
  obtain ⟨reads, -, same, ends⟩ := (readsOnly.also (Plan.ensures_made policy.filter g)).of_run
    SimHost.answer clock { host := h } id fun _ _ => rfl
  refine ⟨same, fun e made => writes_eq_false_of_within (reads e made), ?_⟩
  have began : ran = _ := runOn_run SimHost.answer clock policy g c { host := h }
  dsimp only at began
  cases result : planned.1.1 with
  | error e =>
    have rejected : ran.1.1 = .rejected e := by
      rw [began, result]
    refine ⟨fun e' => ?_, fun journal applied skipped committed => ?_⟩
    · rw [rejected]
      exact ⟨fun same => congrArg Outcome.rejected (Except.error.inj same),
        fun same => congrArg Except.error (Outcome.rejected.inj same)⟩
    · rw [rejected] at committed
      cases committed
  | ok steps =>
    have carried : ran = runOn SimHost.answer clock (carryOut policy.timeout steps) planned.1.2
        (planned.2.announce .probing) := by
      rw [began, result]
    obtain ⟨v, shows, rfl⟩ : ∃ v, Survey.Shows h g v ∧ steps = Plan.setupSteps v g := by
      have ends : Plan.Ends policy.filter g c h planned.1.1 planned.1.2 := ends
      rw [result] at ends
      generalize planned.1.2 = c' at ends
      cases ends with
      | made lists addresses admitted shows => exact ⟨_, shows, rfl⟩
    have here : planned.2.host = h := same
    have contract := foretold_carryOut (c := planned.1.2) (h := planned.2.host)
      (here.symm ▸ shows) distinct policy.timeout
    obtain ⟨-, noted, accepted⟩ := contract.of_run SimHost.answer clock
      (planned.2.announce .probing) id fun _ _ => rfl
    rw [here] at noted
    refine ⟨fun e => ⟨nofun, fun rejected => ?_⟩, fun journal applied skipped committed => ?_⟩
    · rw [carried] at rejected
      exact absurd ⟨e, rejected⟩ accepted
    · rw [carried] at committed
      obtain ⟨noted, rfl, noting⟩ := noted journal applied skipped committed
      exact ⟨_, rfl, noting⟩

/-- On a machine with `vfio` loaded and 64 pages reserved, but nothing mounted, four of the five
steps are planned.  The other module, the mount and the controller are noted; the reservation only
lacked its mount. -/
theorem reserved_before_mounted_foretold :
    let h := (Topology.twoNics.addLoaded "vfio" ∅).addPool Topology.largePages 64 4096
    let g := Topology.handOver [Topology.dataNic]
    let planned := runOn SimHost.answer (fun _ => 0) (plan DeviceFilter.network (.setup g)).run
      (Policy.freshCatalog {}) { host := h }
    (planned.1.1.map fun steps => steps.map (·.satisfied)) =
        .ok [true, false, false, false, false] ∧
      (g.modules.map fun m => KernelModule.normalize m.name).Nodup ∧
      (∃ applied skipped,
        (runOn SimHost.answer (fun _ => 0) (run {} g) (Policy.freshCatalog {}) { host := h }).1.1 =
          .committed [.moduleLoaded "vfio-pci", .mounted ⟨"/mnt/huge"⟩ 2048,
            .rebound Topology.dataNic (some "e1000") true] applied skipped) ∧
      ∃ steps, planned.1.1 = .ok steps ∧
        List.Forall₂ (fun planned ch => planned.step.Notes ch) (steps.filter (·.isDue h))
          [.moduleLoaded "vfio-pci", .mounted ⟨"/mnt/huge"⟩ 2048,
            .rebound Topology.dataNic (some "e1000") true] := by
  intro h g planned
  have distinct : (g.modules.map fun m => KernelModule.normalize m.name).Nodup := by decide +kernel
  have committed : (runOn SimHost.answer (fun _ => 0) (run {} g) (Policy.freshCatalog {})
      { host := h }).1.1 = .committed [.moduleLoaded "vfio-pci", .mounted ⟨"/mnt/huge"⟩ 2048,
        .rebound Topology.dataNic (some "e1000") true] 3 2 := by decide +kernel
  have foretold := dry_run_foretells h (fun _ => 0) {} g (Policy.freshCatalog {}) distinct
  exact ⟨by decide +kernel, distinct, ⟨3, 2, committed⟩, foretold.2.2.2 _ 3 2 committed⟩

end Setup

end Provision
