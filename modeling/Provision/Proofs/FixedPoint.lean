import Provision.Proofs.Contract.World
import Provision.Proofs.Simulation.Survey

/-!
# Committed setups

A setup that is committed has reached its goal: every step that it made holds
afterwards, every step that it passed over held before, and no step keeps another one
from holding.  The same setup then finds all its steps satisfied, so running it again
changes nothing.

Main results:

- `Setup.holds_apply`: a step that was made holds.
- `Step.Holds.keep`: a step that was made leaves the others as they are.
- `Setup.reached_applyFrom`: the invariant of the steps in order.
- `Setup.idle_run`: a setup whose goal is reached changes nothing.
- `Setup.committed_fixed_point`: a committed setup is a fixed point.
-/

namespace Provision

open StoreTerms CatalogProg

/-! ## What a step depends on -/

/-- The resources that decide whether a step holds. -/
def Step.reads : Step → List Resource
  | .loadModule m => [.module (KernelModule.normalize m.name)]
  | .mount r => [.mount r.mountPath.key]
  | .reserve r => [.mount r.mountPath.key, .pool r.pool]
  | .rebind a _ | .restore a _ => [.device a]

/-- There is something that keeps a step from changing the host: what the step asks for, or a module
that was loaded otherwise. -/
def Step.Idle (h : SimHost) : Step → Prop
  | .loadModule m => (h.readModule m.name).loaded = true
  | step => step.Holds h

variable {h h' : SimHost} {g : SetupGoal} {step other : Step}

/-- Whether a step holds depends on the resources that it reads. -/
theorem Step.Holds.congr (holds : step.Holds h) (faults : h'.faults = h.faults)
    (same : ∀ r ∈ step.reads, h'.view r = h.view r) : step.Holds h' := by
  have mounted {path : HostPath} (same : h'.view (.mount path.key) = h.view (.mount path.key)) :
      h'.isMounted path = h.isMounted path := by
    rw [h'.isMounted_eq_view, same, h.isMounted_eq_view]
  cases step with
  | loadModule m =>
    show m.satisfiedBy (h'.readModule m.name) = true
    rw [h'.readModule_eq_view, same _ (List.mem_singleton_self _), ← h.readModule_eq_view]
    exact holds
  | mount r =>
    show h'.isMounted r.mountPath = true
    rw [mounted (same _ (List.mem_singleton_self _))]
    exact holds
  | reserve r =>
    obtain ⟨there, n, read, met⟩ := holds
    refine ⟨?_, n, ?_, met⟩
    · rw [mounted (same _ (List.mem_cons_self ..))]
      exact there
    · have pool : h'.pools.get? r.pool = h.pools.get? r.pool :=
        same (.pool r.pool) (List.mem_cons_of_mem _ (List.mem_singleton_self _))
      rw [SimHost.readPages_eq_ok_iff] at read ⊢
      rw [faults, pool]
      exact read
  | rebind a driver =>
    refine SimHost.readDriver_eq_ok_iff.2 ?_
    rw [same _ (List.mem_singleton_self _)]
    exact SimHost.readDriver_eq_ok_iff.1 holds
  | restore a driver =>
    refine SimHost.readDriver_eq_ok_iff.2 ?_
    rw [same _ (List.mem_singleton_self _)]
    exact SimHost.readDriver_eq_ok_iff.1 holds

/-- A step of a setup that has something to do is about none of the resources on which another
step depends that holds. -/
theorem Step.notMem_reads (mine : step ∈ g.steps) (its : other ∈ g.steps) (busy : ¬ step.Idle h)
    (holds : other.Holds h) (ne : other ≠ step) : step.resource ∉ other.reads := by
  rw [SetupGoal.mem_steps] at mine its
  intro about
  rcases mine with ⟨m, _, rfl⟩ | rfl | rfl | ⟨a, _, rfl⟩
  · rcases its with ⟨m', _, rfl⟩ | rfl | rfl | ⟨b, _, rfl⟩
    · have same : KernelModule.normalize m.name = KernelModule.normalize m'.name := by
        simpa [Step.resource, Step.reads] using about
      refine busy ?_
      show (h.readModule m.name).loaded = true
      rw [h.readModule_congr same]
      exact (Bool.and_eq_true_iff.1 holds).1
    all_goals simp [Step.resource, Step.reads] at about
  · rcases its with ⟨m', _, rfl⟩ | rfl | rfl | ⟨b, _, rfl⟩
    · simp [Step.resource, Step.reads] at about
    · exact ne rfl
    · exact busy holds.1
    · simp [Step.resource, Step.reads] at about
  · rcases its with ⟨m', _, rfl⟩ | rfl | rfl | ⟨b, _, rfl⟩
    · simp [Step.resource, Step.reads] at about
    · simp [Step.resource, Step.reads] at about
    · exact ne rfl
    · simp [Step.resource, Step.reads] at about
  · rcases its with ⟨m', _, rfl⟩ | rfl | rfl | ⟨b, _, rfl⟩
    · simp [Step.resource, Step.reads] at about
    · simp [Step.resource, Step.reads] at about
    · simp [Step.resource, Step.reads] at about
    · have same : a = b := by simpa [Step.resource, Step.reads] using about
      exact ne (same ▸ rfl)

/-- A step of a setup that was made leaves the other steps as they are. -/
theorem Step.Holds.keep (holds : other.Holds h) (its : other ∈ g.steps) (mine : step ∈ g.steps)
    (made : step.Holds h') (idle : step.Idle h → h' = h) (faults : h'.faults = h.faults)
    (elsewhere : ∀ r, r ≠ step.resource → h'.view r = h.view r) : other.Holds h' := by
  by_cases busy : step.Idle h
  · rw [idle busy]
    exact holds
  · by_cases same : other = step
    · rw [same]
      exact made
    · have apart := Step.notMem_reads mine its busy holds same
      refine holds.congr faults fun r hr => elsewhere r fun about => ?_
      exact apart (about ▸ hr)

/-! ## Steps that were made -/

/-- Every parameter value agrees with itself. -/
theorem KernelModule.valuesAgree_self (value : String) : valuesAgree value value = true :=
  beq_self_eq_true _

/-- A module that was loaded as requested satisfies the request. -/
theorem ModuleRequest.satisfiedBy_loadedModule (m : ModuleRequest) (name : String) :
    m.satisfiedBy (SimHost.loadedModule name m.parameters) = true := by
  refine satisfiedBy_iff.2 ⟨rfl, fun ⟨name, value⟩ there => ?_⟩
  exact ⟨value, SortedMap.get?_of_mem there, KernelModule.valuesAgree_self value⟩

/-- A module that is required is there with its parameters, and is not loaded twice. -/
theorem Loading.holds_require (m : ModuleRequest) :
    HostProg.Ensures (of SimHost.answer) free (require m).run h fun result h' =>
      ∀ made, result = .ok made →
        (Step.loadModule m).Holds h' ∧ ((Step.loadModule m).Idle h → h' = h) := by
  rw [ensures_require, SimHost.asks_of_read rfl]
  show if (h.readModule m.name).loaded then _ else _
  by_cases loaded : (h.readModule m.name).loaded
  · rw [if_pos loaded]
    cases conflict : conflict? m (h.readModule m.name) with
    | some parameter => exact nofun
    | none =>
      have satisfied := (conflict?_eq_none_iff loaded).1 conflict
      exact fun made _ => ⟨satisfied, fun _ => rfl⟩
  · rw [if_neg loaded, ensures_loadAbsent, asks_of]
    refine ⟨trivial, ?_⟩
    cases replied : (SimHost.answer (.loadModule m) h).1 with
    | error e => exact nofun
    | ok _ =>
      rw [SimHost.asks_of_read rfl]
      show if ((SimHost.answer (.loadModule m) h).2.readModule m.name).loaded then _ else _
      rw [if_pos (SimHost.loaded_of_loadModule replied)]
      intro made _
      refine ⟨?_, fun idle => absurd idle loaded⟩
      show m.satisfiedBy ((SimHost.answer (.loadModule m) h).2.readModule m.name) = true
      rw [SimHost.readModule_of_loadModule replied]
      exact m.satisfiedBy_loadedModule _

namespace Reserving

/-- hugetlbfs is mounted afterwards, and is not mounted twice. -/
theorem holds_mount (r : Reservation) :
    HostProg.Ensures (of SimHost.answer) free (mount r).run h fun result h' =>
      ∀ made, result = .ok made → (Step.mount r).Holds h' ∧ ((Step.mount r).Idle h → h' = h) := by
  rw [ensures_mount, SimHost.asks_of_read rfl]
  show if h.isMounted r.mountPath then _ else _
  by_cases mounted : h.isMounted r.mountPath
  · rw [if_pos mounted]
    exact fun made _ => ⟨mounted, fun _ => rfl⟩
  · rw [if_neg mounted, asks_of]
    refine ⟨trivial, ?_⟩
    cases replied : (SimHost.answer (.mount r.mountPath r.pageKb) h).1 with
    | error e => exact nofun
    | ok _ =>
      obtain ⟨spelled, after⟩ := SimHost.view_mount replied
      intro made _
      refine ⟨?_, fun idle => absurd idle mounted⟩
      show (SimHost.answer (.mount r.mountPath r.pageKb) h).2.isMounted r.mountPath = true
      rw [SimHost.isMounted_eq_view, after, Function.update_self]
      rfl

/-- A pool that was resized and was found to hold enough pages holds as many as asked for. -/
theorem isMetBy_of_judge {r : Reservation} {previous n : Nat} {ch : Change}
    (replied : (SimHost.answer (.setPageCount r.pool r.count) h).1 = .ok ())
    (granted : (SimHost.answer (.pageCount r.pool)
      (SimHost.answer (.setPageCount r.pool r.count) h).2).1 = .ok n)
    (judged : judge r previous n = .ok ch) : r.isMetBy n = true := by
  obtain ⟨pool, found, set⟩ := SimHost.view_setPages replied
  have there := congrFun set (.pool r.pool)
  rw [Function.update_self] at there
  obtain ⟨_, now, held, count⟩ := SimHost.readPages_eq_ok_iff.1 granted
  have most : n ≤ r.count := by
    rw [← count, Option.some.inj (held.symm.trans there)]
    exact Nat.min_le_left ..
  have least : r.required ≤ n := (judge_eq_ok_iff r previous n).1 ⟨ch, judged⟩
  exact (r.isMetBy_iff n).2 ⟨least, most⟩

/-- The pool holds an acceptable number of pages afterwards, and is not resized when it did
before. -/
theorem holds_reserve (r : Reservation) :
    HostProg.Ensures (of SimHost.answer) free (reserve r).run h fun result h' =>
      ∀ made, result = .ok made →
        (Step.reserve r).Holds h' ∧ ((Step.reserve r).Idle h → h' = h) := by
  rw [ensures_reserve, SimHost.asks_of_read rfl]
  show if h.isMounted r.mountPath then _ else _
  by_cases mounted : h.isMounted r.mountPath
  · rw [if_pos mounted, SimHost.asks_of_read rfl]
    cases read : (SimHost.answer (.pageCount r.pool) h).1 with
    | error e => exact nofun
    | ok previous =>
      show if r.isMetBy previous then _ else _
      by_cases met : r.isMetBy previous
      · rw [if_pos met]
        exact fun made _ => ⟨⟨mounted, previous, read, met⟩, fun _ => rfl⟩
      · have busy : ¬ (Step.reserve r).Idle h := by
          rintro ⟨_, n, read', met'⟩
          rw [Except.ok.inj (read.symm.trans read')] at met
          exact met met'
        rw [if_neg met, ensures_resize, asks_of]
        refine ⟨trivial, ?_⟩
        cases replied : (SimHost.answer (.setPageCount r.pool r.count) h).1 with
        | error e => exact nofun
        | ok _ =>
          rw [SimHost.asks_of_read rfl]
          cases granted : (SimHost.answer (.pageCount r.pool)
              (SimHost.answer (.setPageCount r.pool r.count) h).2).1 with
          | error e => exact nofun
          | ok n =>
            intro made accepted
            have meets : r.isMetBy n = true := by
              cases judged : judge r previous n with
              | error e =>
                rw [judged] at accepted
                cases accepted
              | ok ch => exact isMetBy_of_judge replied granted judged
            have still := (h.isMounted_setPages r.pool r.count r.mountPath).trans mounted
            exact ⟨⟨still, n, granted, meets⟩, fun idle => absurd idle busy⟩
  · rw [if_neg mounted]
    exact nofun

end Reserving

/-- A device that was handed over is bound to the driver, and is not moved when it was before. -/
theorem Binding.holds_handOver {c : Catalog} (a : PciAddress) (target : String) :
    Ensures (of SimHost.answer) free (handOver a target).run c h fun result _ h' =>
      ∀ made, result = .ok made →
        (Step.rebind a target).Holds h' ∧ ((Step.rebind a target).Idle h → h' = h) := by
  rw [ensures_handOver, SimHost.asks_of_read rfl]
  cases read : (SimHost.answer (.boundDriver a) h).1 with
  | error e => exact nofun
  | ok current =>
    show if current = some target then _ else _
    by_cases already : current = some target
    · rw [if_pos already]
      have bound : h.readDriver a = .ok (some target) := read.trans (congrArg Except.ok already)
      exact fun made _ => ⟨bound, fun _ => rfl⟩
    · have busy : ¬ (Step.rebind a target).Idle h := fun idle =>
        already (Except.ok.inj (read.symm.trans idle))
      rw [if_neg already]
      apply (HostProg.ensures_true _).mono
      intro released h₁ _
      obtain ⟨result, c₁⟩ := released
      cases result with
      | error e => exact nofun
      | ok recorded =>
        refine (ensures_attach a target current recorded).2 (asks_of.2 ⟨trivial, ?_⟩)
        cases replied : (SimHost.answer (.bind a target) h₁).1 with
        | error e => exact nofun
        | ok _ =>
          intro made _
          refine ⟨?_, fun idle => absurd idle busy⟩
          refine SimHost.readDriver_eq_ok_iff.2 ?_
          show ((SimHost.answer (.bind a target) h₁).2.view (.device a)).1 = _
          rw [(SimHost.view_bind replied).2, Function.update_self]

/-! ## The devices of a catalog -/

namespace Catalog

variable {σ : Type} {A : StoreTerms σ} {c c' c'' : Catalog} {s : σ}

/-- Two catalogs know and reserve the same devices. -/
structure Alike (c c' : Catalog) : Prop where
  leading : c'.reserveLeading = c.reserveLeading
  reserved : c'.reserved = c.reserved
  known : ∀ a, (c'.device? a).isSome = (c.device? a).isSome

theorem Alike.refl (c : Catalog) : Alike c c := ⟨rfl, rfl, fun _ => rfl⟩

theorem Alike.trans (first : Alike c c') (second : Alike c' c'') : Alike c c'' :=
  ⟨second.leading.trans first.leading, second.reserved.trans first.reserved,
    fun a => (second.known a).trans (first.known a)⟩

/-- What is noted of a device does not make another device known. -/
theorem alike_modify (a : PciAddress) (f : TrackedDevice → TrackedDevice) :
    Alike c { c with records := c.records.modify a f } := by
  refine ⟨rfl, rfl, fun b => ?_⟩
  show ((c.records.modify a f).get? b).isSome = (c.records.get? b).isSome
  rw [SortedMap.get?_modify]
  by_cases same : b = a
  · rw [if_pos same, same, Option.isSome_map]
  · rw [if_neg same]

theorem same_homeDriver (a : PciAddress) :
    Ensures A free (homeDriver a).run c s fun _ c' _ => c' = c := by
  rw [ensures_homeDriver]
  cases c.home? a with
  | some driver => rfl
  | none => exact fun reply s' _ => ⟨trivial, rfl⟩

theorem alike_recordHome (a : PciAddress) (driver : String) :
    Ensures A free (recordHome a driver).run c s fun _ c' _ => Alike c c' := by
  rw [ensures_recordHome]
  by_cases passthrough : c.isPassthrough driver
  · rw [if_pos passthrough]
    exact .refl c
  · rw [if_neg passthrough]
    apply (same_homeDriver a).mono
    intro home c' s' same
    subst same
    rcases home with e | _ | known
    · exact .refl c'
    · intro reply s'' _
      refine ⟨trivial, ?_⟩
      cases reply with
      | error e => exact .refl c'
      | ok _ => exact alike_modify a _
    · exact .refl c'

end Catalog

open Catalog (Alike)

variable {σ : Type} {A : StoreTerms σ} {c : Catalog} {s : σ}

theorem Binding.alike_detach (a : PciAddress) (driver : String) (recorded : Bool) :
    Ensures A free (detach a driver recorded).run c s fun _ c' _ => Alike c c' := by
  rw [ensures_detach]
  intro reply s' _
  refine ⟨trivial, ?_⟩
  cases reply with
  | ok _ => exact Catalog.alike_modify a _
  | error e =>
    cases recorded with
    | false => exact .refl c
    | true =>
      intro reply s'' _
      refine ⟨trivial, ?_⟩
      cases reply with
      | ok _ => exact Catalog.alike_modify a _
      | error e' => exact .refl c

/-- Handing a device over makes no device known and reserves none. -/
theorem Binding.alike_handOver (a : PciAddress) (target : String) :
    Ensures A free (handOver a target).run c s fun _ c' _ => Alike c c' := by
  rw [ensures_handOver]
  intro reply s' _
  refine ⟨trivial, ?_⟩
  cases reply with
  | error e => exact .refl c
  | ok current =>
    show if current = some target then _ else _
    by_cases already : current = some target
    · rw [if_pos already]
      exact Catalog.alike_modify a _
    · rw [if_neg already]
      have released : Ensures A free (release a current).run c s' fun _ c' _ => Alike c c' := by
        rw [ensures_release]
        cases current with
        | none => exact .refl c
        | some driver =>
          apply (Catalog.alike_recordHome a driver).mono
          intro result c₁ s₁ alike
          cases result with
          | error e => exact alike
          | ok recorded =>
            apply (alike_detach a driver recorded).mono
            intro result c₂ s₂ alike'
            cases result <;> exact alike.trans alike'
      apply released.mono
      intro result c₁ s₁ alike
      cases result with
      | error e => exact alike
      | ok recorded =>
        refine (ensures_attach a target current recorded).2 fun reply s₂ _ => ⟨trivial, ?_⟩
        cases reply with
        | error e => exact alike
        | ok _ => exact alike.trans (Catalog.alike_modify a _)

/-- The steps of a setup make no device known and reserve none. -/
theorem Setup.alike_apply (step : Step) (setup : ∀ a driver, step ≠ .restore a driver) :
    Ensures A free (apply step).run c s fun _ c' _ => Alike c c' := by
  cases step with
  | loadModule m =>
    rw [ensures_apply_loadModule]
    exact (HostProg.ensures_true _).mono fun _ _ _ => .refl c
  | mount r =>
    rw [ensures_apply_mount]
    exact (HostProg.ensures_true _).mono fun _ _ _ => .refl c
  | reserve r =>
    rw [ensures_apply_reserve]
    exact (HostProg.ensures_true _).mono fun _ _ _ => .refl c
  | rebind a driver => exact Binding.alike_handOver a driver
  | restore a driver => exact absurd rfl (setup a driver)

/-! ## Setups that are committed -/

namespace Setup

/-- An outcome is that of a setup that reached its goal. -/
def IsCommitted (outcome : Outcome) : Prop :=
  ∃ journal applied skipped, outcome = .committed journal applied skipped

/-- A setup that is undone is not committed, so nothing is to be said of it. -/
theorem abort_not_committed (e : Error) (journal : Journal) {Q : Outcome → Catalog → σ → Prop} :
    Ensures A free (abort e journal) c s fun outcome c' s' =>
      IsCommitted outcome → Q outcome c' s' := by
  rw [ensures_abort]
  apply (HostProg.ensures_true _).mono
  intro report s' _
  rintro ⟨_, _, _, same⟩
  cases same

/-- A step that was made holds, and the steps that held before still do. -/
theorem holds_apply (mine : step ∈ g.steps) :
    Ensures (of SimHost.answer) free (apply step).run c h fun result c' h' =>
      Alike c c' ∧ ∀ made, result = .ok made →
        step.Holds h' ∧ ∀ other ∈ g.steps, other.Holds h → other.Holds h' := by
  have made : Ensures (of SimHost.answer) free (apply step).run c h fun result _ h' =>
      ∀ made, result = .ok made → step.Holds h' ∧ (step.Idle h → h' = h) := by
    have lift {p : HostM (Option Change)}
        (made : HostProg.Ensures (of SimHost.answer) free p.run h fun result h' =>
          ∀ made, result = .ok made → step.Holds h' ∧ (step.Idle h → h' = h)) :
        HostProg.Ensures (of SimHost.answer) free p.run h fun result h' =>
          ∀ made, result.mapError Binding.Failure.plain = .ok made →
            step.Holds h' ∧ (step.Idle h → h' = h) := by
      apply made.mono
      intro result h' made change same
      cases result with
      | error e => cases same
      | ok _ => exact made _ rfl
    rcases SetupGoal.mem_steps.1 mine with ⟨m, _, rfl⟩ | rfl | rfl | ⟨a, _, rfl⟩
    · rw [ensures_apply_loadModule]
      exact lift (Loading.holds_require m)
    · rw [ensures_apply_mount]
      exact lift (Reserving.holds_mount g.pages)
    · rw [ensures_apply_reserve]
      exact lift (Reserving.holds_reserve g.pages)
    · exact Binding.holds_handOver a g.target
  have framed := SimHost.ensures_frame_of (F := fun r => r = step.resource) (c := c) (h := h)
    (within_apply step rfl)
  have alike := alike_apply (A := of SimHost.answer) (c := c) (s := h) step
    (g.ne_restore_of_mem_steps mine)
  apply (alike.also (made.also framed)).mono
  intro result c' h' holds
  obtain ⟨alike, made, _, elsewhere, machine, _⟩ := holds
  refine ⟨alike, fun change ok => ?_⟩
  obtain ⟨there, idle⟩ := made change ok
  refine ⟨there, fun other its holds => ?_⟩
  exact holds.keep its mine there idle machine.faults fun r outside => elsewhere r outside

/-- When the steps of a setup come to their end, all of them hold, and so do the steps that held
before. -/
theorem reached_applyFrom (timeout : Option Nat) (total index : Nat) (steps : List PlannedStep)
    (p : Progress) (mine : ∀ planned ∈ steps, planned.step ∈ g.steps)
    (marked : ∀ planned ∈ steps, planned.satisfied = true → planned.step.Holds h) :
    Ensures (of SimHost.answer) free (applyFrom timeout total index steps p) c h
      fun outcome c' h' => IsCommitted outcome →
        Alike c c' ∧ (∀ planned ∈ steps, planned.step.Holds h') ∧
          ∀ step ∈ g.steps, step.Holds h → step.Holds h' := by
  induction steps generalizing index p c h with
  | nil =>
    rw [ensures_applyFrom_nil]
    exact fun _ => ⟨.refl c, nofun, fun _ _ holds => holds⟩
  | cons planned rest ih =>
    have isMine := mine planned (List.mem_cons_self ..)
    have areMine : ∀ other ∈ rest, other.step ∈ g.steps := fun other hother =>
      mine other (List.mem_cons_of_mem _ hother)
    -- Once the first step holds, the invariant takes over.
    have next {c₁ : Catalog} {h₁ : SimHost} (p₁ : Progress) (alike : Alike c c₁)
        (first : planned.step.Holds h₁) (kept : ∀ step ∈ g.steps, step.Holds h → step.Holds h₁) :
        Ensures (of SimHost.answer) free (applyFrom timeout total (index + 1) rest p₁) c₁ h₁
          fun outcome c' h' => IsCommitted outcome →
            Alike c c' ∧ (∀ other ∈ planned :: rest, other.step.Holds h') ∧
              ∀ step ∈ g.steps, step.Holds h → step.Holds h' := by
      refine (ih (index + 1) p₁ areMine fun other hother satisfied => ?_).mono ?_
      · have before := marked other (List.mem_cons_of_mem _ hother) satisfied
        exact kept _ (areMine other hother) before
      · intro outcome c' h' reached committed
        obtain ⟨alike', later, kept'⟩ := reached committed
        refine ⟨alike.trans alike', List.forall_mem_cons.2 ⟨kept' _ isMine first, later⟩, ?_⟩
        exact fun step hstep holds => kept' step hstep (kept step hstep holds)
    rw [ensures_applyFrom_cons]
    apply ensures_isLate timeout index
    intro late
    by_cases hl : late
    · rw [if_pos hl]
      exact abort_not_committed _ _
    · rw [if_neg hl]
      by_cases hp : planned.satisfied
      · rw [if_pos hp]
        have first := marked planned (List.mem_cons_self ..) hp
        exact next p.skip (.refl c) first fun _ _ holds => holds
      · rw [if_neg hp]
        apply (holds_apply isMine).mono
        intro result c₁ h₁ applied
        obtain ⟨alike, made⟩ := applied
        rcases result with f | _ | ch
        · unfold AfterStep
          exact abort_not_committed _ _
        · obtain ⟨first, kept⟩ := made none rfl
          exact next p.skip alike first kept
        · obtain ⟨first, kept⟩ := made (some ch) rfl
          exact next (p.note ch) alike first kept

/-! ## Running again -/

/-- A setup has nothing to do: the host lists its devices, the goal may name those that it names,
and every step holds. -/
structure Ready (filter : DeviceFilter) (g : SetupGoal) (c : Catalog) (h : SimHost) : Prop where
  lists : h.faults.listing = false
  admits : ∀ ts : List TrackedDevice, ts.map (·.address) = h.listed filter →
    Plan.admissible (c.enlistEach 0 ts) g.devices.toList = .ok ()
  holds : ∀ step ∈ g.steps, step.Holds h

/-- Whether a goal may name its devices does not depend on what is known of the listed ones. -/
theorem admissible_again {c c' : Catalog} {ts ts' : List TrackedDevice}
    {devices : List PciAddress} (addresses : ts'.map (·.address) = ts.map (·.address))
    (leading : c'.reserveLeading = c.reserveLeading)
    (outside : ∀ a ∉ ts.map (·.address),
      (c'.device? a).isSome = (c.device? a).isSome ∧ c'.isReserved a = c.isReserved a)
    (admitted : Plan.admissible (c.enlistEach 0 ts) devices = .ok ()) :
    Plan.admissible (c'.enlistEach 0 ts') devices = .ok () := by
  rw [Plan.admissible_eq_ok_iff] at admitted ⊢
  intro a ha
  obtain ⟨known, free⟩ := admitted a ha
  by_cases listed : a ∈ ts.map (·.address)
  · refine ⟨Catalog.isSome_device?_enlistEach (addresses ▸ listed), ?_⟩
    rw [Catalog.isReserved_enlistEach_congr addresses leading (addresses ▸ listed)]
    exact free
  · have listed' : a ∉ ts'.map (·.address) := addresses ▸ listed
    rw [Catalog.device?_enlistEach_of_notMem listed] at known
    rw [Catalog.isReserved_enlistEach_of_notMem listed] at free
    rw [Catalog.device?_enlistEach_of_notMem listed',
      Catalog.isReserved_enlistEach_of_notMem listed', (outside a listed).1, (outside a listed).2]
    exact ⟨known, free⟩

/-- A committed setup has nothing to do any more, neither with the catalog that it began with nor
with the one that it left. -/
theorem ready_run (policy : Policy) (g : SetupGoal) :
    Ensures (of SimHost.answer) free (run policy g) c h fun outcome c' h' =>
      IsCommitted outcome → Ready policy.filter g c h' ∧ Ready policy.filter g c' h' := by
  have framed := SimHost.ensures_frame_of (c := c) (h := h)
    (within_run (F := fun _ => True) policy g fun _ _ => trivial)
  have led : Ensures (of SimHost.answer) free (run policy g) c h fun outcome c' h' =>
      IsCommitted outcome → h.faults.listing = false ∧ (∀ step ∈ g.steps, step.Holds h') ∧
        ∃ ts : List TrackedDevice, ts.map (·.address) = h.listed policy.filter ∧
          Plan.admissible (c.enlistEach 0 ts) g.devices.toList = .ok () ∧
            Alike (c.enlistEach 0 ts) c' := by
    rw [ensures_run]
    apply (Plan.ensures_made policy.filter g).mono
    intro result c₁ h₁ planned
    obtain ⟨rfl, ends⟩ := planned
    cases ends with
    | unlisted fails =>
      rintro ⟨_, _, _, same⟩
      cases same
    | refused addresses refused =>
      rintro ⟨_, _, _, same⟩
      cases same
    | @made v ts lists addresses admitted shows =>
      have reached := reached_applyFrom (g := g) (c := c.enlistEach 0 ts) policy.timeout
        (Plan.setupSteps v g).length 0 (Plan.setupSteps v g) {}
        (fun planned hplanned => Plan.step_mem_steps hplanned)
        fun planned hplanned => (Plan.satisfied_iff_holds shows hplanned).1
      apply reached.mono
      intro outcome c' h' reached committed
      obtain ⟨alike, hold, _⟩ := reached committed
      refine ⟨lists, fun step hstep => ?_, ts, addresses, admitted, alike⟩
      rw [← Plan.steps_setupSteps v g] at hstep
      obtain ⟨planned, hplanned, rfl⟩ := List.mem_map.1 hstep
      exact hold planned hplanned
  apply (led.also framed).mono
  intro outcome c' h' holds committed
  obtain ⟨led, _, _, machine, _⟩ := holds
  obtain ⟨lists, hold, ts, addresses, admitted, alike⟩ := led committed
  have lists' : h'.faults.listing = false := machine.faults ▸ lists
  have listed : h'.listed policy.filter = ts.map (·.address) :=
    (machine.listed_eq policy.filter).trans addresses.symm
  refine ⟨⟨lists', fun ts' addresses' => ?_, hold⟩, ⟨lists', fun ts' addresses' => ?_, hold⟩⟩
  · exact admissible_again (addresses'.trans listed) rfl (fun _ _ => ⟨rfl, rfl⟩) admitted
  · refine admissible_again (addresses'.trans listed) ?_ (fun a outside => ⟨?_, ?_⟩) admitted
    · rw [alike.leading, Catalog.reserveLeading_enlistEach]
    · rw [alike.known, Catalog.device?_enlistEach_of_notMem outside]
    · have same : c'.isReserved a = (c.enlistEach 0 ts).isReserved a :=
        congrArg (SortedMap.contains · a) alike.reserved
      rw [same, Catalog.isReserved_enlistEach_of_notMem outside]

/-- Steps that are all satisfied are passed over without a call. -/
theorem idle_applyFrom {K : StoreTerms σ} (total index : Nat) (steps : List PlannedStep)
    (p : Progress) (satisfied : ∀ planned ∈ steps, planned.satisfied = true) :
    Ensures A K (applyFrom none total index steps p) c s fun outcome _ s' =>
      outcome = .committed p.journal p.applied (p.skipped + steps.length) ∧ s' = s := by
  induction steps generalizing index p with
  | nil =>
    rw [ensures_applyFrom_nil]
    exact ⟨rfl, rfl⟩
  | cons planned rest ih =>
    have punctual : isLate none index = pure false := rfl
    rw [ensures_applyFrom_cons, punctual, HostProg.ensures_pure, if_neg Bool.false_ne_true,
      if_pos (satisfied planned (List.mem_cons_self ..))]
    refine (ih (index + 1) p.skip fun other hother => ?_).mono fun outcome c' s' ending => ?_
    · exact satisfied other (List.mem_cons_of_mem _ hother)
    · obtain ⟨rfl, rfl⟩ := ending
      refine ⟨?_, rfl⟩
      have count : p.skip.skipped + rest.length = p.skipped + (planned :: rest).length := by
        rw [List.length_cons]
        show p.skipped + 1 + rest.length = _
        omega
      rw [count]
      rfl

/-- A setup that has nothing to do changes nothing, and says so. -/
theorem idle_run (policy : Policy) (untimed : policy.timeout = none)
    (ready : Ready policy.filter g c h) :
    Ensures (of SimHost.answer) (within fun _ => False) (run policy g) c h fun outcome _ h' =>
      outcome = .committed [] 0 g.steps.length ∧ h' = h := by
  rw [ensures_run, untimed]
  refine ((within_plan_setup policy.filter g).also (Plan.ensures_made policy.filter g)).mono ?_
  intro result c₁ h₁ planned
  obtain ⟨_, rfl, ends⟩ := planned
  cases ends with
  | unlisted fails =>
    rw [ready.lists] at fails
    cases fails
  | refused addresses refused =>
    rw [ready.admits _ addresses] at refused
    cases refused
  | @made v ts lists addresses admitted shows =>
    have idle := idle_applyFrom (A := of SimHost.answer) (K := within fun _ => False)
      (c := c.enlistEach 0 ts) (s := h₁) (Plan.setupSteps v g).length 0 (Plan.setupSteps v g) {}
      fun planned hplanned => (Plan.satisfied_iff_holds shows hplanned).2
        (ready.holds _ (Plan.step_mem_steps hplanned))
    apply idle.mono
    intro outcome c' h' ending
    obtain ⟨rfl, rfl⟩ := ending
    have count : g.steps.length = (Plan.setupSteps v g).length := by
      rw [← Plan.steps_setupSteps v g, List.length_map]
    rw [count]
    exact ⟨congrArg (Outcome.committed [] 0) (Nat.zero_add _), rfl⟩

/-- A committed setup reaches its goal and is a fixed point.  Whatever fails on the host, whatever
was mounted, reserved, loaded or bound before, and whatever modules and pages the goal asks for:
afterwards every module is loaded as requested, hugetlbfs is mounted, the pool holds an acceptable
number of pages, and every device is bound to the driver.  Running the setup again, with the
catalog that it began with, such as a fresh one, or with the one that it left, passes over all its
steps, makes no changing call and leaves the host as it is, with its records. -/
theorem committed_fixed_point (h : SimHost) (clock : Nat → Nat) (policy : Policy)
    (untimed : policy.timeout = none) (g : SetupGoal) (c : Catalog) (journal : Journal)
    (applied skipped : Nat)
    (committed : (runOn SimHost.answer clock (run policy g) c { host := h }).1.1 =
      .committed journal applied skipped) :
    let first := runOn SimHost.answer clock (run policy g) c { host := h }
    let h' := first.2.host
    (∀ m ∈ g.modules, m.satisfiedBy (h'.readModule m.name) = true) ∧
    h'.isMounted g.pages.mountPath = true ∧
    (∃ n, h'.readPages g.pages.pool = .ok n ∧ g.pages.isMetBy n = true) ∧
    (∀ a ∈ g.devices.toList, h'.driverOf a = some g.target) ∧
    ∀ again : Catalog, again = c ∨ again = first.1.2 → ∀ clock' : Nat → Nat,
      let second := runOn SimHost.answer clock' (run policy g) again { host := h' }
      second.1.1 = .committed [] 0 g.steps.length ∧ second.2.host = h' ∧
        ∀ e ∈ storeCalls SimHost.answer clock' (run policy g) again { host := h' },
          e.call.writes = false := by
  intro first h'
  have concluded := (ready_run (c := c) (h := h) policy g).of_run SimHost.answer clock
    { host := h } id fun _ _ => rfl
  obtain ⟨readyBefore, readyAfter⟩ := concluded.2 ⟨journal, applied, skipped, committed⟩
  have holds {step : Step} (mine : step ∈ g.steps) : step.Holds h' := readyAfter.holds step mine
  have reserved : (Step.reserve g.pages).Holds h' :=
    holds (SetupGoal.mem_steps.2 (.inr (.inr (.inl rfl))))
  refine ⟨fun m hm => ?_, reserved.1, reserved.2, fun a ha => ?_, fun again which clock' => ?_⟩
  · exact holds (SetupGoal.mem_steps.2 (.inl ⟨m, hm, rfl⟩))
  · have bound : (Step.rebind a g.target).Holds h' :=
      holds (SetupGoal.mem_steps.2 (.inr (.inr (.inr ⟨a, ha, rfl⟩))))
    exact SimHost.driverOf_of_read bound
  · have ready : Ready policy.filter g again h' := by
      rcases which with rfl | rfl
      · exact readyBefore
      · exact readyAfter
    have again := (idle_run policy untimed ready).of_run SimHost.answer clock'
      { host := h' } id fun _ _ => rfl
    obtain ⟨reads, outcome, same⟩ := again
    refine ⟨outcome, same, fun e he => ?_⟩
    rw [← StoreCall.isSome_resource?, Option.isSome_eq_false_iff, Option.isNone_iff_eq_none]
    exact Option.eq_none_iff_forall_ne_some.2 fun r hr => reads e he r hr

/-- A controller that was handed over stays handed over when the setup is run again. -/
theorem twoNics_handed_over_twice :
    let first := runOn SimHost.answer (fun _ => 0)
      (run {} (Topology.handOver [Topology.dataNic])) (Policy.freshCatalog {})
      { host := Topology.twoNics }
    let second := runOn SimHost.answer (fun _ => 0)
      (run {} (Topology.handOver [Topology.dataNic])) (Policy.freshCatalog {})
      { host := first.2.host }
    first.2.host.driverOf Topology.dataNic = some "vfio-pci" ∧
      second.1.1 = .committed [] 0 5 ∧ second.2.host = first.2.host := by
  obtain ⟨journal, applied, skipped, committed⟩ : ∃ journal applied skipped,
      (runOn SimHost.answer (fun _ => 0) (run {} (Topology.handOver [Topology.dataNic]))
        (Policy.freshCatalog {}) { host := Topology.twoNics }).1.1 =
          .committed journal applied skipped := ⟨_, _, _, rfl⟩
  have reached := committed_fixed_point Topology.twoNics (fun _ => 0) {} rfl
    (Topology.handOver [Topology.dataNic]) (Policy.freshCatalog {}) journal applied skipped
    committed
  have again := reached.2.2.2.2 (Policy.freshCatalog {}) (.inl rfl) fun _ => 0
  exact ⟨reached.2.2.2.1 Topology.dataNic (by decide), again.1, again.2.1⟩

end Setup

end Provision
