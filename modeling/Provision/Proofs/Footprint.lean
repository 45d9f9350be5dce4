import Provision.Proofs.Bookkeeping

/-!
# Footprints

Every changing call is about one resource: a module, a mount, a pool, or a device
with its binding and its record.  A program keeps to a set of resources when it
makes no changing call on any other.  How the calls are answered does not matter
here, and neither does what the catalog holds.  That moving a device keeps to it is
read off the calls it makes (`Keeps.within`).

Main results:

- `StoreCall.isSome_resource?`: the changing calls are those about a resource.
- `Setup.within_apply`: a step keeps to its resource, and so does the change it
  notes.
- `Setup.within_run`: a setup keeps to the resources of its goal, also while it is
  undone.
- `Teardown.within_run`: a teardown keeps to its devices.
-/

namespace Provision

open StoreTerms CatalogProg

/-! ## Resources -/

/-- A resource that runs change. -/
inductive Resource
  /-- A module, by normalized name. -/
  | module (name : String)
  /-- A mount, by the key of its path. -/
  | mount (key : List String)
  | pool (p : Pool)
  /-- A device: what it is bound to, and its durable record. -/
  | device (address : PciAddress)
  deriving DecidableEq

/-- The resource that a call may change. -/
def StoreCall.resource? : StoreCall → Option Resource
  | .mount path _ | .unmount path => some (.mount path.key)
  | .setPageCount pool _ => some (.pool pool)
  | .loadModule request => some (.module (KernelModule.normalize request.name))
  | .unloadModule name => some (.module (KernelModule.normalize name))
  | .unbind a _ | .bind a _ | .setHome a _ | .clearHome a => some (.device a)
  | .isMounted _ | .pageCount _ | .moduleState _ | .boundDriver _ | .listDevices _
  | .homeDriver _ | .recordedDevices => none

/-- The changing calls are those about a resource. -/
theorem StoreCall.isSome_resource? (c : StoreCall) : c.resource?.isSome = c.writes := by
  cases c <;> rfl

/-- The resource that was changed. -/
abbrev Change.resource : Change → Resource
  | .moduleLoaded name => .module (KernelModule.normalize name)
  | .mounted path _ => .mount path.key
  | .reserved pool _ => .pool pool
  | .rebound address _ _ | .stranded address _ _ => .device address

/-- The resource that a step is about. -/
def Step.resource : Step → Resource
  | .loadModule m => .module (KernelModule.normalize m.name)
  | .mount r => .mount r.mountPath.key
  | .reserve r => .pool r.pool
  | .rebind address _ | .restore address _ => .device address

/-- The steps of a setup, in order. -/
def SetupGoal.steps (g : SetupGoal) : List Step :=
  g.modules.map .loadModule ++ [.mount g.pages, .reserve g.pages] ++
    g.devices.toList.map fun a => .rebind a g.target

/-- The steps of a goal: its modules, its mount, its pool, and its devices. -/
theorem SetupGoal.mem_steps {g : SetupGoal} {step : Step} :
    step ∈ g.steps ↔
      (∃ m ∈ g.modules, step = .loadModule m) ∨ step = .mount g.pages ∨ step = .reserve g.pages ∨
        ∃ a ∈ g.devices.toList, step = .rebind a g.target := by
  simp only [steps, List.mem_append, List.mem_map, List.mem_cons, List.not_mem_nil, or_false,
    or_assoc, eq_comm]

/-- A setup restores no device. -/
theorem SetupGoal.ne_restore_of_mem_steps {g : SetupGoal} {step : Step} (h : step ∈ g.steps)
    (a : PciAddress) (driver : String) : step ≠ .restore a driver := by
  rcases mem_steps.1 h with ⟨m, _, rfl⟩ | rfl | rfl | ⟨a, _, rfl⟩
  all_goals exact nofun

/-- The steps of a plan are those of the goal, whatever the survey shows. -/
theorem Plan.steps_setupSteps (v : HostView) (g : SetupGoal) :
    (Plan.setupSteps v g).map (·.step) = g.steps := by
  simp [Plan.setupSteps, SetupGoal.steps, Function.comp_def]

/-- A plan has only steps of its goal. -/
theorem Plan.step_mem_steps {v : HostView} {g : SetupGoal} {planned : PlannedStep}
    (h : planned ∈ Plan.setupSteps v g) : planned.step ∈ g.steps :=
  Plan.steps_setupSteps v g ▸ List.mem_map_of_mem h

/-- The resources that a setup is about, in the order of its steps. -/
def SetupGoal.resources (g : SetupGoal) : List Resource := g.steps.map Step.resource

/-- The devices of a setup are the devices among its resources. -/
theorem SetupGoal.device_mem_resources {g : SetupGoal} {a : PciAddress} :
    .device a ∈ g.resources ↔ a ∈ g.devices.toList := by
  simp [SetupGoal.resources, SetupGoal.steps, Step.resource]

/-! ## Calls -/

variable {α σ : Type} {A : StoreTerms σ} {F : Resource → Prop} {c : Catalog} {s : σ}

/-- The terms of changing nothing outside a set of resources. -/
def StoreTerms.within (F : Resource → Prop) : StoreTerms σ :=
  fun call _ _ _ => ∀ r, call.resource? = some r → F r

/-- A call that changes nothing at all is one that reads. -/
theorem StoreTerms.writes_eq_false_of_within {call : StoreCall} {s s' : σ} {r : call.Reply}
    (kept : within (fun _ => False) call s r s') : call.writes = false := by
  rw [← StoreCall.isSome_resource?, Option.isSome_eq_false_iff, Option.isNone_iff_eq_none]
  exact Option.eq_none_iff_forall_ne_some.2 kept

/-- A call about a resource of the set keeps to the set. -/
theorem StoreTerms.asks_within {call : StoreCall} {r : Resource} {Q : call.Reply → σ → Prop}
    (about : call.resource? = some r) (inside : F r) (next : ∀ r s', A call s r s' → Q r s') :
    Asks A (within F) call s Q := by
  intro reply s' answered
  refine ⟨fun r' hr => ?_, next reply s' answered⟩
  rw [about] at hr
  cases hr
  exact inside

/-- A call that reads keeps to every set. -/
theorem StoreTerms.asks_within_read {call : StoreCall} {Q : call.Reply → σ → Prop}
    (about : call.resource? = none) (next : ∀ r s', A call s r s' → Q r s') :
    Asks A (within F) call s Q := by
  intro reply s' answered
  refine ⟨fun r' hr => ?_, next reply s' answered⟩
  rw [about] at hr
  cases hr

/-- A call about a device changes that device, if it changes anything. -/
theorem StoreCall.resource?_of_device? {call : StoreCall} {a : PciAddress} {r : Resource}
    (about : call.device? = some a) (changed : call.resource? = some r) : r = .device a := by
  cases call <;> simp_all [device?, resource?]

/-- A program that makes no call but about one device keeps to that device. -/
theorem Keeps.within {a : PciAddress} {p : CatalogProg α} (keeps : Keeps A a (fun _ => True) p)
    (inside : F (.device a)) : Ensures A (StoreTerms.within F) p c s fun _ _ _ => True :=
  (keeps trivial).weaken (fun _ _ _ _ answered => answered) fun _ _ _ _ _ about _ changed =>
    StoreCall.resource?_of_device? about changed ▸ inside

/-! ## The catalog -/

namespace Catalog

/-- Asking for a home driver changes nothing. -/
theorem within_homeDriver (a : PciAddress) :
    Ensures A (within F) (homeDriver a).run c s fun _ _ _ => True := by
  rw [ensures_homeDriver]
  cases c.home? a with
  | some driver => trivial
  | none => exact asks_within_read rfl fun _ _ _ => trivial

/-- Taking a record back changes its device. -/
theorem within_forgetHome {a : PciAddress} (inside : F (.device a)) :
    Ensures A (within F) (forgetHome a).run c s fun _ _ _ => True :=
  (keeps_forgetHome (notesKeep_true a)).within inside

/-- Taking in a listing changes nothing. -/
theorem within_enlistAll (index : Nat) (ds : List Descriptor) :
    Ensures A (within F) (enlistAll index ds).run c s fun _ _ _ => True := by
  induction ds generalizing index c s with
  | nil => trivial
  | cons d ds ih =>
    rw [ensures_enlistAll_cons]
    apply asks_within_read rfl
    intro reply s' _
    cases reply with
    | error e => trivial
    | ok home =>
      apply (ih (index + 1)).mono
      intro others c' s'' _
      cases others <;> trivial

/-- Listing devices changes nothing. -/
theorem within_enumerate (filter : DeviceFilter) :
    Ensures A (within F) (enumerate filter).run c s fun _ _ _ => True := by
  rw [ensures_enumerate]
  apply asks_within_read rfl
  intro reply s' _
  cases reply with
  | error e => trivial
  | ok ds => exact within_enlistAll 0 ds

/-- Taking in devices on record changes nothing. -/
theorem within_adoptAll (recorded : List (PciAddress × String)) :
    Ensures A (within F) (adoptAll recorded).run c s fun _ _ _ => True := by
  induction recorded generalizing c s with
  | nil => trivial
  | cons entry rest ih =>
    obtain ⟨a, home⟩ := entry
    rw [ensures_adoptAll_cons]
    by_cases known : (c.device? a).isSome
    · rw [if_pos known]
      exact ih
    · rw [if_neg known]
      apply asks_within_read rfl
      intro reply s' _
      cases reply with
      | ok current => exact ih
      | error e =>
        apply ih.mono
        intro missing c' s'' _
        cases missing <;> trivial

/-- Adopting recorded devices changes nothing. -/
theorem within_adoptRecorded :
    Ensures A (within F) adoptRecorded.run c s fun _ _ _ => True := by
  rw [ensures_adoptRecorded]
  apply asks_within_read rfl
  intro reply s' _
  cases reply with
  | error e => trivial
  | ok recorded => exact within_adoptAll recorded.entries

end Catalog

/-! ## Devices -/

namespace Binding

/-- Putting a device on record and unbinding it changes that device. -/
theorem within_release {a : PciAddress} (current : Option String) (inside : F (.device a)) :
    Ensures A (within F) (release a current).run c s fun _ _ _ => True :=
  (keeps_release (notesKeep_true a) current).within inside

/-- The change that a result notes, if there was one; a device that was stranded is one. -/
def Failure.noted : Except Failure (Option Change) → Option Change
  | .ok made => made
  | .error f => f.stranded

/-- The change that a result notes is about a resource. -/
def Failure.Notes (r : Resource) (result : Except Failure (Option Change)) : Prop :=
  ∀ ch, noted result = some ch → ch.resource = r

/-- Handing a device over keeps to the device. -/
theorem within_handOver {a : PciAddress} (target : String) (inside : F (.device a)) :
    Ensures A (within F) (handOver a target).run c s fun result _ _ =>
      Failure.Notes (.device a) result := by
  rw [ensures_handOver]
  apply asks_within_read rfl
  intro reply s' _
  cases reply with
  | error e => exact nofun
  | ok current =>
    by_cases already : current = some target
    · show if current = some target then _ else _
      rw [if_pos already]
      exact nofun
    · show if current = some target then _ else _
      rw [if_neg already]
      apply (within_release current inside).mono
      intro recorded c' s'' _
      cases recorded with
      | error e => exact nofun
      | ok recorded =>
        refine (ensures_attach a target current recorded).2 ?_
        apply asks_within rfl inside
        intro reply s3 _
        cases reply with
        | ok _ =>
          intro ch noted
          cases noted
          rfl
        | error e =>
          intro ch noted
          obtain ⟨driver, _, rfl⟩ := Option.map_eq_some_iff.1 noted
          rfl

/-- Bringing a device back keeps to the device. -/
theorem within_bringBack {a : PciAddress} (prior : Option String) (inside : F (.device a)) :
    Ensures A (within F) (bringBack a prior).run c s fun _ _ _ => True :=
  (keeps_bringBack (notesKeep_true a) prior).within inside

/-- Restoring a device keeps to the device. -/
theorem within_restore {a : PciAddress} (inside : F (.device a)) :
    Ensures A (within F) (restore a).run c s fun _ _ _ => True :=
  (keeps_restore (notesKeep_true a)).within inside

end Binding

/-! ## Modules and pages -/

/-- Requiring a module changes that module, and what is noted is about it. -/
theorem Loading.within_require (m : ModuleRequest)
    (inside : F (.module (KernelModule.normalize m.name))) :
    HostProg.Ensures A (within F) (require m).run s fun result _ =>
      Binding.Failure.Notes (.module (KernelModule.normalize m.name))
        (result.mapError .plain) := by
  rw [ensures_require]
  apply asks_within_read rfl
  intro reply s' _
  cases reply with
  | error e => exact nofun
  | ok state =>
    show if state.loaded then _ else _
    by_cases loaded : state.loaded
    · rw [if_pos loaded]
      cases conflict? m state <;> exact nofun
    · rw [if_neg loaded, ensures_loadAbsent]
      apply asks_within rfl inside
      intro reply s'' _
      cases reply with
      | error e => exact nofun
      | ok _ =>
        apply asks_within_read rfl
        intro reply s3 _
        cases reply with
        | error e => exact nofun
        | ok after =>
          show if after.loaded then _ else _
          by_cases there : after.loaded
          · rw [if_pos there]
            intro ch noted
            cases noted
            rfl
          · rw [if_neg there]
            exact nofun

namespace Reserving

/-- Mounting changes that mount, and what is noted is about it. -/
theorem within_mount (r : Reservation) (inside : F (.mount r.mountPath.key)) :
    HostProg.Ensures A (within F) (mount r).run s fun result _ =>
      Binding.Failure.Notes (.mount r.mountPath.key) (result.mapError .plain) := by
  rw [ensures_mount]
  apply asks_within_read rfl
  intro reply s' _
  cases reply with
  | error e => exact nofun
  | ok mounted =>
    cases mounted with
    | true => exact nofun
    | false =>
      apply asks_within rfl inside
      intro reply s'' _
      cases reply with
      | error e => exact nofun
      | ok _ =>
        intro ch noted
        cases noted
        rfl

/-- What is noted of a grant that is accepted. -/
theorem judge_eq_ok {r : Reservation} {previous granted : Nat} {ch : Change}
    (accepted : judge r previous granted = .ok ch) :
    ch = .reserved r.pool previous ∧ r.required ≤ granted := by
  refine ⟨?_, (judge_eq_ok_iff r previous granted).1 ⟨ch, accepted⟩⟩
  unfold judge at accepted
  split at accepted
  · cases accepted
  · exact (Except.ok.inj accepted).symm

/-- Reserving changes that pool, and what is noted is about it. -/
theorem within_reserve (r : Reservation) (inside : F (.pool r.pool)) :
    HostProg.Ensures A (within F) (reserve r).run s fun result _ =>
      Binding.Failure.Notes (.pool r.pool) (result.mapError .plain) := by
  rw [ensures_reserve]
  apply asks_within_read rfl
  intro reply s' _
  cases reply with
  | error e => exact nofun
  | ok mounted =>
    cases mounted with
    | false => exact nofun
    | true =>
      apply asks_within_read rfl
      intro reply s'' _
      cases reply with
      | error e => exact nofun
      | ok previous =>
        show if r.isMetBy previous then _ else _
        by_cases met : r.isMetBy previous
        · rw [if_pos met]
          exact nofun
        · rw [if_neg met, ensures_resize]
          apply asks_within rfl inside
          intro reply s3 _
          cases reply with
          | error e => exact nofun
          | ok _ =>
            apply asks_within_read rfl
            intro reply s4 _
            cases reply with
            | error e => exact nofun
            | ok granted =>
              show Binding.Failure.Notes _ (((judge r previous granted).map some).mapError _)
              cases judged : judge r previous granted with
              | error e => exact nofun
              | ok made =>
                intro ch noted
                cases noted
                rw [(judge_eq_ok judged).1]

end Reserving

/-! ## Surveys and plans -/

namespace Survey

theorem within_modules (ms : List ModuleRequest) (v : HostView) :
    HostProg.Ensures A (within F) (modules ms v) s fun _ _ => True := by
  induction ms generalizing v s with
  | nil => trivial
  | cons m ms ih =>
    rw [ensures_modules_cons]
    exact asks_within_read rfl fun _ _ _ => ih _

theorem within_drivers (devices : List PciAddress) (v : HostView) :
    HostProg.Ensures A (within F) (drivers devices v) s fun _ _ => True := by
  induction devices generalizing v s with
  | nil => trivial
  | cons a rest ih =>
    rw [ensures_drivers_cons]
    exact asks_within_read rfl fun _ _ _ => ih _

/-- A survey changes nothing. -/
theorem within_take (ms : List ModuleRequest) (r : Option Reservation)
    (devices : List PciAddress) :
    HostProg.Ensures A (within F) (take ms r devices) s fun _ _ => True := by
  cases r with
  | none =>
    rw [ensures_take_none]
    exact (within_modules ms {}).mono fun v s' _ => within_drivers devices v
  | some r =>
    rw [ensures_take]
    apply (within_modules ms {}).mono
    intro v s' _
    rw [ensures_pages]
    apply asks_within_read rfl
    intro mounted s'' _
    exact asks_within_read rfl fun count s3 _ => within_drivers devices _

end Survey

/-- The steps that a plan consists of are those of the goal, for some survey. -/
def Plan.IsFor (g : SetupGoal) : Except Error (List PlannedStep) → Prop
  | .ok steps => ∃ v, steps = Plan.setupSteps v g
  | .error _ => True

/-- Making a plan changes nothing. -/
theorem within_plan_setup (filter : DeviceFilter) (g : SetupGoal) :
    Ensures A (within F) (plan filter (.setup g)).run c s fun result _ _ =>
      Plan.IsFor g result := by
  rw [ensures_plan_setup]
  apply (Catalog.within_enumerate filter).mono
  intro listed c' s' _
  cases listed with
  | error e => trivial
  | ok candidates =>
    rw [skipOnError_ok]
    cases Plan.admissible c' g.devices.toList with
    | error e => trivial
    | ok _ => exact (Survey.within_take _ _ _).mono fun v s'' _ => ⟨v, rfl⟩

/-! ## Setup -/

namespace Setup

/-- A step keeps to its resource, and so does the change that it notes. -/
theorem within_apply (step : Step) (inside : F step.resource) :
    Ensures A (within F) (apply step).run c s fun result _ _ =>
      Binding.Failure.Notes step.resource result := by
  cases step with
  | loadModule m =>
    rw [ensures_apply_loadModule]
    exact Loading.within_require m inside
  | mount r =>
    rw [ensures_apply_mount]
    exact Reserving.within_mount r inside
  | reserve r =>
    rw [ensures_apply_reserve]
    exact Reserving.within_reserve r inside
  | rebind a driver => exact Binding.within_handOver driver inside
  | restore a driver =>
    rw [ensures_apply_restore]
    apply (Binding.within_restore inside).mono
    intro result c' s' _
    cases result <;> exact nofun

/-- Undoing a change keeps to the resource that was changed. -/
theorem within_undo (ch : Change) (inside : F ch.resource) :
    Ensures A (within F) (undo ch).run c s fun _ _ _ => True := by
  have device {a : PciAddress} (prior : Option String) (recorded : Bool)
      (inside : F (.device a)) :
      Ensures A (within F) (undo (.rebound a prior recorded)).run c s fun _ _ _ => True := by
    rw [ensures_undo_rebound]
    apply (Binding.within_bringBack prior inside).mono
    intro result c' s' _
    cases result with
    | error e => trivial
    | ok _ =>
      cases recorded with
      | false => trivial
      | true => exact Catalog.within_forgetHome inside
  cases ch with
  | moduleLoaded name =>
    rw [ensures_undo_moduleLoaded]
    exact asks_within rfl inside fun _ _ _ => trivial
  | mounted path pageKb =>
    rw [ensures_undo_mounted]
    exact asks_within rfl inside fun _ _ _ => trivial
  | reserved pool previous =>
    rw [ensures_undo_reserved]
    exact asks_within rfl inside fun _ _ _ => trivial
  | rebound a prior recorded => exact device prior recorded inside
  | stranded a prior recorded => exact device prior recorded inside

/-- Undoing changes keeps to the resources that were changed. -/
theorem within_undoAll (changes : List Change) (inside : ∀ ch ∈ changes, F ch.resource) :
    Ensures A (within F) (undoAll changes) c s fun _ _ _ => True := by
  induction changes generalizing c s with
  | nil => trivial
  | cons ch older ih =>
    rw [ensures_undoAll_cons]
    have hch : F ch.resource := inside ch (List.mem_cons_self ..)
    apply (within_undo ch hch).mono
    intro result c' s' _
    refine (ih fun other hother => inside other (List.mem_cons_of_mem _ hother)).mono ?_
    exact fun report c'' s'' _ => trivial

/-- A setup that is given up changes what it has noted. -/
theorem within_abort (e : Error) (journal : Journal) (inside : ∀ ch ∈ journal, F ch.resource) :
    Ensures A (within F) (abort e journal) c s fun _ _ _ => True := by
  rw [ensures_abort]
  refine (within_undoAll journal.newestFirst fun ch hch => ?_).mono fun _ _ _ _ => trivial
  exact inside ch (List.mem_reverse.1 hch)

/-- The steps of a plan keep to their resources, also when they are undone. -/
theorem within_applyFrom (timeout : Option Nat) (total index : Nat) (steps : List PlannedStep)
    (p : Progress) (inside : ∀ planned ∈ steps, F planned.step.resource)
    (noted : ∀ ch ∈ p.journal, F ch.resource) :
    Ensures A (within F) (applyFrom timeout total index steps p) c s fun _ _ _ => True := by
  induction steps generalizing index p c s with
  | nil =>
    rw [ensures_applyFrom_nil]
    trivial
  | cons planned rest ih =>
    have hstep : F planned.step.resource := inside planned (List.mem_cons_self ..)
    have hrest : ∀ other ∈ rest, F other.step.resource := fun other hother =>
      inside other (List.mem_cons_of_mem _ hother)
    rw [ensures_applyFrom_cons]
    apply ensures_isLate timeout index
    intro late
    by_cases hl : late
    · rw [if_pos hl]
      exact within_abort _ _ noted
    · rw [if_neg hl]
      by_cases hp : planned.satisfied
      · rw [if_pos hp]
        exact ih _ _ hrest noted
      · rw [if_neg hp]
        apply (within_apply planned.step hstep).mono
        intro result c' s' notes
        have extended (made : Option Change)
            (about : ∀ ch, made = some ch → ch.resource = planned.step.resource) :
            ∀ ch ∈ p.journal ++ made.toList, F ch.resource := by
          intro ch hch
          rcases List.mem_append.1 hch with old | new
          · exact noted ch old
          · rw [about ch (Option.mem_toList.1 new)]
            exact hstep
        rcases result with f | _ | made
        · exact within_abort _ _ (extended f.stranded notes)
        · exact ih _ _ hrest noted
        · exact ih _ _ hrest (extended (some made) notes)

/-- A setup keeps to the resources of its goal, also while it is undone. -/
theorem within_run (policy : Policy) (g : SetupGoal) (inside : ∀ r ∈ g.resources, F r) :
    Ensures A (within F) (run policy g) c s fun _ _ _ => True := by
  rw [ensures_run]
  apply (within_plan_setup policy.filter g).mono
  intro result c' s' planned
  cases result with
  | error e => trivial
  | ok steps =>
    obtain ⟨v, rfl⟩ := planned
    refine within_applyFrom _ _ _ _ _ (fun planned hplanned => ?_) (by simp)
    apply inside
    exact List.mem_map_of_mem (Plan.step_mem_steps hplanned)

end Setup

/-! ## Teardown -/

namespace Teardown

/-- Bringing one device back changes that device. -/
theorem within_restoreOne {a : PciAddress} (inside : F (.device a)) :
    Ensures A (within F) (restoreOne a) c s fun _ _ _ => True :=
  (keeps_restoreOne (notesKeep_true a)).within inside

/-- Bringing devices back changes those devices. -/
theorem within_restoreFrom (total index : Nat) (devices : List PciAddress)
    (inside : ∀ a ∈ devices, F (.device a)) :
    Ensures A (within F) (restoreFrom total index devices) c s fun _ _ _ => True := by
  induction devices generalizing index c s with
  | nil => trivial
  | cons a rest ih =>
    rw [ensures_restoreFrom_cons]
    have ha : F (.device a) := inside a (List.mem_cons_self ..)
    apply (within_restoreOne ha).mono
    intro fate c' s' _
    refine (ih (index + 1) fun b hb => inside b (List.mem_cons_of_mem _ hb)).mono ?_
    exact fun report c'' s'' _ => trivial

/-- Preparing a teardown changes nothing. -/
theorem within_prepare (filter : DeviceFilter) :
    Ensures A (within F) (prepare filter).run c s fun _ _ _ => True := by
  rw [ensures_prepare]
  apply (Catalog.within_enumerate filter).mono
  intro _ c' s' _
  exact Catalog.within_adoptRecorded.mono fun _ _ _ _ => trivial

/-- A teardown keeps to its devices. -/
theorem within_run (policy : Policy) (devices : SortedSet PciAddress)
    (inside : ∀ a ∈ devices.toList, F (.device a)) :
    Ensures A (within F) (run policy devices) c s fun _ _ _ => True := by
  rw [ensures_run]
  apply (within_prepare policy.filter).mono
  intro prepared c' s' _
  cases prepared with
  | error e => trivial
  | ok _ => exact (within_restoreFrom _ _ _ inside).mono fun _ _ _ _ => trivial

end Teardown

end Provision
