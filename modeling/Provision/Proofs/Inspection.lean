import Provision.Proofs.Footprint

/-!
# Plans and reports

Plans and reports are made of four parts: listing the devices, taking in those on
record, asking for a home driver, and surveying the host.  An invariant that these
keep is kept by every plan and by every report.  Plans of setups, and reports of what a
setup would find, do without the records.

Main results:

- `Surveying.plan_setup`, `Surveying.status`, `Surveying.eligibleDevices`: the programs
  that do without the records.
- `Adopting.plan_teardown`, `Adopting.recordedDevices`: those that do not.
- `Inspecting.plan`: plans of both kinds.
- `inspecting_within`: none of them changes anything.
-/

namespace Provision

open StoreTerms CatalogProg

variable {σ : Type} {A K : StoreTerms σ} {I : Catalog → σ → Prop} {filter : DeviceFilter}
  {policy : Policy}

/-! ## Without the records -/

/-- Listing the devices that match a filter and surveying the host keep an invariant. -/
structure Surveying (A K : StoreTerms σ) (I : Catalog → σ → Prop) (filter : DeviceFilter) :
    Prop where
  enumerate : Maintains A K I (Catalog.enumerate filter).run
  survey : ∀ ms r devices, Maintains A K I (liftM (Survey.take ms r devices) : CatalogProg HostView)

namespace Surveying

/-- Making the plan of a setup keeps what its parts keep. -/
theorem plan_setup (parts : Surveying A K I filter) (g : SetupGoal) :
    Maintains A K I (plan filter (.setup g)).run := by
  refine .andThen parts.enumerate fun _ => ?_
  refine .look fun c => .andThen (fun _ _ holds => ?_) fun _ => ?_
  · exact holds
  · exact .andThen (.succeed (parts.survey _ _ _)) fun v => .done _

/-- Reporting what a setup would find keeps what its parts keep. -/
theorem status (parts : Surveying A K I policy.filter) (r : Reservation)
    (ms : List ModuleRequest) : Maintains A K I (Engine.status policy r ms).run := by
  refine .andThen parts.enumerate fun _ => ?_
  exact .andThen (.succeed (parts.survey _ _ _)) fun v => .done _

/-- So does telling which devices a setup may name. -/
theorem eligibleDevices (parts : Surveying A K I policy.filter) :
    Maintains A K I (Engine.eligibleDevices policy).run :=
  .andThen parts.enumerate fun _ => .done _

end Surveying

/-! ## With the records -/

/-- Besides, taking in the devices on record and asking for a home driver keep the invariant. -/
structure Adopting (A K : StoreTerms σ) (I : Catalog → σ → Prop) (filter : DeviceFilter) : Prop
    extends Surveying A K I filter where
  adoptRecorded : Maintains A K I Catalog.adoptRecorded.run
  homeDriver : ∀ a, Maintains A K I (Catalog.homeDriver a).run

namespace Adopting

/-- Finding out what is to be restored keeps what asking for home drivers keeps. -/
theorem restoreSteps (parts : Adopting A K I filter) (v : HostView) (devices : List PciAddress) :
    Maintains A K I (Plan.restoreSteps v devices).run := by
  induction devices with
  | nil => exact .done _
  | cons a rest ih =>
    refine .andThen (parts.homeDriver a) fun home => ?_
    cases home with
    | none => exact ih
    | some driver => exact .andThen ih fun others => .done _

/-- Making the plan of a teardown keeps what its parts keep. -/
theorem plan_teardown (parts : Adopting A K I filter) (devices : SortedSet PciAddress) :
    Maintains A K I (plan filter (.teardown devices)).run := by
  refine .andThen parts.enumerate fun _ => .andThen parts.adoptRecorded fun _ => ?_
  exact .andThen (.succeed (parts.survey _ _ _)) fun v => parts.restoreSteps v devices.toList

/-- So does telling which devices are on record. -/
theorem recordedDevices (parts : Adopting A K I policy.filter) :
    Maintains A K I (Engine.recordedDevices policy).run := by
  refine .andThen (.andThen parts.enumerate fun _ => .done _) fun _ => ?_
  exact .andThen parts.adoptRecorded fun _ => .look fun c => .done _

end Adopting

/-! ## With any filter -/

/-- The parts of which plans and reports are made keep an invariant, whatever the filter. -/
structure Inspecting (A K : StoreTerms σ) (I : Catalog → σ → Prop) : Prop where
  enumerate : ∀ filter, Maintains A K I (Catalog.enumerate filter).run
  adoptRecorded : Maintains A K I Catalog.adoptRecorded.run
  homeDriver : ∀ a, Maintains A K I (Catalog.homeDriver a).run
  survey : ∀ ms r devices, Maintains A K I (liftM (Survey.take ms r devices) : CatalogProg HostView)

namespace Inspecting

/-- What is kept whatever the filter is kept with each one. -/
theorem adopting (parts : Inspecting A K I) (filter : DeviceFilter) : Adopting A K I filter where
  enumerate := parts.enumerate filter
  survey := parts.survey
  adoptRecorded := parts.adoptRecorded
  homeDriver := parts.homeDriver

/-- Making a plan keeps what its parts keep. -/
theorem plan (parts : Inspecting A K I) (filter : DeviceFilter) (goal : Goal) :
    Maintains A K I (Provision.plan filter goal).run := by
  cases goal with
  | setup g => exact (parts.adopting filter).plan_setup g
  | teardown devices => exact (parts.adopting filter).plan_teardown devices

theorem status (parts : Inspecting A K I) (policy : Policy) (r : Reservation)
    (ms : List ModuleRequest) : Maintains A K I (Engine.status policy r ms).run :=
  (parts.adopting policy.filter).status r ms

theorem eligibleDevices (parts : Inspecting A K I) (policy : Policy) :
    Maintains A K I (Engine.eligibleDevices policy).run :=
  (parts.adopting policy.filter).eligibleDevices

theorem recordedDevices (parts : Inspecting A K I) (policy : Policy) :
    Maintains A K I (Engine.recordedDevices policy).run :=
  (parts.adopting policy.filter).recordedDevices

end Inspecting

/-! ## Footprints -/

/-- Plans and reports change nothing, however the calls are answered. -/
theorem inspecting_within (F : Resource → Prop) :
    Inspecting A (within F) fun _ _ => True where
  enumerate filter _ _ _ := Catalog.within_enumerate filter
  adoptRecorded _ _ _ := Catalog.within_adoptRecorded
  homeDriver a _ _ _ := Catalog.within_homeDriver a
  survey ms r devices _ _ _ := (ensures_lift _).2 (Survey.within_take ms r devices)

end Provision
