import Provision.Proofs.Mirror
import Provision.Proofs.Simulation.Survey
import Provision.Proofs.Teardown.Settlement

/-!
# Candidates

A setup may name the devices that the catalog knows.  The catalog learns of a device in
two ways: a listing takes in the devices that match the filter, and teardowns, their
plans and the list of recorded devices take in those on record that are on the host.  A
device that the listing does not name stays unknown as long as nothing takes it in by its
record: no operation touches it, and a setup that names it is rejected.

Main results:

- `Setup.refuses_unknown`: a setup that names an unknown device.
- `Outside.kept`: what leaves a device alone and does not make it known.
- `outside_setup`, `outside_teardown`: runs.
- `outside_session`: operations on one catalog.
- `Setup.refuses_unlisted_unless_recorded`: setups after any operations.
-/

namespace Provision

open StoreTerms CatalogProg

variable {a b : PciAddress} {filter : DeviceFilter} {policy : Policy} {g : SetupGoal}
  {c : Catalog} {h h' : SimHost}

namespace SimHost

/-- A device is in no listing of a host: it does not match, it is not there, or nothing is
listed. -/
def Unlisted (h : SimHost) (filter : DeviceFilter) (a : PciAddress) : Prop :=
  ∀ ds, h.listDevices filter = .ok ds → a ∉ ds.map (·.address)

/-- A device is unlisted when no listing that succeeds names it. -/
theorem unlisted_iff :
    h.Unlisted filter a ↔ (h.faults.listing = false → a ∉ h.listed filter) := by
  unfold Unlisted listDevices listed
  cases h.faults.listing <;> simp

/-- On one machine, the same devices are listed at all times. -/
theorem SameMachine.unlisted_iff (same : SameMachine h h') :
    h'.Unlisted filter a ↔ h.Unlisted filter a := by
  rw [SimHost.unlisted_iff, SimHost.unlisted_iff, same.faults, same.listed_eq]

/-- A device is on a host, and the host has a record of it. -/
def IsRecorded (h : SimHost) (a : PciAddress) : Prop :=
  (h.find? a).isSome = true ∧ (h.homes.get? a).isSome = true

/-- Whether a device is on record is seen at the device. -/
theorem isRecorded_congr (same : h'.view (.device a) = h.view (.device a)) :
    h'.IsRecorded a ↔ h.IsRecorded a := by
  have bound : (h'.find? a).map (·.driver) = (h.find? a).map (·.driver) := congrArg Prod.fst same
  have found : (h'.find? a).isSome = (h.find? a).isSome := by
    rw [← Option.isSome_map, bound, Option.isSome_map]
  have record : h'.homes.get? a = h.homes.get? a := congrArg Prod.snd same
  unfold IsRecorded
  rw [found, record]

end SimHost

/-! ## Unknown devices -/

namespace Catalog

/-- A listing makes no device known but those that it names. -/
theorem unknown_enumerate (unlisted : h.Unlisted filter a) (unknown : c.device? a = none) :
    Ensures (of SimHost.answer) free (enumerate filter).run c h fun _ c' _ =>
      c'.device? a = none := by
  rw [ensures_enumerate, SimHost.asks_of_read rfl]
  show skipOnError _ _ (h.listDevices filter) c h
  cases listed : h.listDevices filter with
  | error e => exact unknown
  | ok ds =>
    rw [skipOnError_ok]
    apply (ensures_enlistAll_of 0 ds).mono
    intro result c' h' taken
    obtain ⟨-, -, ts, addresses, rfl⟩ := taken
    rw [device?_enlistEach_of_notMem (addresses ▸ unlisted ds listed), unknown]

/-- A device that is on the host and on record is the only kind that is taken in by its record. -/
theorem unknown_adoptAll (recorded : List (PciAddress × String))
    (there : ∀ entry ∈ recorded, h.homes.get? entry.1 = some entry.2)
    (unrecorded : ¬ h.IsRecorded a) (unknown : c.device? a = none) :
    Ensures (of SimHost.answer) free (adoptAll recorded).run c h fun _ c' _ =>
      c'.device? a = none := by
  induction recorded generalizing c with
  | nil => exact unknown
  | cons entry rest ih =>
    obtain ⟨b, home⟩ := entry
    obtain ⟨here, later⟩ := List.forall_mem_cons.1 there
    rw [ensures_adoptAll_cons]
    by_cases known : (c.device? b).isSome
    · rw [if_pos known]
      exact ih later unknown
    · rw [if_neg known, SimHost.asks_of_read rfl]
      cases read : (SimHost.answer (.boundDriver b) h).1 with
      | ok current =>
        have bound : (h.find? b).map (·.driver) = some current :=
          SimHost.readDriver_eq_ok_iff.1 read
        have other : a ≠ b := by
          rintro rfl
          refine unrecorded ⟨?_, by rw [here]; rfl⟩
          rw [← Option.isSome_map, bound]
          rfl
        exact ih later ((SortedMap.get?_insert_of_ne _ _ other).trans unknown)
      | error e =>
        apply (ih later unknown).mono
        intro missing c' h' unknown'
        cases missing <;> exact unknown'

/-- A device without a record does not become known from the records. -/
theorem unknown_adoptRecorded (unrecorded : ¬ h.IsRecorded a) (unknown : c.device? a = none) :
    Ensures (of SimHost.answer) free adoptRecorded.run c h fun _ c' _ => c'.device? a = none := by
  rw [ensures_adoptRecorded, SimHost.asks_of_read rfl]
  exact unknown_adoptAll h.homes.entries (fun _ entry => SortedMap.get?_of_mem entry) unrecorded
    unknown

end Catalog

/-- An unknown device is in no plan of a setup. -/
theorem Plan.unknown_setup (unlisted : h.Unlisted filter a) (unknown : c.device? a = none) :
    Ensures (of SimHost.answer) free (plan filter (.setup g)).run c h fun result c' _ =>
      c'.device? a = none ∧ (a ∈ g.devices.toList → ∃ e, result = .error e) := by
  rw [ensures_plan_setup]
  apply (Catalog.unknown_enumerate unlisted unknown).mono
  intro result c' h' unknown'
  cases result with
  | error e => exact ⟨unknown', fun _ => ⟨e, rfl⟩⟩
  | ok candidates =>
    rw [skipOnError_ok]
    cases admitted : Plan.admissible c' g.devices.toList with
    | error e => exact ⟨unknown', fun _ => ⟨e, rfl⟩⟩
    | ok _ =>
      refine (HostProg.ensures_true _).mono fun v _ _ => ⟨unknown', fun named => ?_⟩
      have known := ((Plan.admissible_eq_ok_iff _ _).1 admitted a named).1
      rw [unknown'] at known
      cases known

namespace Setup

/-- A setup that names an unknown device is rejected, and changes nothing. -/
theorem refuses_unknown (unlisted : h.Unlisted policy.filter a) (unknown : c.device? a = none)
    (named : a ∈ g.devices.toList) :
    Ensures (of SimHost.answer) (within fun _ => False) (run policy g) c h fun outcome c' _ =>
      (∃ e, outcome = .rejected e) ∧ c'.device? a = none := by
  rw [ensures_run]
  apply ((within_plan_setup policy.filter g).also (Plan.unknown_setup unlisted unknown)).mono
  intro result c' h' planned
  obtain ⟨-, unknown', refused⟩ := planned
  obtain ⟨e, rfl⟩ := refused named
  exact ⟨⟨e, rfl⟩, unknown'⟩

/-- No setup makes a device known that is not listed. -/
theorem unknown_run (unlisted : h.Unlisted policy.filter a) (unknown : c.device? a = none) :
    Ensures (of SimHost.answer) free (run policy g) c h fun _ c' _ => c'.device? a = none := by
  rw [ensures_run]
  apply (Plan.unknown_setup unlisted unknown).mono
  intro result c' h' planned
  cases result with
  | error e => exact planned.1
  | ok steps => exact keeps_applyFrom (notesKeep_unknown · a) _ _ _ _ _ planned.1

end Setup

/-! ## Devices that are left alone -/

/-- The catalog does not know a device, and the device is as it was on a host before. -/
structure Outside (a : PciAddress) (h : SimHost) (c : Catalog) (h' : SimHost) : Prop where
  unknown : c.device? a = none
  same : h'.view (.device a) = h.view (.device a)
  machine : SimHost.SameMachine h h'

/-- Programs that leave an unknown device alone and do not make it known. -/
abbrev LeavingOutside {α : Type} (a : PciAddress) (h : SimHost) (p : CatalogProg α) : Prop :=
  Maintains (of SimHost.answer) free (Outside a h) p

/-- A device that is not known goes on being unknown and as it was when a program keeps to other
resources. -/
theorem Outside.kept {α : Type} {F : Resource → Prop} {p : CatalogProg α}
    (outside : Outside a h c h') (apart : ¬ F (.device a))
    (contract : Ensures (of SimHost.answer) (within F) p c h' fun _ c' _ => c'.device? a = none) :
    Ensures (of SimHost.answer) free p c h' fun _ c' h'' => Outside a h c' h'' := by
  apply (SimHost.ensures_frame_of contract).forget.mono
  intro _ c' h'' ends
  obtain ⟨unknown, elsewhere, machine, -⟩ := ends
  exact ⟨unknown, (elsewhere _ apart).trans outside.same, outside.machine.trans machine⟩

/-- A listing leaves a device outside that it does not name. -/
theorem outside_enumerate (unlisted : h.Unlisted filter a) :
    LeavingOutside a h (Catalog.enumerate filter).run := fun _ _ outside =>
  outside.kept (F := fun _ => False) id ((Catalog.within_enumerate filter).also
    (Catalog.unknown_enumerate (outside.machine.unlisted_iff.2 unlisted) outside.unknown) |>.mono
      fun _ _ _ ends => ends.2)

/-- The records leave a device outside that has none. -/
theorem outside_adoptRecorded (unrecorded : ¬ h.IsRecorded a) :
    LeavingOutside a h Catalog.adoptRecorded.run := fun _ _ outside =>
  outside.kept (F := fun _ => False) id (Catalog.within_adoptRecorded.also
    (Catalog.unknown_adoptRecorded (mt (SimHost.isRecorded_congr outside.same).1 unrecorded)
      outside.unknown) |>.mono fun _ _ _ ends => ends.2)

/-- Asking for a home driver makes no device known. -/
theorem outside_homeDriver (b : PciAddress) : LeavingOutside a h (Catalog.homeDriver b).run :=
  fun _ _ outside =>
    outside.kept (F := fun _ => False) id ((Catalog.within_homeDriver b).also
      (Catalog.keeps_homeDriver (I := fun c => c.device? a = none) b outside.unknown) |>.mono
        fun _ _ _ ends => ends.2)

/-- A survey makes no device known. -/
theorem outside_survey (ms : List ModuleRequest) (r : Option Reservation)
    (devices : List PciAddress) :
    LeavingOutside a h (liftM (Survey.take ms r devices) : CatalogProg HostView) :=
  fun _ _ outside => outside.kept (F := fun _ => False) id
    ((ensures_lift _).2 ((Survey.within_take ms r devices).mono fun _ _ _ => outside.unknown))

theorem outside_surveying (unlisted : h.Unlisted filter a) :
    Surveying (of SimHost.answer) free (Outside a h) filter :=
  ⟨outside_enumerate unlisted, outside_survey⟩

theorem outside_adopting (unlisted : h.Unlisted filter a) (unrecorded : ¬ h.IsRecorded a) :
    Adopting (of SimHost.answer) free (Outside a h) filter :=
  ⟨outside_surveying unlisted, outside_adoptRecorded unrecorded, outside_homeDriver⟩

/-! ## Runs -/

/-- A setup leaves a device alone that is not listed, whether it names it or not. -/
theorem outside_setup (unlisted : h.Unlisted policy.filter a) (g : SetupGoal) :
    LeavingOutside a h (Setup.run policy g) := by
  intro c h' outside
  have unlisted' : h'.Unlisted policy.filter a := outside.machine.unlisted_iff.2 unlisted
  by_cases named : a ∈ g.devices.toList
  · have refused := Setup.refuses_unknown unlisted' outside.unknown named
    exact outside.kept id (refused.mono fun _ _ _ ends => ends.2)
  · have apart : .device a ∉ g.resources := mt SetupGoal.device_mem_resources.1 named
    have kept := (Setup.within_run (F := (· ∈ g.resources)) policy g fun _ => id).also
      (Setup.unknown_run unlisted' outside.unknown)
    exact outside.kept apart (kept.mono fun _ _ _ ends => ends.2)

/-- A device that is not there, or has no record, is left as it is when it is to be restored. -/
theorem Teardown.settledView_of_unrecorded (unrecorded : ¬ h.IsRecorded a) (listed : Bool) :
    settledView h listed a = h.view (.device a) := by
  unfold settledView
  cases record : h.homes.get? a with
  | none =>
    rw [settlement_of_unrecorded record]
    show (((h.find? a).map (·.driver)).map fun _ => h.driverOf a, none) = (_, h.homes.get? a)
    rw [record, SimHost.driverOf]
    cases h.find? a <;> rfl
  | some home =>
    cases found : h.find? a with
    | some d => exact absurd ⟨by rw [found]; rfl, by rw [record]; rfl⟩ unrecorded
    | none =>
      rw [settlement_of_recorded record, found]
      show (((h.find? a).map (·.driver)).map fun _ => none, some home) = (_, h.homes.get? a)
      rw [record, found]
      rfl

/-- Bringing another device back leaves the device outside. -/
theorem outside_restoreOne (unrecorded : ¬ h.IsRecorded a) (b : PciAddress) :
    LeavingOutside a h (Teardown.restoreOne b) := by
  intro c h' outside
  have kept := (Teardown.within_restoreOne (A := of SimHost.answer) (F := (· = .device b)) (c := c)
    (s := h') rfl).also (Teardown.keeps_restoreOne (notesKeep_unknown b a) outside.unknown)
  by_cases here : a = b
  · subst here
    have inStep : Teardown.InStep false a c h' := by
      refine ⟨fun driver home => ?_, fun _ => by rw [outside.unknown]; rfl⟩
      rw [Catalog.home?, outside.unknown] at home
      cases home
    have settled := (Teardown.settles_restoreOne inStep).also (SimHost.ensures_frame_of kept)
    apply settled.mono
    intro fate c' h'' ends
    obtain ⟨⟨-, leaves⟩, ⟨-, unknown⟩, -, machine, -⟩ := ends
    have same : h''.view (.device a) = h'.view (.device a) := leaves.view_self.trans
      (Teardown.settledView_of_unrecorded (mt (SimHost.isRecorded_congr outside.same).1 unrecorded)
        false)
    exact ⟨unknown, same.trans outside.same, outside.machine.trans machine⟩
  · have apart : ¬ (Resource.device a = .device b) := fun same => here (Resource.device.inj same)
    exact outside.kept apart (kept.mono fun _ _ _ ends => ends.2)

/-- A teardown leaves a device alone that is not listed, unless it finds it by its record. -/
theorem outside_teardown (unlisted : h.Unlisted policy.filter a) (unrecorded : ¬ h.IsRecorded a)
    (devices : SortedSet PciAddress) : LeavingOutside a h (Teardown.run policy devices) :=
  Teardown.maintains_run (outside_enumerate unlisted) (outside_adoptRecorded unrecorded)
    fun b _ => outside_restoreOne unrecorded b

/-! ## Sessions -/

/-- Whether an operation takes in devices by their records. -/
def Operation.takesRecords : Operation → Bool
  | .run (.teardown _) | .plan (.teardown _) | .recordedDevices => true
  | .run (.setup _) | .plan (.setup _) | .status _ _ | .eligibleDevices => false

/-- No operation lets the device in, as long as those that take in the records do not find it
there. -/
theorem outside_operation (unlisted : h.Unlisted policy.filter a) (operation : Operation)
    (apart : operation.takesRecords = true → ¬ h.IsRecorded a) :
    LeavingOutside a h (operation.perform policy) := by
  cases operation with
  | run goal =>
    cases goal with
    | setup g => exact .bind (outside_setup unlisted g) fun _ => .pure _
    | teardown devices =>
      exact .bind (outside_teardown unlisted (apart rfl) devices) fun _ => .pure _
  | plan goal =>
    cases goal with
    | setup g => exact .bind ((outside_surveying unlisted).plan_setup g) fun _ => .pure _
    | teardown devices =>
      exact .bind ((outside_adopting unlisted (apart rfl)).plan_teardown devices) fun _ => .pure _
  | status r ms => exact .bind ((outside_surveying unlisted).status r ms) fun _ => .pure _
  | eligibleDevices => exact .bind (outside_surveying unlisted).eligibleDevices fun _ => .pure _
  | recordedDevices =>
    exact .bind (outside_adopting unlisted (apart rfl)).recordedDevices fun _ => .pure _

/-- Operations leave a device alone that is not listed, unless one of them finds it by its
record. -/
theorem outside_session (unlisted : h.Unlisted policy.filter a) (operations : List Operation)
    (apart : h.IsRecorded a → ∀ operation ∈ operations, operation.takesRecords = false) :
    LeavingOutside a h (Session.run policy operations) := by
  induction operations with
  | nil => exact .pure _
  | cons operation later ih =>
    have first : operation.takesRecords = true → ¬ h.IsRecorded a := fun takes recorded => by
      rw [apart recorded operation List.mem_cons_self] at takes
      cases takes
    have others := fun recorded other there =>
      apart recorded other (List.mem_cons_of_mem operation there)
    exact .bind (outside_operation unlisted operation first) fun _ => ih others

namespace Setup

/-- After any operations on a fresh catalog, a setup is rejected without a changing call when it
names a device that the host does not list at that time: one that is absent, or that does not match
the filter, or any device when the listing fails.  The exception are devices that were on the host
and on record from the start, once an operation took in the devices on record. -/
theorem refuses_unlisted_unless_recorded (h : SimHost) (clock clock' : Nat → Nat) (policy : Policy)
    (operations : List Operation) (g : SetupGoal) (a : PciAddress)
    (named : a ∈ g.devices.toList)
    (apart : h.IsRecorded a → ∀ operation ∈ operations, operation.takesRecords = false) :
    let before := runOn SimHost.answer clock (Session.run policy operations) policy.freshCatalog
      { host := h }
    before.2.host.Unlisted policy.filter a →
      (∃ e, (runOn SimHost.answer clock' (run policy g) before.1.2 before.2).1.1 = .rejected e) ∧
        ∀ e ∈ storeCalls SimHost.answer clock' (run policy g) before.1.2 before.2,
          e.call.writes = false := by
  intro before unlisted
  have machine : SimHost.SameMachine h before.2.host :=
    ((SimHost.sameMachine_of (p := Session.run policy operations) (c := policy.freshCatalog)
      (h := h)).of_run SimHost.answer clock { host := h } id fun _ _ => rfl).2
  have start : Outside a h policy.freshCatalog h := ⟨rfl, rfl, .refl h⟩
  have outside : Outside a h before.1.2 before.2.host :=
    (outside_session (machine.unlisted_iff.1 unlisted) operations apart start).of_run
      SimHost.answer clock { host := h } id (fun _ _ => rfl) |>.2
  obtain ⟨reads, rejected, -⟩ := (refuses_unknown unlisted outside.unknown named).of_run
    SimHost.answer clock' before.2 id fun _ _ => rfl
  exact ⟨rejected, fun e made => writes_eq_false_of_within (reads e made)⟩

/-- The display controller matches no filter for network controllers and has no record.  After the
devices were listed and the recorded ones taken in, a setup that names it is rejected. -/
theorem display_refused :
    let before := runOn SimHost.answer (fun _ => 0) (Session.run {} [.eligibleDevices,
      .recordedDevices]) (Policy.freshCatalog {}) { host := Topology.twoNics }
    let g := Topology.handOver [Topology.display]
    (∃ e, (runOn SimHost.answer (fun _ => 0) (run {} g) before.1.2 before.2).1.1 =
        .rejected e) ∧
      ∀ e ∈ storeCalls SimHost.answer (fun _ => 0) (run {} g) before.1.2 before.2,
        e.call.writes = false := by
  intro before g
  have unrecorded : ¬ Topology.twoNics.IsRecorded Topology.display := fun recorded =>
    absurd recorded.2 (by decide)
  refine refuses_unlisted_unless_recorded Topology.twoNics (fun _ => 0) (fun _ => 0) {} _ g
    Topology.display (by decide) (fun recorded => absurd recorded unrecorded) ?_
  rw [SimHost.unlisted_iff]
  decide +kernel

/-- The display controller matches no filter for network controllers, but it has a record.  After
the recorded devices were taken in, a setup that names it is accepted, and hands it over. -/
theorem recorded_display_accepted :
    let h := Topology.twoNics.addHome Topology.display "vmwgfx"
    let before := runOn SimHost.answer (fun _ => 0) (Session.run {} [.recordedDevices])
      (Policy.freshCatalog {}) { host := h }
    let accepted := runOn SimHost.answer (fun _ => 0)
      (run {} (Topology.handOver [Topology.display])) before.1.2 before.2
    before.2.host.listed DeviceFilter.network = [Topology.managementNic, Topology.dataNic] ∧
      accepted.1.1.exitCode = 0 ∧
      accepted.2.host.driverOf Topology.display = some "vfio-pci" := by
  decide +kernel

end Setup

end Provision
