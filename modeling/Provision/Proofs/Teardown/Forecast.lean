import Provision.Proofs.Inspection
import Provision.Proofs.Simulation.Survey
import Provision.Proofs.Teardown.ByDevice

/-!
# Plans of teardowns

The plan of a teardown lists the devices that have a record, each with its home driver,
and says of each whether it is back already.  It is made from the listing and the records
that the teardown itself would start from.  A teardown does without a listing that fails;
a plan does not.

Main results:

- `Plan.mem_returns_iff`: the devices that are to be restored.
- `Plan.foretells`: the plan of a teardown.
- `Teardown.foretold_unless_listing_fails`: the plan and the teardown.
-/

namespace Provision

open StoreTerms CatalogProg

namespace Plan

variable {a : PciAddress} {c : Catalog} {h : SimHost} {v : HostView} {devices : List PciAddress}
  {listed : PciAddress → Bool}

/-! ## Devices with a record -/

/-- The steps by which devices are to get back: one for each of them that has a record, satisfied
when the device is bound to its home driver already. -/
def returns (h : SimHost) (devices : List PciAddress) : List PlannedStep :=
  devices.filterMap fun a => (h.homes.get? a).map fun home =>
    ⟨.restore a home, h.driverOf a == some home⟩

theorem returns_cons_of_unrecorded (unrecorded : h.homes.get? a = none) :
    returns h (a :: devices) = returns h devices :=
  List.filterMap_cons_none (by rw [unrecorded, Option.map_none])

theorem returns_cons_of_recorded {home : String} (recorded : h.homes.get? a = some home) :
    returns h (a :: devices) =
      ⟨.restore a home, h.driverOf a == some home⟩ :: returns h devices :=
  List.filterMap_cons_some (by rw [recorded, Option.map_some])

/-- A step is planned for the devices that have a record, with the driver on record. -/
theorem mem_returns_iff {planned : PlannedStep} :
    planned ∈ returns h devices ↔
      ∃ a ∈ devices, ∃ home, h.homes.get? a = some home ∧
        planned = ⟨.restore a home, h.driverOf a == some home⟩ := by
  simp only [returns, List.mem_filterMap, Option.map_eq_some_iff]
  exact exists_congr fun a => and_congr_right fun _ => exists_congr fun home =>
    and_congr_right fun _ => eq_comm

/-! ## Making the plan -/

/-- A survey that shows the driver of a device tells whether the device is bound to a driver. -/
theorem hasBinding_of_shows (shown : Survey.ShowsDriver h v a) (driver : String) :
    v.hasBinding a driver = (h.driverOf a == some driver) := by
  unfold HostView.hasBinding SimHost.driverOf
  rw [shown, Option.any_some]
  unfold SimHost.readDriver
  cases h.find? a <;> rfl

/-- The home drivers that are found are those on record, and the survey shows what the devices are
bound to. -/
theorem foretells_restoreSteps (inStep : ∀ a ∈ devices, Teardown.InStep (listed a) a c h)
    (shown : ∀ a ∈ devices, Survey.ShowsDriver h v a) :
    Ensures (of SimHost.answer) free (restoreSteps v devices).run c h fun result _ h' =>
      result = .ok (returns h devices) ∧ h' = h := by
  induction devices with
  | nil => exact ⟨rfl, rfl⟩
  | cons a rest ih =>
    obtain ⟨inStepHere, inStepLater⟩ := List.forall_mem_cons.1 inStep
    obtain ⟨shownHere, shownLater⟩ := List.forall_mem_cons.1 shown
    rw [ensures_restoreSteps_cons]
    apply (Teardown.reads_homeDriver inStepHere).mono
    intro result c' h' read
    obtain ⟨rfl, rfl, rfl⟩ := read
    rw [skipOnError_ok]
    cases record : h'.homes.get? a with
    | none =>
      rw [returns_cons_of_unrecorded record]
      exact ih inStepLater shownLater
    | some home =>
      rw [returns_cons_of_recorded record]
      apply (ih inStepLater shownLater).mono
      intro result c'' h'' others
      obtain ⟨rfl, rfl⟩ := others
      rw [skipOnError_ok, hasBinding_of_shows shownHere]
      exact ⟨rfl, rfl⟩

/-- A plan of a teardown that is made with a fresh catalog fails when the devices cannot be listed,
and otherwise names the devices that have a record. -/
theorem foretells (policy : Policy) (devices : SortedSet PciAddress) (h : SimHost) :
    Ensures (of SimHost.answer) free (plan policy.filter (.teardown devices)).run
      policy.freshCatalog h fun result _ h' =>
        result = ((h.listDevices policy.filter).map fun _ => returns h devices.toList) ∧
          h' = h := by
  rw [ensures_plan_teardown]
  apply (Teardown.inStep_enumerate policy h).mono
  intro result c₁ h₁ enumerated
  obtain ⟨listing, rfl, inStep⟩ := enumerated
  cases listed : h₁.listDevices policy.filter with
  | error e =>
    rw [listed] at listing
    cases result with
    | error e' =>
      cases listing
      exact ⟨rfl, rfl⟩
    | ok candidates => cases listing
  | ok ds =>
    rw [listed] at listing
    cases result with
    | error e' => cases listing
    | ok candidates =>
      apply (Teardown.inStep_adoptRecorded inStep).mono
      intro result c₂ h₂ adopted
      obtain ⟨⟨missing, rfl⟩, rfl, inStep'⟩ := adopted
      rw [skipOnError_ok, Survey.ensures_take_none, Survey.ensures_modules_nil]
      apply (Survey.shows_drivers devices.toList).mono
      intro v h₃ surveyed
      obtain ⟨rfl, -, shown⟩ := surveyed
      exact foretells_restoreSteps (fun a _ => inStep' a) fun a named => shown a (.inr named)

end Plan

namespace Teardown

variable {a : PciAddress}

/-- A device that is restored had a record. -/
theorem recorded_of_restored {h : SimHost} {listed : Bool}
    (restored : (settlement h listed a).fate = .restored) : ∃ home, h.homes.get? a = some home := by
  cases record : h.homes.get? a with
  | some home => exact ⟨home, rfl⟩
  | none =>
    rw [settlement_of_unrecorded record] at restored
    cases listed <;> cases restored

/-- The plan of a teardown and the teardown, both with a fresh catalog.  The teardown is never
rejected.  The plan fails with the listing of the devices; otherwise it names, in the order of
addresses, the devices that have a record, each with its home driver and whether it is bound to it
already, and the devices that the teardown restores are among them.  Making the plan changes
nothing. -/
theorem foretold_unless_listing_fails (h : SimHost) (clock clock' : Nat → Nat) (policy : Policy)
    (devices : SortedSet PciAddress) :
    let inspection := (plan policy.filter (.teardown devices)).run
    let planned := runOn SimHost.answer clock inspection policy.freshCatalog { host := h }
    let ran := runOn SimHost.answer clock' (run policy devices) policy.freshCatalog { host := h }
    planned.1.1 =
        ((h.listDevices policy.filter).map fun _ => Plan.returns h devices.toList) ∧
      (∀ e ∈ storeCalls SimHost.answer clock inspection policy.freshCatalog { host := h },
        e.call.writes = false) ∧
      planned.2.host = h ∧
      ∃ report, ran.1.1 = .tornDown report ∧
        ∀ a ∈ report.restored, ∃ step ∈ Plan.returns h devices.toList,
          ∃ home, step.step = .restore a home := by
  intro inspection planned ran
  have readsOnly := (inspecting_within (A := of SimHost.answer) fun _ => False).plan policy.filter
    (.teardown devices) (c := policy.freshCatalog) (s := h) trivial
  obtain ⟨reads, -, steps, same⟩ := (readsOnly.also (Plan.foretells policy devices h)).of_run
    SimHost.answer clock { host := h } id fun _ _ => rfl
  obtain ⟨-, outcome, -⟩ := (settles_run policy devices fun _ _ => rfl).of_run SimHost.answer
    clock' { host := h } id fun _ _ => rfl
  refine ⟨steps, fun e made => writes_eq_false_of_within (reads e made), same, _, outcome,
    fun a restored => ?_⟩
  obtain ⟨named, back⟩ := mem_restored_reportOf.1 restored
  obtain ⟨home, recorded⟩ := recorded_of_restored back
  exact ⟨_, Plan.mem_returns_iff.2 ⟨a, named, home, recorded, rfl⟩, home, rfl⟩

/-- On a machine that cannot list its devices a controller is brought back by its record, and no
plan foretells it. -/
theorem unlisted_nic_not_foretold :
    let h := ((Topology.twoNics.setDriver Topology.dataNic (some "vfio-pci")).addHome
      Topology.dataNic "e1000").failListing
    let devices := SortedSet.ofList [Topology.dataNic]
    (runOn SimHost.answer (fun _ => 0) (plan DeviceFilter.network (.teardown devices)).run
        (Policy.freshCatalog {}) { host := h }).1.1 =
      .error (.commandFailed "lspci -Dvmmnk" 127 "lspci: command not found") ∧
    (runOn SimHost.answer (fun _ => 0) (run {} devices) (Policy.freshCatalog {})
        { host := h }).1.1 = .tornDown { restored := [Topology.dataNic] } := by
  intro h devices
  exact ⟨rfl, by decide +kernel⟩

end Teardown

end Provision
