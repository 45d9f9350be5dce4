import Provision.Proofs.Teardown.ByDevice

/-!
# Teardowns made again

A teardown that leaves no device behind leaves none of its devices with a record.  Without
a record there is nothing to restore: made again, the teardown reads and does nothing
else.  It passes over the devices that are listed; one that is not listed has nothing
left that tells of it, and is reported as not found.

Main results:

- `Teardown.unrecorded_of_clean`: what a teardown that leaves no device behind leaves.
- `Teardown.rests_run`: a teardown of devices without a record.
- `Teardown.second_teardown_rests`: a teardown made again.
-/

namespace Provision.Teardown

open StoreTerms CatalogProg

variable {a : PciAddress} {devices : List PciAddress} {fate : PciAddress → Fate} {c : Catalog}
  {h h' : SimHost} {F : Resource → Prop}

/-! ## Devices without a record -/

/-- What becomes of a device without a record. -/
def leftAlone (listed : Bool) (a : PciAddress) : Fate :=
  if listed then .skipped else .unrestored (.noDevice a)

/-- The listed ones of the devices without a record are passed over, the others are not found. -/
theorem reportOf_leftAlone (listed : PciAddress → Bool) (devices : List PciAddress) :
    reportOf (fun a => leftAlone (listed a) a) devices =
      { restored := []
        skipped := devices.filter listed
        unrestored := (devices.filter (!listed ·)).map fun a => (a, .noDevice a) } := by
  induction devices with
  | nil => rfl
  | cons a rest ih =>
    show note a (leftAlone (listed a) a) (reportOf _ rest) = _
    rw [ih]
    cases here : listed a <;> simp [leftAlone, note, here]

/-- A device without a record is left alone. -/
theorem rests_restoreOne {listed : Bool} (inStep : InStep listed a c h)
    (unrecorded : h.homes.get? a = none) :
    Ensures (of SimHost.answer) (within F) (restoreOne a) c h fun fate c' h' =>
      fate = leftAlone listed a ∧ c' = c ∧ h' = h := by
  rw [ensures_restoreOne]
  apply ((Catalog.within_homeDriver a).also (reads_homeDriver inStep)).mono
  intro result c' h' read
  obtain ⟨-, rfl, rfl, rfl⟩ := read
  rw [unrecorded]
  have known := inStep.known unrecorded
  subst known
  refine ⟨?_, rfl, rfl⟩
  cases c'.device? a <;> rfl

theorem rests_restoreFrom {listed : PciAddress → Bool} (total index : Nat)
    (inStep : ∀ a ∈ devices, InStep (listed a) a c h)
    (unrecorded : ∀ a ∈ devices, h.homes.get? a = none) :
    Ensures (of SimHost.answer) (within F) (restoreFrom total index devices) c h
      fun report _ h' => report = reportOf (fun a => leftAlone (listed a) a) devices ∧ h' = h := by
  induction devices generalizing index with
  | nil => exact ⟨rfl, rfl⟩
  | cons a rest ih =>
    obtain ⟨inStepHere, inStepLater⟩ := List.forall_mem_cons.1 inStep
    obtain ⟨unrecordedHere, unrecordedLater⟩ := List.forall_mem_cons.1 unrecorded
    rw [ensures_restoreFrom_cons]
    apply (rests_restoreOne inStepHere unrecordedHere).mono
    intro fate c' h' left
    obtain ⟨rfl, rfl, rfl⟩ := left
    apply (ih (index + 1) inStepLater unrecordedLater).mono
    intro report c'' h'' others
    obtain ⟨rfl, rfl⟩ := others
    exact ⟨rfl, rfl⟩

/-- A teardown of devices without a record changes nothing. -/
theorem rests_run (policy : Policy) (devices : SortedSet PciAddress)
    (unrecorded : ∀ a ∈ devices.toList, h.homes.get? a = none) :
    Ensures (of SimHost.answer) (within F) (run policy devices) policy.freshCatalog h
      fun outcome _ h' =>
        outcome = .tornDown
          (reportOf (fun a => leftAlone (lists policy.filter h a) a) devices.toList) ∧ h' = h := by
  rw [ensures_run]
  apply ((within_prepare policy.filter).also (inStep_prepare policy h)).mono
  intro result c' h' prepared
  obtain ⟨-, rfl, rfl, inStep⟩ := prepared
  apply (rests_restoreFrom _ 0 (fun a _ => inStep a) unrecorded).mono
  intro report c'' h'' ends
  exact ⟨congrArg Outcome.tornDown ends.1, ends.2⟩

/-! ## Teardowns that leave no device behind -/

/-- A report without unrestored devices tells of every device that it was not left behind. -/
theorem ne_unrestored_of_clean (clean : (reportOf fate devices).unrestored = [])
    (named : a ∈ devices) (e : Error) : fate a ≠ .unrestored e := by
  intro behind
  have reported : (a, e) ∈ (reportOf fate devices).unrestored :=
    mem_unrestored_reportOf.2 ⟨named, behind⟩
  rw [clean] at reported
  cases reported

/-- A recorded device that is not left behind is restored, and keeps no record. -/
theorem settlement_of_clean {listed : Bool} {home : String} (recorded : h.homes.get? a = some home)
    (clean : ∀ e, (settlement h listed a).fate ≠ .unrestored e) :
    (settlement h listed a).fate = .restored ∧ (settlement h listed a).record = none := by
  rw [settlement_of_recorded recorded] at clean ⊢
  generalize moveTo h.faults a home ((h.find? a).map (·.driver)) = moved at clean ⊢
  obtain ⟨e | _, driver⟩ := moved
  · exact absurd rfl (clean e)
  · exact ⟨rfl, rfl⟩

/-- A device that is not left behind keeps no record. -/
theorem unrecorded_of_clean {listed : Bool}
    (clean : ∀ e, (settlement h listed a).fate ≠ .unrestored e) :
    (settlement h listed a).record = none := by
  cases record : h.homes.get? a with
  | none => rw [settlement_of_unrecorded record]
  | some home => exact (settlement_of_clean record clean).2

/-- A device that is not listed and not left behind is restored. -/
theorem restored_of_clean_of_unlisted
    (clean : ∀ e, (settlement h false a).fate ≠ .unrestored e) :
    (settlement h false a).fate = .restored := by
  cases record : h.homes.get? a with
  | none =>
    rw [settlement_of_unrecorded record] at clean
    exact absurd rfl (clean (.noDevice a))
  | some home => exact (settlement_of_clean record clean).1

/-- A teardown that left no device behind, made again with a fresh catalog, makes no changing call
and leaves the host as it is.  It restores nothing, passes over the devices that the host lists,
and reports the others as not found, which are devices that the first teardown restored; so it
leaves no device behind exactly when the host lists them all. -/
theorem second_teardown_rests (h : SimHost) (clock clock' : Nat → Nat) (policy : Policy)
    (devices : SortedSet PciAddress) (report : TeardownReport)
    (first : (runOn SimHost.answer clock (run policy devices) policy.freshCatalog
      { host := h }).1.1 = .tornDown report)
    (clean : report.unrestored = []) :
    let w : World SimHost :=
      { host := (runOn SimHost.answer clock (run policy devices) policy.freshCatalog
          { host := h }).2.host }
    let again := runOn SimHost.answer clock' (run policy devices) policy.freshCatalog w
    (∀ e ∈ storeCalls SimHost.answer clock' (run policy devices) policy.freshCatalog w,
        e.call.writes = false) ∧
      again.2.host = w.host ∧
      again.1.1 = .tornDown
        { restored := []
          skipped := devices.toList.filter (lists policy.filter h)
          unrestored := (devices.toList.filter (!lists policy.filter h ·)).map
            fun a => (a, .noDevice a) } ∧
      (∀ a ∈ devices.toList, lists policy.filter h a = false → a ∈ report.restored) ∧
      (again.1.1.exitCode = 0 ↔ ∀ a ∈ devices.toList, lists policy.filter h a = true) := by
  intro w again
  obtain ⟨-, outcome, leaves⟩ := (settles_run policy devices fun _ _ => rfl).of_run SimHost.answer
    clock { host := h } id fun _ _ => rfl
  obtain rfl : report = reportOf (fun a => (ending policy.filter h a).fate) devices.toList :=
    Outcome.tornDown.inj (first.symm.trans outcome)
  have settled : ∀ a ∈ devices.toList, ∀ e, (ending policy.filter h a).fate ≠ .unrestored e :=
    fun a named => ne_unrestored_of_clean clean named
  have unrecorded : ∀ a ∈ devices.toList, w.host.homes.get? a = none := fun a named =>
    (leaves.records a named).trans (unrecorded_of_clean (settled a named))
  have listed : lists policy.filter w.host = lists policy.filter h :=
    funext fun a => lists_congr leaves.machine a
  have rests := rests_run (F := fun _ => False) policy devices unrecorded
  rw [reportOf_leftAlone, listed] at rests
  clear_value w
  obtain ⟨reads, outcome', same⟩ := rests.of_run SimHost.answer clock' w id fun _ _ => rfl
  refine ⟨fun e made => writes_eq_false_of_within (reads e made), same, outcome',
    fun a named unlisted => ?_, ?_⟩
  · refine mem_restored_reportOf.2 ⟨named, ?_⟩
    have behind := settled a named
    rw [ending, unlisted] at behind ⊢
    exact restored_of_clean_of_unlisted behind
  · rw [show again.1.1 = _ from outcome']
    simp [Outcome.exitCode]

/-- Of two controllers one is brought back and one has no record; the second time there is nothing
to do. -/
theorem twoNics_rest :
    let h := (Topology.twoNics.setDriver Topology.dataNic (some "vfio-pci")).addHome
      Topology.dataNic "e1000"
    let devices := SortedSet.ofList [Topology.managementNic, Topology.dataNic]
    let report : TeardownReport :=
      { restored := [Topology.dataNic]
        skipped := [Topology.managementNic] }
    let once := runOn SimHost.answer (fun _ => 0) (run {} devices) (Policy.freshCatalog {})
      { host := h }
    let again := runOn SimHost.answer (fun _ => 0) (run {} devices) (Policy.freshCatalog {})
      { host := once.2.host }
    once.1.1 = .tornDown report ∧
      again.1.1 = .tornDown { skipped := [Topology.managementNic, Topology.dataNic] } ∧
      again.1.1.exitCode = 0 ∧ again.2.host.driverOf Topology.dataNic = some "e1000" := by
  intro h devices report
  have first : (runOn SimHost.answer (fun _ => 0) (run {} devices) (Policy.freshCatalog {})
      { host := h }).1.1 = .tornDown report := by decide +kernel
  have bound : (runOn SimHost.answer (fun _ => 0) (run {} devices) (Policy.freshCatalog {})
      { host := h }).2.host.driverOf Topology.dataNic = some "e1000" := by decide +kernel
  have listed : ∀ a ∈ devices.toList, lists DeviceFilter.network h a = true := by decide +kernel
  have skipped : devices.toList.filter (lists DeviceFilter.network h) =
      [Topology.managementNic, Topology.dataNic] := by decide +kernel
  have missing : devices.toList.filter (!lists DeviceFilter.network h ·) = [] := by decide +kernel
  obtain ⟨-, same, outcome, -, success⟩ :=
    second_teardown_rests h (fun _ => 0) (fun _ => 0) {} devices report first rfl
  rw [skipped, missing] at outcome
  -- From here on the runs are only what was found of them; nothing is to evaluate them again.
  generalize runOn _ _ _ _ { host := h } = once at *
  dsimp only
  generalize runOn _ _ _ _ { host := once.2.host } = again at *
  exact ⟨first, outcome, success.2 listed, same ▸ bound⟩

/-- On a machine that cannot list its devices a controller is brought back by its record.  The
second time the record is gone, and the controller is reported as left behind. -/
theorem unlisted_nic_lost_the_second_time :
    let h := ((Topology.twoNics.setDriver Topology.dataNic (some "vfio-pci")).addHome
      Topology.dataNic "e1000").failListing
    let devices := SortedSet.ofList [Topology.dataNic]
    let once := runOn SimHost.answer (fun _ => 0) (run {} devices) (Policy.freshCatalog {})
      { host := h }
    let again := runOn SimHost.answer (fun _ => 0) (run {} devices) (Policy.freshCatalog {})
      { host := once.2.host }
    once.1.1 = .tornDown { restored := [Topology.dataNic] } ∧
      again.1.1 = .tornDown { unrestored := [(Topology.dataNic, .noDevice Topology.dataNic)] } ∧
      again.1.1.exitCode = 3 := by
  decide +kernel

end Provision.Teardown
