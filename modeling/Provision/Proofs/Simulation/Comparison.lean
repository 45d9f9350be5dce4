import Provision.Proofs.Simulation.Frame
import Provision.Simulation.Check
import Provision.Simulation.Topology

/-!
# Comparing snapshots

Mounts, pools, modules and records are compared whole.  Devices are compared from one
side: each device of the earlier snapshot is looked up in the later one, where a missing
device counts as one that is not bound.  So a device that came is not reported, and
neither is one that went while no driver was bound to it.  Everything else is, and since
no call makes a device come or go, the check that a host is unchanged is exact around
everything that programs do.

Main results:

- `Snapshot.driverDifferences_eq_nil_iff`, `Snapshot.differences_eq_nil_iff`: when no
  difference is reported.
- `SimHost.SameMachine.not_overlooked`: no device comes or goes on one machine.
- `Snapshot.same_unless_overlooked`: what the comparison misses, and where it misses
  nothing.
-/

namespace Provision

open StoreTerms CatalogProg

namespace Snapshot

variable {a b : Snapshot} {address : PciAddress}

/-! ## Snapshots that are the same -/

/-- All but the devices is the same in two snapshots.  Mounts are the same when their paths are
compared as the same, however they are spelled. -/
structure SameBesidesDevices (a b : Snapshot) : Prop where
  mounts : a.mountKeys = b.mountKeys
  pools : a.pools = b.pools
  modules : a.modules = b.modules
  homes : a.homes = b.homes

/-- Two snapshots are the same. -/
structure Same (a b : Snapshot) : Prop extends SameBesidesDevices a b where
  /-- The same devices are there, bound to the same drivers. -/
  drivers : a.drivers = b.drivers

/-- Whether the comparison with a later snapshot overlooks a device: it came, bound or not, or it
went and was not bound before. -/
def Overlooked (a b : Snapshot) (address : PciAddress) : Prop :=
  (a.drivers.get? address = none ∧ (b.drivers.get? address).isSome) ∨
    (a.drivers.get? address = some none ∧ b.drivers.get? address = none)

/-- Two snapshots are the same, devices apart that are overlooked. -/
structure SameUnlessOverlooked (a b : Snapshot) : Prop extends SameBesidesDevices a b where
  drivers : ∀ address,
    a.drivers.get? address = b.drivers.get? address ∨ Overlooked a b address

/-- A device that is overlooked is one that differs. -/
theorem Overlooked.differs (overlooked : Overlooked a b address) :
    a.drivers.get? address ≠ b.drivers.get? address := by
  intro same
  rcases overlooked with ⟨before, after⟩ | ⟨before, after⟩
  · rw [← same, before] at after
    cases after
  · rw [← same, before] at after
    cases after

/-- Snapshots are the same when nothing differs between them but devices that are overlooked, and
there are no such devices. -/
theorem same_iff_none_overlooked :
    a.Same b ↔ a.SameUnlessOverlooked b ∧ ∀ address, ¬ Overlooked a b address := by
  constructor
  · intro same
    have found (address : PciAddress) : a.drivers.get? address = b.drivers.get? address :=
      congrArg (SortedMap.get? · address) same.drivers
    exact ⟨⟨same.toSameBesidesDevices, fun address => .inl (found address)⟩,
      fun address overlooked => overlooked.differs (found address)⟩
  · rintro ⟨same, none⟩
    exact ⟨same.toSameBesidesDevices,
      SortedMap.ext fun address => (same.drivers address).resolve_right (none address)⟩

/-! ## Reported differences -/

/-- The later snapshot, where a missing device counts as one that is not bound, shows a device of
the earlier one as it was when nothing differs there or the device is overlooked. -/
theorem shown_same_iff :
    (∀ driver, a.drivers.get? address = some driver → driver = (b.drivers.get? address).join) ↔
      a.drivers.get? address = b.drivers.get? address ∨ Overlooked a b address := by
  unfold Overlooked
  cases a.drivers.get? address with
  | none => cases b.drivers.get? address <;> simp
  | some driver =>
    cases b.drivers.get? address with
    | none => cases driver <;> simp
    | some now => simp

/-- No device is reported when every device is bound as before or is overlooked. -/
theorem driverDifferences_eq_nil_iff :
    driverDifferences a b = [] ↔ ∀ address,
      a.drivers.get? address = b.drivers.get? address ∨ Overlooked a b address := by
  have unreported : driverDifferences a b = [] ↔
      ∀ e ∈ a.drivers.entries, e.2 = (b.drivers.get? e.1).join := by
    simp [driverDifferences, List.filterMap_eq_nil_iff]
  rw [unreported]
  constructor
  · intro same address
    exact shown_same_iff.1 fun driver found => same (address, driver) (Entries.mem_of_get? found)
  · intro same e he
    exact shown_same_iff.2 (same e.1) e.2 (SortedMap.get?_of_mem he)

/-- Nothing is reported when nothing differs but devices that are overlooked. -/
theorem differences_eq_nil_iff : a.differences b = [] ↔ a.SameUnlessOverlooked b := by
  have parts : a.differences b = [] ↔ a.mountKeys = b.mountKeys ∧ a.pools = b.pools ∧
      a.modules = b.modules ∧ driverDifferences a b = [] ∧ a.homes = b.homes := by
    simp [differences]
  rw [parts, driverDifferences_eq_nil_iff]
  constructor
  · rintro ⟨mounts, pools, modules, drivers, homes⟩
    exact ⟨⟨mounts, pools, modules, homes⟩, drivers⟩
  · rintro ⟨⟨mounts, pools, modules, homes⟩, drivers⟩
    exact ⟨mounts, pools, modules, drivers, homes⟩

end Snapshot

/-! ## Devices on one machine -/

namespace SimHost

variable {h h' : SimHost}

/-- On one machine no device is overlooked, since the same devices are there at all times. -/
theorem SameMachine.not_overlooked (machine : SameMachine h h') (a : PciAddress) :
    ¬ Snapshot.Overlooked h.snapshot h'.snapshot a := by
  have there : h.snapshot.drivers.contains a = h'.snapshot.drivers.contains a := by
    rw [Bool.eq_iff_iff, contains_drivers_snapshot, contains_drivers_snapshot, machine.addresses]
  unfold SortedMap.contains at there
  rintro (⟨before, after⟩ | ⟨before, after⟩)
  · rw [before, after] at there
    cases there
  · rw [before, after] at there
    cases there

end SimHost

/-! ## Unchanged hosts -/

namespace Snapshot

/-- The comparison of snapshots misses devices that came, and devices that went while they were
not bound, and nothing else.  No difference is reported between two snapshots exactly when nothing
differs between them but such devices; they are the same exactly when, besides, there are no such
devices.  The check that a host is unchanged passes in the same case.  And it passes exactly when
the snapshots are the same wherever the host was changed by a program alone, whatever the program,
whichever of its calls fail and whatever the clock shows. -/
theorem same_unless_overlooked (a b : Snapshot) :
    (a.differences b = [] ↔ a.SameUnlessOverlooked b) ∧
    (a.Same b ↔ a.differences b = [] ∧ ∀ address, ¬ Overlooked a b address) ∧
    (∀ h : SimHost, Check.mismatch? h (.unchanged a) = .ok none ↔
      a.SameUnlessOverlooked h.snapshot) ∧
    ∀ {α : Type} (p : CatalogProg α) (c : Catalog) (fails : Nat → Option Error)
      (clock : Nat → Nat) (w : World (SimHost × Nat)),
      let h' := (runOn (SimHost.answer.unreliable fails) clock p c w).2.host.1
      Check.mismatch? h' (.unchanged w.host.1.snapshot) = .ok none ↔
        w.host.1.snapshot.Same h'.snapshot := by
  refine ⟨differences_eq_nil_iff, ?_, fun h => ?_, fun p c fails clock w => ?_⟩
  · rw [differences_eq_nil_iff, same_iff_none_overlooked]
  · rw [Check.mismatch?_unchanged, differences_eq_nil_iff]
  · intro h'
    have machine : SimHost.SameMachine w.host.1 h' :=
      ((SimHost.sameMachine_orFails (p := p) (c := c)).of_run (SimHost.answer.unreliable fails)
        clock w Prod.fst fun call t => SimHost.answer.answer_unreliable fails call t).2
    rw [Check.mismatch?_unchanged, differences_eq_nil_iff, same_iff_none_overlooked]
    exact (and_iff_left machine.not_overlooked).symm

/-- A third controller comes to a machine with two, bound to a driver, and the host passes for
unchanged. -/
theorem third_nic_overlooked :
    let before := Topology.twoNics.snapshot
    let after := Topology.threeNics.snapshot
    before.differences after = [] ∧
      Check.mismatch? Topology.threeNics (.unchanged before) = .ok none ∧ ¬ before.Same after := by
  intro before after
  have unreported : before.differences after = [] := by decide +kernel
  refine ⟨unreported, (Check.mismatch?_unchanged _ _).2 unreported, fun same => ?_⟩
  exact absurd same.drivers (by decide +kernel)

end Snapshot

end Provision
