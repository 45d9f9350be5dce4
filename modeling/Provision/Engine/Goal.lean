import Provision.Hugepages
import Provision.KernelModule
import Provision.Pci.Device

/-!
# Goals and policies

What a run is asked to do, and the policy under which it does it.
-/

namespace Provision

/-- Devices are to be handed to a driver, with huge pages reserved. -/
structure SetupGoal where
  devices : SortedSet PciAddress
  target : String
  pages : Reservation
  /-- The modules that are to be loaded first, in order. -/
  modules : List ModuleRequest
  deriving DecidableEq, Inhabited

/-- The goal that asks for the modules that the driver needs. -/
def SetupGoal.forDriver (devices : List PciAddress) (target : String) (pages : Reservation)
    (noIommu : Bool) : SetupGoal :=
  ⟨SortedSet.ofList devices, target, pages, KernelModule.requiredFor target noIommu⟩

/-- What a run is asked to do. -/
inductive Goal
  | setup (g : SetupGoal)
  /-- Devices are to return to their home drivers. -/
  | teardown (devices : SortedSet PciAddress)
  deriving DecidableEq

namespace Goal

/-- The devices that a goal is about. -/
def devices : Goal → SortedSet PciAddress
  | .setup g => g.devices
  | .teardown devices => devices

end Goal

/-- The policy under which runs work. -/
structure Policy where
  /-- Which enumerated devices are candidates. -/
  filter : DeviceFilter := .network
  /-- How many devices at the beginning of the listing stay with the host. -/
  reserveLeading : Nat := 1
  /-- The drivers that hand a device to user space. -/
  passthrough : List String := ["vfio-pci", "uio_pci_generic", "igb_uio"]
  /-- The deadline of a setup in seconds, looked at between its steps. -/
  timeout : Option Nat := none
  deriving DecidableEq, Inhabited

end Provision
