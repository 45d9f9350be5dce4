import Provision.Pci.Address

/-!
# PCI devices

What the enumeration of a host says about a device, what is remembered about
one, and the filter that chooses candidates by their class, vendor and device
ids.
-/

namespace Provision

/-- A device as the enumeration of the host reports it. -/
structure Descriptor where
  address : PciAddress
  /-- Class and subclass, in hexadecimal digits. -/
  deviceClass : String
  vendor : String
  device : String
  /-- The driver that is bound to the device. -/
  driver : Option String
  deriving DecidableEq, Inhabited

/-- A device that the catalog knows. -/
structure TrackedDevice where
  address : PciAddress
  deviceClass : String
  vendor : String
  device : String
  /-- The driver that is bound to the device. -/
  currentDriver : Option String
  /-- The driver that the device had before it was first handed over. -/
  homeDriver : Option String
  deriving DecidableEq, Inhabited

/-- The record of an enumerated device. -/
def Descriptor.tracked (d : Descriptor) (home : Option String) : TrackedDevice :=
  ⟨d.address, d.deviceClass, d.vendor, d.device, d.driver, home⟩

/-- A device that matched the filter, and whether it stays with the host. -/
structure Candidate where
  device : TrackedDevice
  reserved : Bool
  deriving DecidableEq, Inhabited

/-! ## Ids -/

/-- The digits of an id without the marks `0x` in front of them. -/
def dropHexMarks : List Char → List Char
  | '0' :: 'x' :: cs => dropHexMarks cs
  | cs => cs

/-- An id in the form in which ids are compared: no blanks around it, no marks, lower case. -/
def plainId (s : String) : List Char :=
  (dropHexMarks (Text.trimChars s.toList)).map Char.toLower

/-! ## Filters -/

/-- Which devices are candidates; a criterion that is not set admits every device. -/
structure DeviceFilter where
  /-- The beginning of the class id. -/
  deviceClass : Option String := none
  vendor : Option String := none
  device : Option String := none
  deriving DecidableEq, Inhabited

namespace DeviceFilter

/-- Network controllers. -/
def network : DeviceFilter where
  deviceClass := some "02"

/-- Whether a device passes every criterion. -/
def matchesDevice (f : DeviceFilter) (d : Descriptor) : Bool :=
  f.deviceClass.all (fun c => (plainId c).isPrefixOf (plainId d.deviceClass)) &&
    f.vendor.all (fun v => plainId d.vendor == plainId v) &&
    f.device.all (fun i => plainId d.device == plainId i)

end DeviceFilter

end Provision
