import Provision.Engine.Host

/-!
# The catalog of devices

The catalog holds the candidate devices, keeps the first of them for the
management of the host, and remembers the home driver of every device that is
handed over: the driver that served the device before, and that it returns to.
The home driver is put on durable record once, before the device first leaves
it, and the record is removed only after the device is back.

Main results:

- `Catalog.isReserved_enlist`: a device is reserved as its place in the listing says.
- `Catalog.device?_enlist_of_ne`: a device of the listing does not touch the others.
-/

namespace Provision

/-- The devices that are known, and the policy for them. -/
structure Catalog where
  /-- How many devices at the beginning of the listing stay with the host. -/
  reserveLeading : Nat
  /-- The drivers that hand a device to user space. -/
  passthrough : SortedSet String
  records : SortedMap PciAddress TrackedDevice
  reserved : SortedSet PciAddress
  deriving DecidableEq, Inhabited

namespace Catalog

/-- A catalog that knows no device. -/
def new (reserveLeading : Nat) (passthrough : List String) : Catalog :=
  ⟨reserveLeading, SortedSet.ofList passthrough, ∅, ∅⟩

/-! ## Devices -/

/-- The record of a device. -/
def device? (c : Catalog) (a : PciAddress) : Option TrackedDevice := c.records.get? a

/-- Every known device, in the order of addresses. -/
def devices (c : Catalog) : List TrackedDevice := c.records.values

/-- Whether a device stays with the host. -/
def isReserved (c : Catalog) (a : PciAddress) : Bool := c.reserved.contains a

/-- Whether a driver hands devices to user space. -/
def isPassthrough (c : Catalog) (driver : String) : Bool := c.passthrough.contains driver

/-- Takes in the device that stands at a place of the listing. -/
def enlist (index : Nat) (d : TrackedDevice) (c : Catalog) : Catalog :=
  { c with
    reserved :=
      if index < c.reserveLeading then c.reserved.add d.address else c.reserved.erase d.address
    records := c.records.insert d.address d }

/-- Notes the driver that a device is bound to now. -/
def noteBinding (a : PciAddress) (driver : Option String) (c : Catalog) : Catalog :=
  { c with records := c.records.modify a fun d => { d with currentDriver := driver } }

/-- Notes the home driver that is on record for a device. -/
def noteHome (a : PciAddress) (driver : Option String) (c : Catalog) : Catalog :=
  { c with records := c.records.modify a fun d => { d with homeDriver := driver } }

/-- Forgets a device. -/
def drop (a : PciAddress) (c : Catalog) : Catalog :=
  { c with records := c.records.erase a, reserved := c.reserved.erase a }

/-- A device is reserved as its place in the listing says. -/
theorem isReserved_enlist (index : Nat) (d : TrackedDevice) (c : Catalog) :
    (c.enlist index d).isReserved d.address = decide (index < c.reserveLeading) := by
  unfold enlist isReserved SortedMap.contains
  by_cases h : index < c.reserveLeading <;> simp [h, SortedSet.add]

/-- A device of the listing does not touch the records of the others. -/
theorem device?_enlist_of_ne {index : Nat} {d : TrackedDevice} {c : Catalog} {a : PciAddress}
    (h : a ≠ d.address) : (c.enlist index d).device? a = c.device? a :=
  SortedMap.get?_insert_of_ne _ _ h

end Catalog

/-- A program on a host that keeps a catalog. -/
abbrev CatalogProg := StateT Catalog HostProg

/-- A program on a host that keeps a catalog and may fail; what was noted before a failure
stays noted. -/
abbrev CatalogM := ExceptT Error CatalogProg

instance : MonadLift HostM CatalogM where
  monadLift p := ExceptT.mk (StateT.lift p.run)

namespace Catalog

/-! ## Listing and adopting devices -/

/-- Takes in the devices of a listing from a place on. -/
def enlistAll : Nat → List Descriptor → CatalogM (List Candidate)
  | _, [] => pure []
  | index, d :: ds => do
    let home ← HostM.ask (.homeDriver d.address)
    let device := d.tracked home
    let reserved := decide (index < (← get).reserveLeading)
    modify (enlist index device)
    let others ← enlistAll (index + 1) ds
    pure (⟨device, reserved⟩ :: others)

/-- Lists the devices that match a filter, and takes them in. -/
def enumerate (filter : DeviceFilter) : CatalogM (List Candidate) := do
  let ds ← HostM.ask (.listDevices filter)
  enlistAll 0 ds

/-- The devices that may be handed over. -/
def discover (filter : DeviceFilter) : CatalogM (List TrackedDevice) := do
  let candidates ← enumerate filter
  pure ((candidates.filter (!·.reserved)).map (·.device))

/-- The matching devices whose home driver is on record. -/
def discoverRecorded (filter : DeviceFilter) : CatalogM (List TrackedDevice) := do
  let candidates ← enumerate filter
  pure ((candidates.map (·.device)).filter (·.homeDriver.isSome))

/-- The record of a device that is on record and that no listing named. -/
def adopted (a : PciAddress) (current : Option String) (home : String) : TrackedDevice :=
  ⟨a, "", "", "", current, some home⟩

/-- Takes in the devices of a list of records that are not known; gives those whose driver cannot
be read. -/
def adoptAll : List (PciAddress × String) → CatalogM (List PciAddress)
  | [] => pure []
  | (a, home) :: rest => do
    if ((← get).device? a).isSome then adoptAll rest
    else
      match ← (HostM.ask (.boundDriver a)).result with
      | .ok current => do
        modify fun c => { c with records := c.records.insert a (adopted a current home) }
        adoptAll rest
      | .error _ => do
        let missing ← adoptAll rest
        pure (a :: missing)

/-- Takes in the devices that are on record and not known; gives those that the host lacks. -/
def adoptRecorded : CatalogM (List PciAddress) := do
  let recorded ← HostM.ask .recordedDevices
  adoptAll recorded.entries

/-! ## Home drivers -/

/-- The home driver of a device, as the catalog or else the durable record knows it. -/
def homeDriver (a : PciAddress) : CatalogM (Option String) := do
  match ((← get).device? a).bind (·.homeDriver) with
  | some driver => pure (some driver)
  | none => HostM.ask (.homeDriver a)

/-- Puts a driver on record as the home driver of a device, unless one is on record or the
driver hands devices to user space.  Says whether it did. -/
def recordHome (a : PciAddress) (driver : String) : CatalogM Bool := do
  if (← get).isPassthrough driver then pure false
  else
    match ← homeDriver a with
    | some _ => pure false
    | none => do
      HostM.ask (.setHome a driver)
      modify (noteHome a (some driver))
      pure true

/-- Takes the record of a device back; the device stays known. -/
def forgetHome (a : PciAddress) : CatalogM Unit := do
  HostM.ask (.clearHome a)
  modify (noteHome a none)

/-- Removes a device that is back on its home driver: its record, and what is known of it. -/
def discard (a : PciAddress) : CatalogM Unit := do
  HostM.ask (.clearHome a)
  modify (drop a)

end Catalog

end Provision
