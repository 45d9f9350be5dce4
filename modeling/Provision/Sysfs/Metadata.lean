import Provision.Json.Printer
import Provision.Json.Reader
import Provision.Pci.Address

/-!
# The document of durable records

The home driver of every device that was handed over, and the time at which it
was put on record, by address.  The document is a JSON object; it is read strictly
and written with its records in the order of addresses.

Main results:

- `Metadata.get?_record_self`, `Metadata.get?_record_of_ne`: recording one device
  keeps the others.
-/

namespace Provision

/-- The durable record of a device. -/
structure DeviceRecord where
  homeDriver : String
  /-- When the device was first handed over. -/
  recordedAt : String
  deriving DecidableEq, Inhabited

/-- The durable records, by address. -/
structure Metadata where
  devices : SortedMap PciAddress DeviceRecord := ∅
  deriving DecidableEq, Inhabited

namespace Metadata

/-! ## Records -/

/-- The record of a device. -/
def get? (d : Metadata) (a : PciAddress) : Option DeviceRecord := d.devices.get? a

/-- The document with a record for a device. -/
def record (d : Metadata) (a : PciAddress) (r : DeviceRecord) : Metadata := ⟨d.devices.insert a r⟩

/-- The document without the record of a device. -/
def forget (d : Metadata) (a : PciAddress) : Metadata := ⟨d.devices.erase a⟩

/-- The home drivers, by address. -/
def drivers (d : Metadata) : SortedMap PciAddress String := d.devices.mapValues (·.homeDriver)

@[simp]
theorem get?_record_self (d : Metadata) (a : PciAddress) (r : DeviceRecord) :
    (d.record a r).get? a = some r := by
  simp [record, get?]

/-- Recording one device keeps the others. -/
theorem get?_record_of_ne (d : Metadata) {a b : PciAddress} (r : DeviceRecord) (h : b ≠ a) :
    (d.record a r).get? b = d.get? b :=
  SortedMap.get?_insert_of_ne _ _ h

/-! ## Writing -/

/-- A record as JSON. -/
def recordToJson (r : DeviceRecord) : Json :=
  .object [("original_driver", .string r.homeDriver), ("recorded_at", .string r.recordedAt)]

/-- The document as JSON. -/
def toJson (d : Metadata) : Json :=
  .object [("devices",
    .object (d.devices.entries.map fun (a, r) => (toString a, recordToJson r)))]

/-- The text of the document. -/
def print (d : Metadata) : String := d.toJson.print

/-! ## Reading -/

/-- The only field with a key; refused when it stands twice. -/
def uniqueField? (key : String) (fields : List (String × Json)) : Option (Option Json) :=
  match fields.filter (·.1 == key) with
  | [] => some none
  | [field] => some (some field.2)
  | _ => none

/-- A field that has to be there and to be a text. -/
def textField? (key : String) (fields : List (String × Json)) : Option String := do
  let field ← uniqueField? key fields
  (← field).string?

/-- Reads a record: an object with its two fields, or an array of their values. -/
def record? : Json → Option DeviceRecord
  | .object fields => do
    some ⟨← textField? "original_driver" fields, ← textField? "recorded_at" fields⟩
  | .array [.string driver, .string time] => some ⟨driver, time⟩
  | _ => none

/-- Reads the records of an object; the last record of an address counts. -/
def records? : List (String × Json) → SortedMap PciAddress DeviceRecord →
    Option (SortedMap PciAddress DeviceRecord)
  | [], records => some records
  | (key, value) :: rest, records => do
    let a ← PciAddress.parse? key
    let r ← record? value
    records? rest (records.insert a r)

/-- Reads the records of a value, which has to be an object. -/
def devices? (value : Json) : Option (SortedMap PciAddress DeviceRecord) := do
  records? (← value.entries?) ∅

/-- Reads the document: an object, or an array of the value of its field; the field may be
missing. -/
def ofJson? : Json → Option Metadata
  | .object fields => do
    match ← uniqueField? "devices" fields with
    | none => some {}
    | some value => some ⟨← devices? value⟩
  | .array [] => some {}
  | .array [value] => do some ⟨← devices? value⟩
  | _ => none

/-- Reads the text of the document. -/
def parse? (s : String) : Option Metadata := do ofJson? (← Json.parse? s)

end Metadata

end Provision
