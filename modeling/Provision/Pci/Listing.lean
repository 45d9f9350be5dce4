import Provision.Pci.Device

/-!
# Device listings

The listing of a host's devices in the form of the `lspci` tool: a record per
device, records separated by an empty line, each line a key, a colon and a
value.  A record without a usable address is left out.
-/

namespace Provision.Listing

/-- The keys and values of a record, in the order of the lines; a line without a colon is none. -/
def entries (record : List Char) : List (List Char × List Char) :=
  (Text.lines record).filterMap fun line =>
    (Text.splitFirst ':' line).map fun (key, value) => (Text.trimChars key, Text.trimChars value)

/-- The value of the first line with a key. -/
def find? (key : String) : List (List Char × List Char) → Option (List Char)
  | [] => none
  | (k, v) :: rest => if k == key.toList then some v else find? key rest

/-- The text of the first line with a key; without one, the empty text. -/
def field (key : String) (es : List (List Char × List Char)) : String :=
  String.ofList ((find? key es).getD [])

/-- The device that a record describes, if its address can be read. -/
def device? (record : List Char) : Option Descriptor := do
  let es := entries record
  let slot ← find? "Slot" es
  let address ← PciAddress.ofChars? (Text.trimChars slot)
  some {
    address := address
    deviceClass := field "Class" es
    vendor := field "Vendor" es
    device := field "Device" es
    driver := (find? "Driver" es).map String.ofList }

/-- The devices that a listing describes, in its order. -/
def parse (listing : String) : List Descriptor :=
  (Text.paragraphs listing.toList).filterMap device?

end Provision.Listing
