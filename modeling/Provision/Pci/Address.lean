import Provision.Data.SortedMap
import Provision.Text.Blank
import Provision.Text.Numeral

/-!
# PCI addresses

The address of a device on the PCI buses of a host is four numbers.  It is
written `dddd:bb:dd.f` in lower-case hexadecimal digits, and may be read without
its domain, in either case and with blanks around it.

Main results:

- `PciAddress.eq_of_numbers_eq`: an address is its four numbers, which also order addresses.
- `PciAddress.ofChars?_short`: a missing domain is domain zero.
-/

namespace Provision

/-- A PCI address: domain, bus, device and function. -/
structure PciAddress where
  domain : Fin 0x10000
  bus : Fin 0x100
  device : Fin 0x100
  function : Fin 8
  deriving DecidableEq, Inhabited

namespace PciAddress

/-! ## Order -/

/-- The four numbers, the most significant first. -/
def numbers (a : PciAddress) : List Nat :=
  [a.domain.val, a.bus.val, a.device.val, a.function.val]

/-- An address is its numbers. -/
theorem eq_of_numbers_eq (a b : PciAddress) (h : a.numbers = b.numbers) : a = b := by
  cases a with
  | mk ad ab ae af =>
    cases b with
    | mk bd bb be bf =>
      simp only [numbers, List.cons.injEq, and_true, Fin.val_inj] at h
      obtain ⟨rfl, rfl, rfl, rfl⟩ := h
      rfl

/-- Addresses stand in the order of their numbers, the domain first. -/
instance : Ord PciAddress := ordByKey numbers

instance : Std.TransOrd PciAddress := transOrd_ordByKey numbers

instance : Std.LawfulEqOrd PciAddress := lawfulEqOrd_ordByKey numbers eq_of_numbers_eq

/-! ## Writing and reading -/

/-- The characters of an address. -/
def toChars (a : PciAddress) : List Char :=
  Numeral.toHex 4 a.domain.val ++ ':' :: Numeral.toHex 2 a.bus.val ++
    ':' :: Numeral.toHex 2 a.device.val ++ '.' :: Numeral.toHex 1 a.function.val

/-- An address as text. -/
protected def toString (a : PciAddress) : String := String.ofList a.toChars

instance : ToString PciAddress := ⟨PciAddress.toString⟩

/-- The number that hexadecimal digits spell, if it is below `limit`. -/
def field? (limit : Nat) (digits : List Char) : Option (Fin limit) := do
  let n ← Numeral.digits? Numeral.hexDigit? 16 0 digits
  if h : n < limit then some ⟨n, h⟩ else none

/-- The address that the digits of its fields spell. -/
def ofDigits? (domain bus device function : List Char) : Option PciAddress := do
  let domain ← field? 0x10000 domain
  let bus ← field? 0x100 bus
  let device ← field? 0x100 device
  let function ← field? 8 function
  some ⟨domain, bus, device, function⟩

/-- Reads an address without blanks around it. -/
def ofChars? : List Char → Option PciAddress
  | [d0, d1, d2, d3, ':', b0, b1, ':', e0, e1, '.', f] =>
    ofDigits? [d0, d1, d2, d3] [b0, b1] [e0, e1] [f]
  | [b0, b1, ':', e0, e1, '.', f] => ofDigits? ['0', '0', '0', '0'] [b0, b1] [e0, e1] [f]
  | _ => none

/-- Reads an address. -/
def parse? (s : String) : Option PciAddress := ofChars? (Text.trimChars s.toList)

/-- A missing domain is domain zero. -/
theorem ofChars?_short (b0 b1 e0 e1 f : Char) :
    ofChars? [b0, b1, ':', e0, e1, '.', f] =
      ofChars? ['0', '0', '0', '0', ':', b0, b1, ':', e0, e1, '.', f] := by
  simp [ofChars?]

end PciAddress

end Provision
