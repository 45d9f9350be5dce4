import Mathlib.Data.Prod.Lex
import Mathlib.Data.String.Basic
import Provision.Proofs.Text.Hexadecimal

/-!
# Spellings of addresses

A device is told by the text of its address, and devices stand in the order of these texts.
The address may be spelled in either case, with its domain or without it, and with blanks
around it.  All spellings of four numbers have one text in common, and such texts are equal
or in order exactly when the numbers are.

Main results:

- `PciAddress.parse?_eq_some_iff`: the texts that are read are the spellings of addresses.
- `PciAddress.toString_eq_normalForm`: the text of an address that was read.
- `PciAddress.toString_lt_iff`: the order of texts is the order of numbers.
- `PciAddress.is_its_numbers`: equality and order of addresses.
-/

namespace Provision

open Text Numeral

/-! ## Fields -/

namespace Numeral

/-- Digits in a field of some width that spell a number. -/
structure Fills (width : Nat) (cs : List Char) (n : Nat) : Prop where
  length_eq : cs.length = width
  spells : Spells cs n

namespace Fills

variable {width n : Nat} {cs : List Char}

/-- Digits that fill a field spell a number that fits into it. -/
theorem lt (field : Fills width cs n) : n < 16 ^ width := by
  obtain ⟨length_eq, values, valued, rfl⟩ := field
  rw [← length_eq, ← valued.length_eq]
  exact ofValues_lt valued.lt

theorem not_isBlank (field : Fills width cs n) : ∀ c ∈ cs, isBlank c = false := by
  obtain ⟨-, values, valued, -⟩ := field
  exact fun c there => PciAddress.not_isBlank_of_hexDigit? (valued.isSome c there)

/-- A number is written into its field with the digits that spell it, in lower case. -/
theorem toHex_eq (field : Fills width cs n) (positive : 0 < width) :
    toHex width n = cs.map Char.toLower := by
  obtain ⟨rfl, spells⟩ := field
  exact spells.toHex_eq (List.ne_nil_of_length_pos positive)

end Fills

end Numeral

/-! ## Spellings -/

namespace PciAddress

/-- Domain, bus, device and function, compared one after the other. -/
abbrev Numbers := Nat ×ₗ Nat ×ₗ Nat ×ₗ Nat

/-- Four numbers, the domain first. -/
def fourOf (domain bus device function : Nat) : Numbers :=
  toLex (domain, toLex (bus, toLex (device, function)))

theorem fourOf_inj {p q r k p' q' r' k' : Nat} :
    fourOf p q r k = fourOf p' q' r' k' ↔ p = p' ∧ q = q' ∧ r = r' ∧ k = k' := by
  simp [fourOf]

/-- Four numbers are in order as the first of them that differ. -/
theorem fourOf_lt_iff {p q r k p' q' r' k' : Nat} :
    fourOf p q r k < fourOf p' q' r' k' ↔
      p < p' ∨ p = p' ∧ (q < q' ∨ q = q' ∧ (r < r' ∨ r = r' ∧ k < k')) := by
  simp only [fourOf, Prod.Lex.toLex_lt_toLex]

/-- The numbers of an address. -/
def fourNumbers (a : PciAddress) : Numbers :=
  fourOf a.domain.val a.bus.val a.device.val a.function.val

/-- Whether characters spell the numbers of an address, field by field. -/
inductive SpellsFields : List Char → Numbers → Prop
  /-- An address with its domain. -/
  | full {domain bus device function : List Char} {p q r k : Nat} (first : Fills 4 domain p)
      (second : Fills 2 bus q) (third : Fills 2 device r) (fourth : Fills 1 function k)
      (small : k < 8) :
      SpellsFields (domain ++ ':' :: bus ++ ':' :: device ++ '.' :: function) (fourOf p q r k)
  /-- A missing domain is domain zero. -/
  | short {bus device function : List Char} {q r k : Nat} (second : Fills 2 bus q)
      (third : Fills 2 device r) (fourth : Fills 1 function k) (small : k < 8) :
      SpellsFields (bus ++ ':' :: device ++ '.' :: function) (fourOf 0 q r k)

/-- Whether a text spells the numbers of an address; blanks may stand around them. -/
def SpellsNumbers (s : String) (n : Numbers) : Prop :=
  ∃ before fields after, s.toList = before ++ fields ++ after ∧
    (∀ c ∈ before, isBlank c = true) ∧ (∀ c ∈ after, isBlank c = true) ∧ SpellsFields fields n

/-- The form in which the text of an address is compared: without blanks around it, with its domain
and in lower case. -/
def normalForm (s : String) : String :=
  let cs := trimChars s.toList
  String.ofList ((if cs.length = 7 then '0' :: '0' :: '0' :: '0' :: ':' :: cs else cs).map
    Char.toLower)

/-! ## Reading -/

theorem field?_eq_some_iff {limit : Nat} {digits : List Char} {x : Fin limit} :
    field? limit digits = some x ↔ Spells digits x.val := by
  rw [← digits?_eq_some_iff]
  unfold field?
  cases digits? hexDigit? 16 0 digits with
  | none => simp
  | some n =>
    by_cases small : n < limit
    · simp [small, Fin.ext_iff]
    · have other : n ≠ x.val := fun same => small (same ▸ x.isLt)
      simp [small, other]

theorem ofDigits?_eq_some_iff {domain bus device function : List Char} {a : PciAddress} :
    ofDigits? domain bus device function = some a ↔
      Spells domain a.domain.val ∧ Spells bus a.bus.val ∧ Spells device a.device.val ∧
        Spells function a.function.val := by
  obtain ⟨p, q, r, k⟩ := a
  simp only [ofDigits?, ← field?_eq_some_iff]
  cases field? 0x10000 domain <;> cases field? 0x100 bus <;> cases field? 0x100 device <;>
    cases field? 8 function <;> simp

/-- Digits in the places of a short address are those of its numbers. -/
theorem ofChars?_join_short : ∀ {bus device function : List Char}, bus.length = 2 →
    device.length = 2 → function.length = 1 →
    ofChars? (bus ++ ':' :: device ++ '.' :: function) =
      ofDigits? ['0', '0', '0', '0'] bus device function
  | [_, _], [_, _], [_], _, _, _ => by simp [ofChars?]

/-- Characters are read as an address exactly when they spell its numbers field by field. -/
theorem ofChars?_eq_some_iff {cs : List Char} {a : PciAddress} :
    ofChars? cs = some a ↔ SpellsFields cs a.fourNumbers := by
  constructor
  · intro read
    have small := a.function.isLt
    unfold ofChars? at read
    split at read
    · obtain ⟨first, second, third, fourth⟩ := ofDigits?_eq_some_iff.1 read
      exact @SpellsFields.full [_, _, _, _] [_, _] [_, _] [_] _ _ _ _
        ⟨rfl, first⟩ ⟨rfl, second⟩ ⟨rfl, third⟩ ⟨rfl, fourth⟩ small
    · obtain ⟨first, second, third, fourth⟩ := ofDigits?_eq_some_iff.1 read
      have zero : a.domain.val = 0 := by
        have read := digits?_eq_some_iff.2 first
        exact (Option.some.inj read).symm
      rw [fourNumbers, zero]
      exact @SpellsFields.short [_, _] [_, _] [_] _ _ _
        ⟨rfl, second⟩ ⟨rfl, third⟩ ⟨rfl, fourth⟩ small
    · cases read
  · intro spelled
    generalize numbers : a.fourNumbers = n at spelled
    cases spelled with
    | full first second third fourth small =>
      obtain ⟨rfl, rfl, rfl, rfl⟩ := fourOf_inj.1 numbers
      rw [ofChars?_join first.length_eq second.length_eq third.length_eq fourth.length_eq]
      exact ofDigits?_eq_some_iff.2 ⟨first.spells, second.spells, third.spells, fourth.spells⟩
    | short second third fourth small =>
      obtain ⟨zero, rfl, rfl, rfl⟩ := fourOf_inj.1 numbers
      rw [ofChars?_join_short second.length_eq third.length_eq fourth.length_eq]
      refine ofDigits?_eq_some_iff.2 ⟨?_, second.spells, third.spells, fourth.spells⟩
      rw [zero]
      exact ⟨[0, 0, 0, 0], by decide⟩

/-- What is spelled field by field are the numbers of an address. -/
theorem SpellsFields.exists_address {cs : List Char} {n : Numbers} (spelled : SpellsFields cs n) :
    ∃ a : PciAddress, a.fourNumbers = n := by
  cases spelled with
  | full first second third fourth small =>
    exact ⟨⟨⟨_, first.lt⟩, ⟨_, second.lt⟩, ⟨_, third.lt⟩, ⟨_, small⟩⟩, rfl⟩
  | short second third fourth small =>
    exact ⟨⟨0, ⟨_, second.lt⟩, ⟨_, third.lt⟩, ⟨_, small⟩⟩, rfl⟩

/-- No blank stands between the fields of an address. -/
theorem SpellsFields.not_isBlank {cs : List Char} {n : Numbers} (spelled : SpellsFields cs n) :
    ∀ c ∈ cs, isBlank c = false := by
  have colon : isBlank ':' = false := by decide
  have point : isBlank '.' = false := by decide
  cases spelled with
  | full first second third fourth small =>
    simp only [List.forall_mem_append, List.forall_mem_cons]
    exact ⟨⟨⟨first.not_isBlank, colon, second.not_isBlank⟩, colon,
      third.not_isBlank⟩, point, fourth.not_isBlank⟩
  | short second third fourth small =>
    simp only [List.forall_mem_append, List.forall_mem_cons]
    exact ⟨⟨second.not_isBlank, colon, third.not_isBlank⟩, point,
      fourth.not_isBlank⟩

/-- The texts that are read as addresses are their spellings. -/
theorem parse?_eq_some_iff {s : String} {a : PciAddress} :
    parse? s = some a ↔ SpellsNumbers s a.fourNumbers := by
  constructor
  · intro read
    obtain ⟨before, after, front, back, text⟩ := exists_surrounding s.toList
    exact ⟨before, _, after, text, front, back, ofChars?_eq_some_iff.1 read⟩
  · rintro ⟨before, fields, after, text, front, back, spelled⟩
    rw [parse?, text, trimChars_surrounded front back, trimChars_of_forall spelled.not_isBlank]
    exact ofChars?_eq_some_iff.2 spelled

/-- A spelling is read as the address whose numbers it spells. -/
theorem SpellsNumbers.exists_parse? {s : String} {n : Numbers} (spelled : SpellsNumbers s n) :
    ∃ a, parse? s = some a ∧ a.fourNumbers = n := by
  obtain ⟨-, fields, -, -, -, -, inside⟩ := id spelled
  obtain ⟨a, rfl⟩ := inside.exists_address
  exact ⟨a, parse?_eq_some_iff.2 spelled, rfl⟩

/-- A text that is read spells the numbers of its address and no others. -/
theorem spellsNumbers_iff {s : String} {a : PciAddress} (read : parse? s = some a) {n : Numbers} :
    SpellsNumbers s n ↔ n = a.fourNumbers := by
  constructor
  · intro spelled
    obtain ⟨b, read', rfl⟩ := spelled.exists_parse?
    rw [read] at read'
    rw [Option.some.inj read']
  · rintro rfl
    exact parse?_eq_some_iff.1 read

/-! ## Texts of addresses -/

/-- The text of an address that was read is the normal form of the text that it was read from. -/
theorem toString_eq_normalForm {s : String} {a : PciAddress} (read : parse? s = some a) :
    toString a = normalForm s := by
  obtain ⟨before, fields, after, text, front, back, spelled⟩ := parse?_eq_some_iff.1 read
  show String.ofList a.toChars = _
  rw [normalForm, text, trimChars_surrounded front back, trimChars_of_forall spelled.not_isBlank]
  generalize numbers : a.fourNumbers = n at spelled
  cases spelled with
  | full first second third fourth small =>
    obtain ⟨rfl, rfl, rfl, rfl⟩ := fourOf_inj.1 numbers
    rw [if_neg (by simp [first.length_eq, second.length_eq, third.length_eq, fourth.length_eq]),
      toChars, first.toHex_eq (by decide), second.toHex_eq (by decide), third.toHex_eq (by decide),
      fourth.toHex_eq (by decide)]
    simp
  | short second third fourth small =>
    obtain ⟨zero, rfl, rfl, rfl⟩ := fourOf_inj.1 numbers
    rw [if_pos (by simp [second.length_eq, third.length_eq, fourth.length_eq]),
      toChars, zero, second.toHex_eq (by decide), third.toHex_eq (by decide),
      fourth.toHex_eq (by decide)]
    simp [toHex]

/-- The texts of addresses are in order exactly when their numbers are. -/
theorem toString_lt_iff (a b : PciAddress) :
    toString a < toString b ↔ a.fourNumbers < b.fourNumbers := by
  have one (x : Fin 8) : x.val < 16 ^ 1 := Nat.lt_of_lt_of_le x.isLt (by decide)
  have four (x : Fin 0x10000) : (toHex 4 x.val).length = 4 := length_toHex (by decide) x.isLt
  have two (x : Fin 0x100) : (toHex 2 x.val).length = 2 := length_toHex (by decide) x.isLt
  show String.ofList a.toChars < String.ofList b.toChars ↔ _
  rw [String.lt_iff_toList_lt, String.toList_ofList, String.toList_ofList]
  simp only [toChars, List.append_assoc, List.cons_append]
  rw [append_lt_append_iff ((four _).trans (four _).symm), List.cons_lt_cons_iff,
    append_lt_append_iff ((two _).trans (two _).symm), List.cons_lt_cons_iff,
    append_lt_append_iff ((two _).trans (two _).symm), List.cons_lt_cons_iff,
    toHex_lt_iff (by decide) a.domain.isLt b.domain.isLt,
    toHex_lt_iff (by decide) a.bus.isLt b.bus.isLt,
    toHex_lt_iff (by decide) a.device.isLt b.device.isLt,
    toHex_lt_iff (by decide) (one a.function) (one b.function), toHex_inj, toHex_inj, toHex_inj,
    fourNumbers, fourNumbers, fourOf_lt_iff]
  simp

/-- Addresses are in order exactly when their numbers are. -/
theorem compare_eq_lt_iff (a b : PciAddress) :
    compare a b = .lt ↔ a.fourNumbers < b.fourNumbers := by
  show compare a.numbers b.numbers = .lt ↔ _
  rw [fourNumbers, fourNumbers, fourOf_lt_iff]
  simp [compare, numbers, List.compareLex_cons_cons, List.compareLex_nil_nil, Ordering.then_eq_lt,
    compareOfLessAndEq_eq_eq]

theorem fourNumbers_inj {a b : PciAddress} : a.fourNumbers = b.fourNumbers ↔ a = b := by
  constructor
  · intro same
    obtain ⟨first, second, third, fourth⟩ := fourOf_inj.1 same
    exact eq_of_numbers_eq a b (by simp [numbers, first, second, third, fourth])
  · rintro rfl
    rfl

/-- An address is its numbers.  Every text that is read as an address spells four numbers and no
others.  Two texts are read as the same address exactly when they spell the same numbers, and the
addresses, and the texts in normal form by which they are told apart, are in the order of these
numbers.  The text of an address is read back. -/
theorem is_its_numbers {s t : String} {a b : PciAddress} (hs : parse? s = some a)
    (ht : parse? t = some b) :
    ∃ m n : Numbers, (∀ k, SpellsNumbers s k ↔ k = m) ∧ (∀ k, SpellsNumbers t k ↔ k = n) ∧
      (a = b ↔ m = n) ∧ (compare a b = .lt ↔ m < n) ∧
      (normalForm s = normalForm t ↔ m = n) ∧ (normalForm s < normalForm t ↔ m < n) ∧
      toString a = normalForm s ∧ parse? (toString a) = some a := by
  refine ⟨a.fourNumbers, b.fourNumbers, fun k => spellsNumbers_iff hs,
    fun k => spellsNumbers_iff ht, fourNumbers_inj.symm, compare_eq_lt_iff a b, ?_, ?_,
    toString_eq_normalForm hs, parse?_toString a⟩
  · rw [fourNumbers_inj, ← toString_eq_normalForm hs, ← toString_eq_normalForm ht]
    constructor
    · intro same
      have back := parse?_toString a
      rw [same, parse?_toString] at back
      exact (Option.some.inj back).symm
    · rintro rfl
      rfl
  · rw [← toString_eq_normalForm hs, ← toString_eq_normalForm ht, toString_lt_iff]

/-- A short address in capital letters, and one with its domain, in the order of their numbers. -/
theorem short_address_follows :
    parse? "0000:0b:1f.7" = some ⟨0, 0x0b, 0x1f, 7⟩ ∧ parse? " AF:00.1\n" = some ⟨0, 0xaf, 0, 1⟩ ∧
      SpellsNumbers "0000:0b:1f.7" (fourOf 0 0x0b 0x1f 7) ∧
      SpellsNumbers " AF:00.1\n" (fourOf 0 0xaf 0 1) ∧
      normalForm "0000:0b:1f.7" < normalForm " AF:00.1\n" := by
  have first : SpellsNumbers "0000:0b:1f.7" (fourOf 0 0x0b 0x1f 7) :=
    have domain : Fills 4 ['0', '0', '0', '0'] 0 := ⟨rfl, [0, 0, 0, 0], by decide⟩
    have bus : Fills 2 ['0', 'b'] 0x0b := ⟨rfl, [0, 11], by decide⟩
    have device : Fills 2 ['1', 'f'] 0x1f := ⟨rfl, [1, 15], by decide⟩
    have function : Fills 1 ['7'] 7 := ⟨rfl, [7], by decide⟩
    ⟨[], _, [], by decide, by simp, by simp, .full domain bus device function (by decide)⟩
  have second : SpellsNumbers " AF:00.1\n" (fourOf 0 0xaf 0 1) :=
    have bus : Fills 2 ['A', 'F'] 0xaf := ⟨rfl, [10, 15], by decide⟩
    have device : Fills 2 ['0', '0'] 0 := ⟨rfl, [0, 0], by decide⟩
    have function : Fills 1 ['1'] 1 := ⟨rfl, [1], by decide⟩
    ⟨[' '], _, ['\n'], by decide, List.forall_mem_singleton.2 rfl, List.forall_mem_singleton.2 rfl,
      .short bus device function (by decide)⟩
  have hs : parse? "0000:0b:1f.7" = some ⟨0, 0x0b, 0x1f, 7⟩ := by decide
  have ht : parse? " AF:00.1\n" = some ⟨0, 0xaf, 0, 1⟩ := by decide
  obtain ⟨m, n, hm, hn, -, -, -, order, -⟩ := is_its_numbers hs ht
  obtain rfl := (hm _).1 first
  obtain rfl := (hn _).1 second
  exact ⟨hs, ht, first, second, order.2 (by rw [fourOf_lt_iff]; decide)⟩

end PciAddress

end Provision
