import Mathlib.Logic.Relation
import Provision.Proofs.Text.Hexadecimal
import Provision.Simulation.Topology

/-!
# Spellings of ids

An id may be spelled in either case, behind the mark `0x` or without one, and with blanks
around it.  Filters do not see a difference between such spellings.  A mark `0X` is
different: marks are taken away before ids are put into lower case, so that one stays,
and the id is compared with it.

Main results:

- `SpellsId.plainId`: the form in which an id is compared.
- `plainId_eq_iff`: when two spellings of an id are compared as equal.
- `DeviceFilter.harmless_iff`: which respellings change no match of any filter.
-/

namespace Provision

open Text Numeral

/-! ## Spellings -/

/-- What may mark the digits of an id as hexadecimal. -/
inductive HexMark
  | absent
  | small
  | capital
  deriving DecidableEq

namespace HexMark

/-- The characters of a mark. -/
def chars : HexMark → List Char
  | .absent => []
  | .small => ['0', 'x']
  | .capital => ['0', 'X']

/-- What is compared of a mark. -/
def kept : HexMark → List Char
  | .absent | .small => []
  | .capital => ['0', 'x']

theorem kept_eq_iff (mark mark' : HexMark) :
    mark.kept = mark'.kept ↔ (mark = .capital ↔ mark' = .capital) := by
  cases mark <;> cases mark' <;> decide

/-- No mark holds a blank. -/
theorem not_isBlank {mark : HexMark} : ∀ c ∈ mark.chars, isBlank c = false := by
  cases mark with
  | absent => exact List.forall_mem_nil _
  | small | capital => exact List.forall_mem_cons.2 ⟨rfl, List.forall_mem_singleton.2 rfl⟩

end HexMark

/-- Whether a text spells an id: the digits, in either case, behind a mark or without one, and with
blanks around them. -/
def SpellsId (s : String) (mark : HexMark) (values : List Nat) : Prop :=
  ∃ before digits after, s.toList = before ++ (mark.chars ++ digits) ++ after ∧
    (∀ c ∈ before, isBlank c = true) ∧ (∀ c ∈ after, isBlank c = true) ∧ HaveValues digits values

/-- Whether two texts are spellings of one id. -/
def SameId (s t : String) : Prop :=
  ∃ mark mark' values, SpellsId s mark values ∧ SpellsId t mark' values

/-- Whether a text spells an id with the mark `0X`. -/
def IsCapital (s : String) : Prop := ∃ values, SpellsId s .capital values

/-! ## The form that is compared -/

/-- Digits alone have no marks in front of them. -/
theorem dropHexMarks_of_haveValues {digits : List Char} {values : List Nat}
    (spelled : HaveValues digits values) : dropHexMarks digits = digits := by
  unfold dropHexMarks
  split
  · next rest =>
    have digit := spelled.isSome 'x' (by simp)
    exact absurd digit (by decide)
  · rfl

/-- A mark is taken away, unless it is written with a capital letter. -/
theorem dropHexMarks_chars (mark : HexMark) {digits : List Char} {values : List Nat}
    (spelled : HaveValues digits values) :
    (dropHexMarks (mark.chars ++ digits)).map Char.toLower =
      mark.kept ++ digits.map Char.toLower := by
  cases mark with
  | absent => exact congrArg _ (dropHexMarks_of_haveValues spelled)
  | small =>
    show (dropHexMarks digits).map Char.toLower = _
    rw [dropHexMarks_of_haveValues spelled]
    rfl
  | capital =>
    have stays : dropHexMarks ('0' :: 'X' :: digits) = '0' :: 'X' :: digits := by
      simp [dropHexMarks]
    show (dropHexMarks ('0' :: 'X' :: digits)).map Char.toLower = _
    rw [stays]
    rfl

/-- The form in which an id is compared: its digits in lower case, and the mark `0X`, if it is
there. -/
theorem SpellsId.plainId {s : String} {mark : HexMark} {values : List Nat}
    (spelled : SpellsId s mark values) :
    plainId s = mark.kept ++ values.map Nat.digitChar := by
  obtain ⟨before, digits, after, text, front, back, valued⟩ := spelled
  have unblank : ∀ c ∈ mark.chars ++ digits, isBlank c = false := by
    intro c there
    rcases List.mem_append.1 there with marks | digit
    · exact HexMark.not_isBlank c marks
    · exact PciAddress.not_isBlank_of_hexDigit? (valued.isSome c digit)
  rw [Provision.plainId, text, trimChars_surrounded front back, trimChars_of_forall unblank,
    dropHexMarks_chars mark valued, valued.map_toLower]

/-- Only one of the marks is read in a spelling, as far as it is compared. -/
theorem SpellsId.isCapital_iff {s : String} {mark : HexMark} {values : List Nat}
    (spelled : SpellsId s mark values) : IsCapital s ↔ mark = .capital := by
  constructor
  · rintro ⟨values', capital⟩
    by_contra other
    -- the letter of the mark is no digit
    have plain : mark.kept = [] := by cases mark <;> first | rfl | exact absurd rfl other
    have same := spelled.plainId.symm.trans capital.plainId
    rw [plain, List.nil_append] at same
    have letter : 'x' ∈ values.map Nat.digitChar := same ▸ by simp [HexMark.kept]
    obtain ⟨v, there, digit⟩ := List.mem_map.1 letter
    obtain ⟨-, digits, -, -, -, -, valued⟩ := spelled
    have none : ∀ v < 16, Nat.digitChar v ≠ 'x' := by decide
    exact none v (valued.lt v there) digit
  · rintro rfl
    exact ⟨values, spelled⟩

/-- Two spellings of an id are compared as equal exactly when both have the mark `0X` or neither
has. -/
theorem plainId_eq_iff {s t : String} (same : SameId s t) :
    plainId s = plainId t ↔ (IsCapital s ↔ IsCapital t) := by
  obtain ⟨mark, mark', values, first, second⟩ := same
  rw [first.plainId, second.plainId, List.append_left_inj, HexMark.kept_eq_iff,
    first.isCapital_iff, second.isCapital_iff]

/-! ## Filters and devices whose ids are respelled -/

variable {R : String → String → Prop}

/-- Whether a filter comes of another when some of its ids are replaced as `R` says. -/
structure DeviceFilter.Respelled (R : String → String → Prop) (f f' : DeviceFilter) : Prop where
  deviceClass : Option.Rel (Relation.ReflGen R) f.deviceClass f'.deviceClass
  vendor : Option.Rel (Relation.ReflGen R) f.vendor f'.vendor
  device : Option.Rel (Relation.ReflGen R) f.device f'.device

/-- Whether a device comes of another when some of its ids are replaced as `R` says. -/
structure Descriptor.Respelled (R : String → String → Prop) (d d' : Descriptor) : Prop where
  address : d.address = d'.address
  deviceClass : Relation.ReflGen R d.deviceClass d'.deviceClass
  vendor : Relation.ReflGen R d.vendor d'.vendor
  device : Relation.ReflGen R d.device d'.device
  driver : d.driver = d'.driver

/-- Whether replacing ids as `R` says, in a filter and in a device and in any of their places at
once, never changes whether the one matches the other. -/
def Harmless (R : String → String → Prop) : Prop :=
  ∀ f f' d d', DeviceFilter.Respelled R f f' → Descriptor.Respelled R d d' →
    f.matchesDevice d = f'.matchesDevice d'

/-- Where replaced ids are compared like those that they replace, criteria are met alike. -/
theorem all_eq_of_respelled (compared : ∀ s t, R s t → plainId s = plainId t)
    {p : List Char → Bool} {x y : Option String} (respelled : Option.Rel (Relation.ReflGen R) x y) :
    x.all (fun s => p (plainId s)) = y.all fun s => p (plainId s) := by
  cases respelled with
  | none => rfl
  | some related =>
    cases related with
    | refl => rfl
    | single related => simp [compared _ _ related]

theorem plainId_of_reflGen (compared : ∀ s t, R s t → plainId s = plainId t) {s t : String}
    (related : Relation.ReflGen R s t) : plainId s = plainId t := by
  cases related with
  | refl => rfl
  | single related => exact compared s t related

/-- Ids that are compared like those that they replace change no match. -/
theorem harmless_of_compared (compared : ∀ s t, R s t → plainId s = plainId t) : Harmless R := by
  intro f f' d d' filter device
  have criterion (p : List Char → Bool) {x y : Option String}
      (respelled : Option.Rel (Relation.ReflGen R) x y) :=
    all_eq_of_respelled compared (p := p) respelled
  unfold DeviceFilter.matchesDevice
  rw [plainId_of_reflGen compared device.deviceClass, plainId_of_reflGen compared device.vendor,
    plainId_of_reflGen compared device.device,
    criterion (·.isPrefixOf (plainId d'.deviceClass)) filter.deviceClass,
    criterion (plainId d'.vendor == ·) filter.vendor,
    criterion (plainId d'.device == ·) filter.device]

/-- Respelling ids, in filters and devices, in any of their places and independently of each other,
changes no match exactly when no id gains or loses the mark `0X` by it.  The case of the digits, the
mark `0x` and blanks never matter. -/
theorem DeviceFilter.harmless_iff (respells : ∀ s t, R s t → SameId s t) :
    Harmless R ↔ ∀ s t, R s t → (IsCapital s ↔ IsCapital t) := by
  constructor
  · intro harmless s t related
    rw [← plainId_eq_iff (respells s t related)]
    -- a filter for the vendor `s`, and a device of this vendor that is respelled
    have kept : ((true && plainId s == plainId s) && true) =
        ((true && plainId t == plainId s) && true) :=
      harmless { vendor := some s } { vendor := some s }
        ⟨default, "", s, "", none⟩ ⟨default, "", t, "", none⟩
        ⟨.none, .some .refl, .none⟩ ⟨rfl, .refl, .single related, .refl, rfl⟩
    rw [Bool.true_and, Bool.true_and, Bool.and_true, Bool.and_true, beq_self_eq_true] at kept
    exact (eq_of_beq kept.symm).symm
  · intro kept
    exact harmless_of_compared fun s t related =>
      (plainId_eq_iff (respells s t related)).2 (kept s t related)

/-- A vendor may be written with the mark `0x`, in capital letters and with a line end behind it. -/
theorem DeviceFilter.harmless_10de :
    SameId "10de" " 0x10DE\n" ∧ Harmless fun s t => s = "10de" ∧ t = " 0x10DE\n" := by
  have plain : SpellsId "10de" .absent [1, 0, 13, 14] :=
    ⟨[], ['1', '0', 'd', 'e'], [], by decide, by simp, by simp, by decide⟩
  have marked : SpellsId " 0x10DE\n" .small [1, 0, 13, 14] :=
    ⟨[' '], ['1', '0', 'D', 'E'], ['\n'], by decide, List.forall_mem_singleton.2 rfl,
      List.forall_mem_singleton.2 rfl, by decide⟩
  have same : SameId "10de" " 0x10DE\n" := ⟨_, _, _, plain, marked⟩
  refine ⟨same, (DeviceFilter.harmless_iff ?_).2 ?_⟩
  · rintro s t ⟨rfl, rfl⟩
    exact same
  · rintro s t ⟨rfl, rfl⟩
    rw [plain.isCapital_iff, marked.isCapital_iff]
    decide

/-- A filter for the vendor `8086` matches a controller of this vendor, and the same filter with the
vendor written `0X8086` does not. -/
theorem DeviceFilter.capital_mark_refused :
    SameId "8086" "0X8086" ∧
      DeviceFilter.Respelled SameId { vendor := some "8086" } { vendor := some "0X8086" } ∧
      ({ vendor := some "8086" } : DeviceFilter).matchesDevice
        ⟨Topology.dataNic, "0200", "8086", "100f", some "e1000"⟩ = true ∧
      ({ vendor := some "0X8086" } : DeviceFilter).matchesDevice
        ⟨Topology.dataNic, "0200", "8086", "100f", some "e1000"⟩ = false := by
  have same : SameId "8086" "0X8086" :=
    ⟨.absent, .capital, [8, 0, 8, 6],
      ⟨[], ['8', '0', '8', '6'], [], by decide, by simp, by simp, by decide⟩,
      ⟨[], ['8', '0', '8', '6'], [], by decide, by simp, by simp, by decide⟩⟩
  exact ⟨same, ⟨.none, .some (.single same), .none⟩, by decide, by decide⟩

end Provision
