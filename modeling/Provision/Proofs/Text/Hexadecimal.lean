import Mathlib.Data.Nat.Digits.Lemmas
import Provision.Proofs.Records.ReadBack

/-!
# Hexadecimal digits

A hexadecimal digit may be written in either case.  In lower case there is one way to
write a digit, and digits of one length stand in the order of the numbers that they
spell.

Main results:

- `Numeral.digits?_eq_some_iff`: the number that is read is the number that is spelled.
- `Numeral.HaveValues.map_toLower`: digits in lower case are decided by their values.
- `Numeral.Spells.toHex_eq`: a number is written with the digits that spell it.
- `Numeral.toHex_lt_iff`, `Numeral.toHex_inj`: numbers of one width are written in their order.
-/

namespace Provision.Numeral

/-! ## Single digits -/

/-- What holds of the hexadecimal digits in the lower half of ASCII holds of all of them. -/
theorem of_hexDigit? {P : Char → Nat → Prop}
    (ascii : ∀ n < 103, ∀ v, hexDigit? (Char.ofNat n) = some v → P (Char.ofNat n) v) {c : Char}
    {v : Nat} (digit : hexDigit? c = some v) : P c v := by
  have range := toNat_of_hexDigit? (Option.isSome_of_eq_some digit)
  rw [← Char.ofNat_toNat c] at digit ⊢
  exact ascii c.toNat (by omega) v digit

/-- A digit is below sixteen. -/
theorem lt_of_hexDigit? {c : Char} {v : Nat} (digit : hexDigit? c = some v) : v < 16 :=
  of_hexDigit? (P := fun _ v => v < 16) (by decide) digit

/-- A digit in lower case. -/
theorem toLower_of_hexDigit? {c : Char} {v : Nat} (digit : hexDigit? c = some v) :
    c.toLower = Nat.digitChar v :=
  of_hexDigit? (P := fun c v => c.toLower = Nat.digitChar v) (by decide) digit

/-- Digits in lower case stand in the order of their values. -/
theorem digitChar_lt_iff :
    ∀ v < 16, ∀ w < 16, (Nat.digitChar v < Nat.digitChar w ↔ v < w) := by decide

/-- Digits in lower case are told apart by their values. -/
theorem digitChar_inj :
    ∀ v < 16, ∀ w < 16, (Nat.digitChar v = Nat.digitChar w ↔ v = w) := by decide

/-! ## Values of digits -/

/-- The values of digits, the most significant first. -/
def HaveValues (cs : List Char) (values : List Nat) : Prop :=
  cs.map hexDigit? = values.map some

instance (cs : List Char) (values : List Nat) : Decidable (HaveValues cs values) :=
  inferInstanceAs (Decidable (cs.map hexDigit? = values.map some))

/-- The number that digits with these values spell. -/
def ofValues (values : List Nat) : Nat := Nat.ofDigits 16 values.reverse

/-- Whether digits spell a number, in either case. -/
def Spells (cs : List Char) (n : Nat) : Prop := ∃ values, HaveValues cs values ∧ n = ofValues values

/-- The first digit counts as often as the others can be told apart. -/
theorem ofValues_cons (v : Nat) (values : List Nat) :
    ofValues (v :: values) = v * 16 ^ values.length + ofValues values := by
  rw [ofValues, List.reverse_cons, Nat.ofDigits_append, Nat.ofDigits_singleton,
    List.length_reverse, ofValues, Nat.add_comm, Nat.mul_comm]

namespace HaveValues

variable {cs : List Char} {values : List Nat}

theorem length_eq (spelled : HaveValues cs values) : values.length = cs.length := by
  simpa using (congrArg List.length spelled).symm

theorem cons_iff {c : Char} :
    HaveValues (c :: cs) values ↔
      ∃ v rest, values = v :: rest ∧ hexDigit? c = some v ∧ HaveValues cs rest := by
  cases values with
  | nil => simp [HaveValues]
  | cons v rest => simp [HaveValues, eq_comm]

/-- The values of digits are below sixteen. -/
theorem lt (spelled : HaveValues cs values) : ∀ v ∈ values, v < 16 := by
  intro v there
  have digit : some v ∈ cs.map hexDigit? := spelled ▸ List.mem_map_of_mem there
  obtain ⟨c, -, digit⟩ := List.mem_map.1 digit
  exact lt_of_hexDigit? digit

/-- What has values is made of digits. -/
theorem isSome (spelled : HaveValues cs values) : ∀ c ∈ cs, (hexDigit? c).isSome := by
  intro c there
  have digit : hexDigit? c ∈ values.map some := spelled ▸ List.mem_map_of_mem there
  obtain ⟨v, -, digit⟩ := List.mem_map.1 digit
  rw [← digit]
  rfl

/-- Digits in lower case are decided by their values. -/
theorem map_toLower (spelled : HaveValues cs values) :
    cs.map Char.toLower = values.map Nat.digitChar := by
  induction cs generalizing values with
  | nil =>
    obtain rfl : values = [] := List.map_eq_nil_iff.1 spelled.symm
    rfl
  | cons c cs ih =>
    obtain ⟨v, rest, rfl, digit, others⟩ := cons_iff.1 spelled
    rw [List.map_cons, List.map_cons, toLower_of_hexDigit? digit, ih others]

end HaveValues

/-- Digits have values. -/
theorem exists_haveValues {cs : List Char} (digits : ∀ c ∈ cs, (hexDigit? c).isSome) :
    ∃ values, HaveValues cs values := by
  induction cs with
  | nil => exact ⟨[], rfl⟩
  | cons c cs ih =>
    obtain ⟨digit, others⟩ := List.forall_mem_cons.1 digits
    obtain ⟨v, value⟩ := Option.isSome_iff_exists.1 digit
    obtain ⟨values, spelled⟩ := ih others
    exact ⟨v :: values, HaveValues.cons_iff.2 ⟨v, values, rfl, value, spelled⟩⟩

/-- Digits with values are read as their number, behind what was read before. -/
theorem HaveValues.digits?_eq {cs : List Char} {values : List Nat} (spelled : HaveValues cs values)
    (acc : Nat) :
    digits? hexDigit? 16 acc cs = some (acc * 16 ^ cs.length + ofValues values) := by
  induction cs generalizing values acc with
  | nil =>
    obtain rfl : values = [] := List.map_eq_nil_iff.1 spelled.symm
    simp [digits?, ofValues]
  | cons c cs ih =>
    obtain ⟨v, rest, rfl, digit, others⟩ := cons_iff.1 spelled
    rw [digits?, digit]
    show digits? hexDigit? 16 (acc * 16 + v) cs = _
    rw [ih others, ofValues_cons, others.length_eq, List.length_cons, pow_succ]
    congr 1
    ring

/-- The number that is read is the number that is spelled. -/
theorem digits?_eq_some_iff {cs : List Char} {n : Nat} :
    digits? hexDigit? 16 0 cs = some n ↔ Spells cs n := by
  constructor
  · intro read
    obtain ⟨values, spelled⟩ := exists_haveValues (isSome_of_mem_digits? read)
    rw [spelled.digits?_eq, Nat.zero_mul, Nat.zero_add] at read
    exact ⟨values, spelled, (Option.some.inj read).symm⟩
  · rintro ⟨values, spelled, rfl⟩
    rw [spelled.digits?_eq, Nat.zero_mul, Nat.zero_add]

/-! ## Order -/

/-- Digits spell a number that fits into their width. -/
theorem ofValues_lt {values : List Nat} (small : ∀ v ∈ values, v < 16) :
    ofValues values < 16 ^ values.length := by
  rw [← List.length_reverse]
  exact Nat.ofDigits_lt_base_pow_length (by decide)
    fun v there => small v (List.mem_reverse.1 there)

/-- Texts that begin with parts of one length are compared part by part. -/
theorem append_lt_append_iff {first first' : List Char} (same : first.length = first'.length)
    (rest rest' : List Char) :
    first ++ rest < first' ++ rest' ↔ first < first' ∨ first = first' ∧ rest < rest' := by
  induction first generalizing first' with
  | nil =>
    obtain rfl : first' = [] := List.length_eq_zero_iff.1 same.symm
    simp
  | cons c first ih =>
    cases first' with
    | nil => cases same
    | cons d first' =>
      simp only [List.cons_append, List.cons_lt_cons_iff, ih (Nat.succ.inj same), List.cons.injEq]
      tauto

/-- Digits of one length in lower case stand in the order of the numbers that they spell. -/
theorem map_digitChar_lt_iff {values values' : List Nat} (same : values.length = values'.length)
    (small : ∀ v ∈ values, v < 16) (small' : ∀ v ∈ values', v < 16) :
    values.map Nat.digitChar < values'.map Nat.digitChar ↔ ofValues values < ofValues values' := by
  induction values generalizing values' with
  | nil =>
    obtain rfl : values' = [] := List.length_eq_zero_iff.1 same.symm
    simp
  | cons v values ih =>
    cases values' with
    | nil => cases same
    | cons w values' =>
      have same : values.length = values'.length := Nat.succ.inj same
      obtain ⟨first, others⟩ := List.forall_mem_cons.1 small
      obtain ⟨first', others'⟩ := List.forall_mem_cons.1 small'
      have below := ofValues_lt others
      have below' := ofValues_lt others'
      rw [List.map_cons, List.map_cons, List.cons_lt_cons_iff, ih same others others',
        digitChar_lt_iff v first w first', digitChar_inj v first w first', ofValues_cons,
        ofValues_cons, same]
      rw [same] at below
      -- one digit more counts more than all that can follow
      rcases Nat.lt_trichotomy v w with less | rfl | more
      · have step := Nat.mul_le_mul_right (16 ^ values'.length) (Nat.succ_le_of_lt less)
        rw [Nat.succ_mul] at step
        constructor
        · intro _
          omega
        · intro _
          exact .inl less
      · simp
      · have step := Nat.mul_le_mul_right (16 ^ values'.length) (Nat.succ_le_of_lt more)
        rw [Nat.succ_mul] at step
        constructor
        · rintro (less | ⟨rfl, -⟩) <;> omega
        · intro _
          omega

/-! ## Written numbers -/

/-- Numbers are written in lower case. -/
theorem toLower_of_mem_toDigits {n : Nat} {c : Char} (there : c ∈ Nat.toDigits 16 n) :
    c.toLower = c := by
  have lower : ∀ v < 16, (Nat.digitChar v).toLower = Nat.digitChar v := by decide
  induction n using Nat.strongRecOn with
  | _ n ih =>
    rw [Nat.toDigits_eq_if (by decide)] at there
    split at there
    · next small =>
      rw [List.mem_singleton.1 there]
      exact lower n small
    · rcases List.mem_append.1 there with front | last
      · exact ih (n / 16) (Nat.div_lt_self (by omega) (by decide)) front
      · rw [List.mem_singleton.1 last]
        exact lower _ (Nat.mod_lt n (by decide))

/-- Numbers of some width are written in lower case. -/
theorem toLower_of_mem_toHex {width n : Nat} {c : Char} (there : c ∈ toHex width n) :
    c.toLower = c := by
  rcases List.mem_append.1 there with zero | digit
  · rw [List.eq_of_mem_replicate zero]
    rfl
  · exact toLower_of_mem_toDigits digit

/-- A number is written with digits that spell it, in lower case. -/
theorem exists_toHex_eq (width n : Nat) :
    ∃ values, HaveValues (toHex width n) values ∧ n = ofValues values ∧
      toHex width n = values.map Nat.digitChar := by
  obtain ⟨values, spelled, number⟩ := digits?_eq_some_iff.1 (digits?_toHex width n)
  refine ⟨values, spelled, number, ?_⟩
  rw [← spelled.map_toLower, List.map_congr_left fun c => toLower_of_mem_toHex, List.map_id']

/-- Numbers that fit into a width are written in their order. -/
theorem toHex_lt_iff {width m n : Nat} (positive : 0 < width) (fits : m < 16 ^ width)
    (fits' : n < 16 ^ width) : toHex width m < toHex width n ↔ m < n := by
  obtain ⟨values, spelled, number, written⟩ := exists_toHex_eq width m
  obtain ⟨values', spelled', number', written'⟩ := exists_toHex_eq width n
  have same : values.length = values'.length := by
    rw [spelled.length_eq, spelled'.length_eq, length_toHex positive fits,
      length_toHex positive fits']
  rw [written, written', map_digitChar_lt_iff same spelled.lt spelled'.lt, ← number, ← number']

/-- Numbers are written differently. -/
theorem toHex_inj {width m n : Nat} : toHex width m = toHex width n ↔ m = n := by
  constructor
  · intro same
    have read := digits?_toHex width m
    rw [same, digits?_toHex] at read
    exact (Option.some.inj read).symm
  · rintro rfl
    rfl

/-- A number is written with the digits that spell it, in lower case. -/
theorem Spells.toHex_eq {cs : List Char} {n : Nat} (spelled : Spells cs n) (made : cs ≠ []) :
    toHex cs.length n = cs.map Char.toLower := by
  obtain ⟨values, valued, rfl⟩ := spelled
  obtain ⟨values', valued', number, written⟩ := exists_toHex_eq cs.length (ofValues values)
  have fits : ofValues values < 16 ^ cs.length := valued.length_eq ▸ ofValues_lt valued.lt
  have same : values'.reverse.length = values.reverse.length := by
    rw [List.length_reverse, List.length_reverse, valued'.length_eq, valued.length_eq,
      length_toHex (List.length_pos_of_ne_nil made) fits]
  have reversed : values'.reverse = values.reverse :=
    Nat.ofDigits_inj_of_len_eq (by decide) same
      (fun v there => valued'.lt v (List.mem_reverse.1 there))
      (fun v there => valued.lt v (List.mem_reverse.1 there)) number.symm
  rw [written, valued.map_toLower, List.reverse_injective reversed]

end Provision.Numeral
