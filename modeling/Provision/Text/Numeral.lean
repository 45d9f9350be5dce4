/-!
# Decimal numbers

Reading of unsigned decimal numbers with an upper limit, writing of hexadecimal
ones, and the range of floating-point numbers.  Counts, sizes and seconds are
below `Numeral.word`, node numbers below `Numeral.halfWord`.

Main results:

- `Numeral.read?_lt`: what is read is below the limit.
- `Numeral.isDouble_iff`: the numbers that are rounded to doubles are those below the limit.
-/

namespace Provision.Numeral

/-- The limit of counts, sizes and seconds. -/
def word : Nat := Nat.pow 2 64

/-- The limit of node numbers. -/
def halfWord : Nat := Nat.pow 2 32

/-- The value of a decimal digit. -/
def digit? (c : Char) : Option Nat :=
  if '0' ≤ c && c ≤ '9' then some (c.toNat - '0'.toNat) else none

/-- The value of a hexadecimal digit in either case. -/
def hexDigit? (c : Char) : Option Nat :=
  if '0' ≤ c && c ≤ '9' then some (c.toNat - '0'.toNat)
  else if 'a' ≤ c && c ≤ 'f' then some (c.toNat - 'a'.toNat + 10)
  else if 'A' ≤ c && c ≤ 'F' then some (c.toNat - 'A'.toNat + 10)
  else none

/-- The number that digits of a base spell, most significant first, added to what was read. -/
def digits? (value? : Char → Option Nat) (base : Nat) : Nat → List Char → Option Nat
  | acc, [] => some acc
  | acc, c :: cs =>
    match value? c with
    | some d => digits? value? base (acc * base + d) cs
    | none => none

/-- The characters without a plus sign in front. -/
def dropPlus : List Char → List Char
  | '+' :: cs => cs
  | cs => cs

/-- Reads a decimal number: an optional plus sign, then one or more digits.  A number that is
not below `limit` is refused. -/
def read? (limit : Nat) (cs : List Char) : Option Nat :=
  match dropPlus cs with
  | [] => none
  | body => (digits? digit? 10 0 body).filter (· < limit)

/-- What is read is below the limit. -/
theorem read?_lt {limit n : Nat} {cs : List Char} (h : read? limit cs = some n) : n < limit := by
  unfold read? at h
  split at h
  · contradiction
  · obtain ⟨_, hlt⟩ := Option.filter_eq_some_iff.1 h
    simpa using hlt

/-- A number in hexadecimal digits, at least `width` of them. -/
def toHex (width n : Nat) : List Char :=
  let ds := (Nat.toDigits 16 n)
  List.replicate (width - ds.length) '0' ++ ds

/-! ## Floating-point numbers -/

/-- The least number that is rounded to a power of two beyond all doubles: the middle between the
largest double, which has an odd last digit, and that power. -/
def doubleLimit : Nat := Nat.pow 2 1024 - Nat.pow 2 970

/-- Whether the decimal number `digits · 10 ^ exponent` is rounded to a double.  Numbers with fewer
than 309 digits before the point are, and those with more are not. -/
def isDouble (digits : Nat) (exponent : Int) : Bool :=
  let places := (Nat.toDigits 10 digits).length + exponent
  if digits = 0 || places < 309 then true
  else if 309 < places then false
  else digits * Nat.pow 10 exponent.toNat < doubleLimit * Nat.pow 10 (-exponent).toNat

/-- The limit has 309 places. -/
theorem doubleLimit_places : Nat.pow 10 308 ≤ doubleLimit ∧ doubleLimit < Nat.pow 10 309 := by
  decide +kernel

/-- The powers of ten around a number, as its number of digits gives them. -/
theorem pow_length_toDigits {n : Nat} (h : 0 < n) :
    Nat.pow 10 ((Nat.toDigits 10 n).length - 1) ≤ n ∧
      n < Nat.pow 10 (Nat.toDigits 10 n).length := by
  have nonempty : 0 < (Nat.toDigits 10 n).length := Nat.length_toDigits_pos
  refine ⟨?_, (Nat.length_toDigits_le_iff (by decide) nonempty).1 (Nat.le_refl _)⟩
  rcases Nat.eq_zero_or_pos ((Nat.toDigits 10 n).length - 1) with one | more
  · rwa [one]
  · apply Nat.le_of_not_lt
    intro less
    have := (Nat.length_toDigits_le_iff (by decide) more).2 less
    omega

/-- Of two decimal numbers, one with fewer places before the point is less. -/
theorem mul_pow_lt_mul_pow {m n j k p q : Nat} (most : m < Nat.pow 10 j)
    (least : Nat.pow 10 k ≤ n) (places : j + p ≤ k + q) :
    m * Nat.pow 10 p < n * Nat.pow 10 q :=
  calc m * Nat.pow 10 p < Nat.pow 10 j * Nat.pow 10 p :=
      Nat.mul_lt_mul_of_pos_right most (Nat.pow_pos (by decide))
    _ = Nat.pow 10 (j + p) := (Nat.pow_add 10 j p).symm
    _ ≤ Nat.pow 10 (k + q) := Nat.pow_le_pow_right (by decide) places
    _ = Nat.pow 10 k * Nat.pow 10 q := Nat.pow_add 10 k q
    _ ≤ n * Nat.pow 10 q := Nat.mul_le_mul_right _ least

/-- A number is a double exactly when it is below the limit; mostly its places tell. -/
theorem isDouble_iff {digits : Nat} {exponent : Int} :
    isDouble digits exponent = true ↔
      digits * Nat.pow 10 exponent.toNat < doubleLimit * Nat.pow 10 (-exponent).toNat := by
  obtain ⟨below, above⟩ := doubleLimit_places
  rcases Nat.eq_zero_or_pos digits with rfl | positive
  · have : 0 < doubleLimit * Nat.pow 10 (-exponent).toNat :=
      Nat.mul_pos (by decide +kernel) (Nat.pow_pos (by decide))
    simpa [isDouble] using this
  obtain ⟨least, most⟩ := pow_length_toDigits positive
  have nonempty : 0 < (Nat.toDigits 10 digits).length := Nat.length_toDigits_pos
  unfold isDouble
  generalize (Nat.toDigits 10 digits).length = k at *
  have nonzero : digits ≠ 0 := by omega
  simp only [nonzero, decide_false, Bool.false_or, decide_eq_true_eq]
  split
  · exact iff_of_true rfl (mul_pow_lt_mul_pow most below (by omega))
  · split
    · refine iff_of_false Bool.false_ne_true (Nat.not_lt.2 (Nat.le_of_lt ?_))
      exact mul_pow_lt_mul_pow above least (by omega)
    · exact decide_eq_true_iff

end Provision.Numeral
