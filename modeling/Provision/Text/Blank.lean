/-!
# Blanks, trimming and splitting

Texts are taken apart as lists of characters: at blanks, at line ends and at
single characters.  A blank is a character with the Unicode property
`White_Space`, which is more than the ASCII blanks.

Main results:

- `Text.not_isBlank_of_mem_words`: a word holds no blank.
- `Text.splitAll_append`: splitting at a character, across that character.
-/

namespace Provision.Text

/-! ## Blanks -/

/-- Whether a character has the Unicode property `White_Space`. -/
def isBlank (c : Char) : Bool :=
  let n := c.toNat
  (9 ≤ n && n ≤ 13) || n == 0x20 || n == 0x85 || n == 0xa0 || n == 0x1680 ||
    (0x2000 ≤ n && n ≤ 0x200a) || n == 0x2028 || n == 0x2029 || n == 0x202f ||
    n == 0x205f || n == 0x3000

/-- The characters without the blanks at both ends. -/
def trimChars (cs : List Char) : List Char :=
  ((cs.dropWhile isBlank).reverse.dropWhile isBlank).reverse

/-- The text without the blanks at both ends. -/
def trim (s : String) : String := String.ofList (trimChars s.toList)

/-! ## Splitting -/

/-- Puts a character in front of the first of several pieces. -/
def consHead (c : Char) : List (List Char) → List (List Char)
  | [] => [[c]]
  | piece :: pieces => (c :: piece) :: pieces

/-- The pieces between the characters that satisfy `p`; there is always at least one. -/
def splitAll (p : Char → Bool) : List Char → List (List Char)
  | [] => [[]]
  | c :: cs => if p c then [] :: splitAll p cs else consHead c (splitAll p cs)

theorem splitAll_ne_nil (p : Char → Bool) (cs : List Char) : splitAll p cs ≠ [] := by
  cases cs with
  | nil => simp [splitAll]
  | cons c cs =>
    unfold splitAll
    split
    · simp
    · cases splitAll p cs <;> simp [consHead]

/-- No piece holds a character at which the text is split. -/
theorem not_of_mem_splitAll {p : Char → Bool} {cs piece : List Char}
    (h : piece ∈ splitAll p cs) : ∀ c ∈ piece, p c = false := by
  induction cs generalizing piece with
  | nil => simp_all [splitAll]
  | cons c cs ih =>
    unfold splitAll at h
    split at h
    · rcases List.mem_cons.1 h with rfl | h
      · simp
      · exact ih h
    · next hc =>
      cases hs : splitAll p cs with
      | nil => exact absurd hs (splitAll_ne_nil p cs)
      | cons first others =>
        rw [hs, consHead] at h
        rcases List.mem_cons.1 h with rfl | h
        · intro d hd
          rcases List.mem_cons.1 hd with rfl | hd
          · simpa using hc
          · exact ih (hs ▸ List.mem_cons_self ..) d hd
        · exact ih (hs ▸ List.mem_cons_of_mem _ h)

/-- A text split at a character that satisfies `p`: the pieces before it and those after it. -/
theorem splitAll_append {p : Char → Bool} {c : Char} (hc : p c = true) (a b : List Char) :
    splitAll p (a ++ c :: b) = splitAll p a ++ splitAll p b := by
  induction a with
  | nil => simp [splitAll, hc]
  | cons d a ih =>
    simp only [List.cons_append, splitAll]
    split
    · simp [ih]
    · rw [ih]
      cases hs : splitAll p a with
      | nil => exact absurd hs (splitAll_ne_nil p a)
      | cons first others => simp [consHead]

/-- The words of a text: its longest runs without a blank. -/
def words (cs : List Char) : List (List Char) :=
  (splitAll isBlank cs).filter (!·.isEmpty)

/-- A word holds no blank. -/
theorem not_isBlank_of_mem_words {cs word : List Char} (h : word ∈ words cs) :
    ∀ c ∈ word, isBlank c = false :=
  not_of_mem_splitAll (List.mem_filter.1 h).1

/-- A line without the carriage return at its end. -/
def dropReturn (line : List Char) : List Char :=
  if line.getLast? = some '\r' then line.dropLast else line

/-- The lines of a text.  A line ends with a line feed or with a carriage return and a line
feed; the last line may lack its end, and a carriage return alone ends no line. -/
def lines (cs : List Char) : List (List Char) :=
  let pieces := splitAll (· == '\n') cs
  pieces.dropLast.map dropReturn ++ (pieces.getLast?.toList.filter (!·.isEmpty))

/-- The pieces between pairs of line feeds, taken from the left. -/
def paragraphs : List Char → List (List Char)
  | [] => [[]]
  | '\n' :: '\n' :: cs => [] :: paragraphs cs
  | c :: cs => consHead c (paragraphs cs)

/-- What stands before the first `c`, and what stands after it. -/
def splitFirst (c : Char) (cs : List Char) : Option (List Char × List Char) :=
  match cs.dropWhile (· != c) with
  | [] => none
  | _ :: after => some (cs.takeWhile (· != c), after)

end Provision.Text
