import Mathlib.Data.List.Infix
import Mathlib.Data.List.TakeWhile
import Provision.Text.Blank

/-!
# Pieces, trimmed texts and words

What taking a text apart gives back of a text that was put together: the pieces between
separating characters, the text between the blanks at its ends, and the words between
its blanks.

Main results:

- `Text.splitAll_intercalate`: pieces are found again in the text that they make.
- `Text.trimChars_of_trimmed`: a text without blanks at its ends is left as it is.
- `Text.trimChars_surrounded`, `Text.exists_surrounding`: blanks around a text are trimmed,
  and nothing else.
- `Text.words_append_cons`, `Text.words_of_forall`: the words on both sides of a blank, and a
  single word.
-/

namespace Provision.Text

/-! ## Texts without a character -/

/-- No character of a text without `c` is `c`. -/
theorem beq_eq_false_of_notMem {c : Char} {cs : List Char} (absent : c ∉ cs) :
    ∀ d ∈ cs, (d == c) = false := fun _ there =>
  beq_false_of_ne fun same => absent (same ▸ there)

/-- Every character of a text without `c` is another one. -/
theorem bne_of_notMem {c : Char} {cs : List Char} (absent : c ∉ cs) :
    ∀ d ∈ cs, (d != c) = true := fun d there => by
  rw [bne, beq_eq_false_of_notMem absent d there]
  rfl

/-- A text without blanks has no end of a line in it. -/
theorem newline_notMem {cs : List Char} (unblank : ∀ c ∈ cs, isBlank c = false) : '\n' ∉ cs :=
  fun there => absurd (unblank '\n' there) (by decide)

/-! ## Pieces -/

/-- A text without the character at which it is split is one piece. -/
theorem splitAll_of_forall {p : Char → Bool} {cs : List Char} (h : ∀ c ∈ cs, p c = false) :
    splitAll p cs = [cs] := by
  induction cs with
  | nil => rfl
  | cons c cs ih =>
    have hc : p c = false := h c List.mem_cons_self
    simp [splitAll, hc, ih fun d hd => h d (List.mem_cons_of_mem _ hd), consHead]

/-- Pieces without the character that separates them are the pieces of the text that they make. -/
theorem splitAll_intercalate {sep : Char} {pieces : List (List Char)} (made : pieces ≠ [])
    (h : ∀ piece ∈ pieces, ∀ c ∈ piece, (c == sep) = false) :
    splitAll (· == sep) (List.intercalate [sep] pieces) = pieces := by
  induction pieces with
  | nil => exact absurd rfl made
  | cons piece rest ih =>
    have first := splitAll_of_forall (p := (· == sep)) (h piece List.mem_cons_self)
    cases rest with
    | nil => simpa using first
    | cons next rest =>
      have later := ih (List.cons_ne_nil _ _) fun q hq => h q (List.mem_cons_of_mem _ hq)
      rw [List.intercalate_cons_cons, List.append_assoc, List.singleton_append,
        splitAll_append (p := (· == sep)) (beq_self_eq_true sep), first, later,
        List.singleton_append]

/-- A text is its pieces with the separating character between them. -/
theorem intercalate_splitAll (sep : Char) (cs : List Char) :
    List.intercalate [sep] (splitAll (· == sep) cs) = cs := by
  induction cs with
  | nil => rfl
  | cons c cs ih =>
    unfold splitAll
    cases pieces : splitAll (· == sep) cs with
    | nil => exact absurd pieces (splitAll_ne_nil _ cs)
    | cons first rest =>
      rw [pieces] at ih
      split
      · next separates => simp [List.intercalate_cons_cons, ih, eq_of_beq separates]
      · cases rest with
        | nil => simpa [consHead] using ih
        | cons next rest => simpa [consHead, List.intercalate_cons_cons] using ih

/-- A character of a text that is made of pieces separates them or is in one of them. -/
theorem eq_or_mem_of_mem_intercalate {sep c : Char} {pieces : List (List Char)}
    (h : c ∈ List.intercalate [sep] pieces) : c = sep ∨ ∃ piece ∈ pieces, c ∈ piece := by
  induction pieces with
  | nil => cases h
  | cons piece rest ih =>
    cases rest with
    | nil => exact .inr ⟨piece, by simp, by simpa using h⟩
    | cons next rest =>
      rw [List.intercalate_cons_cons, List.append_assoc, List.singleton_append] at h
      rcases List.mem_append.1 h with inside | behind
      · exact .inr ⟨piece, List.mem_cons_self, inside⟩
      · rcases List.mem_cons.1 behind with separates | later
        · exact .inl separates
        · obtain separates | ⟨other, there, inside⟩ := ih later
          · exact .inl separates
          · exact .inr ⟨other, List.mem_cons_of_mem _ there, inside⟩

/-- A character of a piece is one of the text. -/
theorem mem_of_mem_splitAll {p : Char → Bool} {c : Char} {cs piece : List Char}
    (h : piece ∈ splitAll p cs) (inside : c ∈ piece) : c ∈ cs := by
  induction cs generalizing piece with
  | nil => simp_all [splitAll]
  | cons d cs ih =>
    unfold splitAll at h
    split at h
    · rcases List.mem_cons.1 h with rfl | later
      · cases inside
      · exact List.mem_cons_of_mem _ (ih later inside)
    · cases pieces : splitAll p cs with
      | nil => exact absurd pieces (splitAll_ne_nil p cs)
      | cons first rest =>
        rw [pieces] at h ih
        rcases List.mem_cons.1 h with rfl | later
        · rcases List.mem_cons.1 inside with rfl | inside
          · exact List.mem_cons_self
          · exact List.mem_cons_of_mem _ (ih List.mem_cons_self inside)
        · exact List.mem_cons_of_mem _ (ih (List.mem_cons_of_mem _ later) inside)

/-- No piece holds the character that separates the pieces. -/
theorem ne_of_mem_splitAll {sep : Char} {cs piece : List Char}
    (h : piece ∈ splitAll (· == sep) cs) : ∀ c ∈ piece, (c == sep) = false :=
  not_of_mem_splitAll h

/-- The first pieces make the beginning of a text. -/
theorem intercalate_front (sep : Char) (front back : List (List Char)) :
    List.intercalate [sep] front <+: List.intercalate [sep] (front ++ back) := by
  induction front with
  | nil => exact List.nil_prefix
  | cons piece front ih =>
    cases front with
    | nil =>
      cases back with
      | nil => exact List.prefix_rfl
      | cons next back =>
        rw [List.singleton_append, List.intercalate_cons_cons, List.append_assoc]
        simp
    | cons next front =>
      rw [List.cons_append, List.cons_append, List.intercalate_cons_cons,
        List.intercalate_cons_cons]
      exact (List.prefix_append_right_inj _).2 ih

/-- A character that does not separate goes to the last piece. -/
theorem splitAll_concat {p : Char → Bool} {c : Char} (hc : p c = false) (cs : List Char) :
    ∃ front last, splitAll p cs = front ++ [last] ∧
      splitAll p (cs ++ [c]) = front ++ [last ++ [c]] := by
  induction cs with
  | nil => exact ⟨[], [], rfl, by simp [splitAll, hc, consHead]⟩
  | cons d cs ih =>
    obtain ⟨front, last, whole, longer⟩ := ih
    rw [List.cons_append, splitAll, splitAll, whole, longer]
    split
    · exact ⟨[] :: front, last, rfl, rfl⟩
    · cases front with
      | nil => exact ⟨[], d :: last, rfl, rfl⟩
      | cons piece front => exact ⟨(d :: piece) :: front, last, rfl, rfl⟩

/-- A text is split where a character stands for the first time. -/
theorem splitFirst_append_cons {c : Char} {a : List Char} (absent : c ∉ a) (b : List Char) :
    splitFirst c (a ++ c :: b) = some (a, b) := by
  have passed := bne_of_notMem absent
  simp [splitFirst, List.dropWhile_append_of_pos passed, List.takeWhile_append_of_pos passed]

/-- A text without a character is not split there. -/
theorem splitFirst_of_notMem {c : Char} {cs : List Char} (absent : c ∉ cs) :
    splitFirst c cs = none := by
  have passed : (cs ++ []).dropWhile (· != c) = [] :=
    List.dropWhile_append_of_pos (bne_of_notMem absent)
  rw [List.append_nil] at passed
  simp [splitFirst, passed]

/-! ## Trimmed texts -/

/-- No blank stands at either end of a text. -/
structure Trimmed (cs : List Char) : Prop where
  front : ∀ c ∈ cs.head?, isBlank c = false
  back : ∀ c ∈ cs.getLast?, isBlank c = false

instance (cs : List Char) : Decidable (Trimmed cs) :=
  decidable_of_iff (cs.head?.toList.all (isBlank · == false) = true ∧
      cs.getLast?.toList.all (isBlank · == false) = true)
    ⟨fun h => ⟨by simpa using h.1, by simpa using h.2⟩,
      fun h => ⟨by simpa using h.front, by simpa using h.back⟩⟩

/-- A text that does not begin with a blank has none to be dropped there. -/
theorem dropWhile_isBlank {cs : List Char} (front : ∀ c ∈ cs.head?, isBlank c = false) :
    cs.dropWhile isBlank = cs := by
  cases cs with
  | nil => rfl
  | cons c cs => exact List.dropWhile_cons_of_neg (by simp [front c rfl])

/-- A text without blanks at its ends has none to be trimmed. -/
theorem trimChars_of_trimmed {cs : List Char} (h : Trimmed cs) : trimChars cs = cs := by
  have back : ∀ c ∈ cs.reverse.head?, isBlank c = false := by
    rw [List.head?_reverse]
    exact h.back
  rw [trimChars, dropWhile_isBlank h.front, dropWhile_isBlank back, List.reverse_reverse]

/-- A text without blanks has none to be trimmed. -/
theorem trimChars_of_forall {cs : List Char} (h : ∀ c ∈ cs, isBlank c = false) :
    trimChars cs = cs :=
  trimChars_of_trimmed ⟨fun c hc => h c (List.mem_of_head? hc),
    fun c hc => h c (List.mem_of_getLast? hc)⟩

/-- A blank in front of a text is trimmed. -/
theorem trimChars_cons {c : Char} (blank : isBlank c = true) (cs : List Char) :
    trimChars (c :: cs) = trimChars cs := by
  rw [trimChars, List.dropWhile_cons_of_pos blank, trimChars]

/-- A blank behind a text is trimmed. -/
theorem trimChars_append {c : Char} (blank : isBlank c = true) (cs : List Char) :
    trimChars (cs ++ [c]) = trimChars cs := by
  unfold trimChars
  rw [List.dropWhile_append]
  split
  · next nothing =>
    rw [List.isEmpty_iff.1 nothing, List.dropWhile_cons_of_pos blank]
    rfl
  · rw [List.reverse_append, List.reverse_singleton, List.singleton_append,
      List.dropWhile_cons_of_pos blank]

/-- Blanks around a text are trimmed. -/
theorem trimChars_surrounded {before after : List Char} (front : ∀ c ∈ before, isBlank c = true)
    (back : ∀ c ∈ after, isBlank c = true) (cs : List Char) :
    trimChars (before ++ cs ++ after) = trimChars cs := by
  induction before with
  | nil =>
    induction after using List.reverseRecOn with
    | nil => simp
    | append_singleton after c ih =>
      obtain ⟨blanks, blank⟩ := List.forall_mem_append.1 back
      rw [← List.append_assoc, trimChars_append (blank c (List.mem_singleton_self c))]
      exact ih blanks
  | cons c before ih =>
    obtain ⟨blank, blanks⟩ := List.forall_mem_cons.1 front
    rw [List.cons_append, List.cons_append, trimChars_cons blank]
    exact ih blanks

/-- What is trimmed from a text are blanks around the rest. -/
theorem exists_surrounding (cs : List Char) :
    ∃ before after, (∀ c ∈ before, isBlank c = true) ∧ (∀ c ∈ after, isBlank c = true) ∧
      cs = before ++ trimChars cs ++ after := by
  let rest := cs.dropWhile isBlank
  refine ⟨cs.takeWhile isBlank, (rest.reverse.takeWhile isBlank).reverse,
    fun c there => List.mem_takeWhile_imp there,
    fun c there => List.mem_takeWhile_imp (List.mem_reverse.1 there), ?_⟩
  rw [trimChars, List.append_assoc, ← List.reverse_append, List.takeWhile_append_dropWhile,
    List.reverse_reverse, List.takeWhile_append_dropWhile]

/-- What does not depend on a blank at either end of a text does not depend on trimming. -/
theorem apply_trimChars {α : Type} {f : List Char → α}
    (front : ∀ c cs, isBlank c = true → f (c :: cs) = f cs)
    (back : ∀ c cs, isBlank c = true → f (cs ++ [c]) = f cs) (cs : List Char) :
    f (trimChars cs) = f cs := by
  have dropped (g : List Char → α) (pass : ∀ c cs, isBlank c = true → g (c :: cs) = g cs)
      (cs : List Char) : g (cs.dropWhile isBlank) = g cs := by
    induction cs with
    | nil => rfl
    | cons c cs ih =>
      by_cases blank : isBlank c = true
      · rw [List.dropWhile_cons_of_pos blank, ih, pass c cs blank]
      · rw [List.dropWhile_cons_of_neg blank]
  have behind := dropped (fun cs => f cs.reverse) fun c cs blank => by
    rw [List.reverse_cons, back c _ blank]
  rw [trimChars, behind, List.reverse_reverse, dropped f front]

/-! ## Words -/

/-- A blank separates the words on its sides. -/
theorem words_append_cons {c : Char} (blank : isBlank c = true) (a b : List Char) :
    words (a ++ c :: b) = words a ++ words b := by
  unfold words
  rw [splitAll_append blank, List.filter_append]

/-- A text without blanks is a single word. -/
theorem words_of_forall {cs : List Char} (made : cs ≠ []) (h : ∀ c ∈ cs, isBlank c = false) :
    words cs = [cs] := by
  unfold words
  rw [splitAll_of_forall h]
  simp [made]

/-- A blank in front of a text belongs to no word. -/
theorem words_cons {c : Char} (blank : isBlank c = true) (cs : List Char) :
    words (c :: cs) = words cs := by
  simpa [words, splitAll] using words_append_cons blank [] cs

/-- A blank behind a text belongs to no word. -/
theorem words_append {c : Char} (blank : isBlank c = true) (cs : List Char) :
    words (cs ++ [c]) = words cs := by
  simpa [words, splitAll] using words_append_cons blank cs []

end Provision.Text
