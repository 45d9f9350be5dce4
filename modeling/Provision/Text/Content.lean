/-!
# Bytes as text

Files and command outputs are bytes.  Most are UTF-8 text; the others are kept
as they are, and are read with the replacement character in place of what is
not text.

Main results:

- `Content.text?_ofBytes`: the content of a file is the text that its bytes spell.
- `Content.lossy_ofBytes`: bytes that are text are read as that text.
-/

namespace Provision

namespace Utf8

/-- The length of the sequence that a byte starts, or zero when it starts none. -/
def width (b : UInt8) : Nat :=
  if b < 0x80 then 1
  else if 0xc2 ≤ b && b ≤ 0xdf then 2
  else if 0xe0 ≤ b && b ≤ 0xef then 3
  else if 0xf0 ≤ b && b ≤ 0xf4 then 4
  else 0

/-- Whether a byte continues a sequence. -/
def continues (b : UInt8) : Bool := 0x80 ≤ b && b ≤ 0xbf

/-- Whether a byte can be the second one of a sequence: long forms, surrogates and what is past
the last code point are excluded here. -/
def second (first b : UInt8) : Bool :=
  if first == 0xe0 then 0xa0 ≤ b && b ≤ 0xbf
  else if first == 0xed then 0x80 ≤ b && b ≤ 0x9f
  else if first == 0xf0 then 0x90 ≤ b && b ≤ 0xbf
  else if first == 0xf4 then 0x80 ≤ b && b ≤ 0x8f
  else continues b

/-- The character that the bytes of one sequence spell. -/
def assemble (lead : Nat) (first : UInt8) (others : List UInt8) : Char :=
  Char.ofNat (others.foldl (fun n b => n * 64 + (b.toNat - 0x80)) (first.toNat - lead))

/-- The characters that bytes spell, with `none` for each longest sequence that starts like a
character and does not end like one. -/
def decode : List UInt8 → List (Option Char)
  | [] => []
  | b0 :: r0 =>
    if width b0 == 1 then some (assemble 0 b0 []) :: decode r0
    else if width b0 == 0 then none :: decode r0
    else match r0 with
      | [] => [none]
      | b1 :: r1 =>
        if !second b0 b1 then none :: decode (b1 :: r1)
        else if width b0 == 2 then some (assemble 0xc0 b0 [b1]) :: decode r1
        else match r1 with
          | [] => [none]
          | b2 :: r2 =>
            if !continues b2 then none :: decode (b2 :: r2)
            else if width b0 == 3 then some (assemble 0xe0 b0 [b1, b2]) :: decode r2
            else match r2 with
              | [] => [none]
              | b3 :: r3 =>
                if !continues b3 then none :: decode (b3 :: r3)
                else some (assemble 0xf0 b0 [b1, b2, b3]) :: decode r3

/-- The character that stands for what is not text. -/
def replacement : Char := '\uFFFD'

/-- The text that bytes spell, when they all are text. -/
def text? (bytes : List UInt8) : Option String :=
  ((decode bytes).mapM id).map String.ofList

/-- The text that bytes spell, with the replacement character for what is not text. -/
def lossy (bytes : List UInt8) : String :=
  String.ofList ((decode bytes).map (·.getD replacement))

/-- The items that are all there. -/
theorem eq_map_some_of_mapM {α : Type} {os : List (Option α)} {as : List α}
    (h : os.mapM id = some as) : os = as.map some := by
  induction os generalizing as with
  | nil =>
    rw [List.mapM_nil] at h
    cases h
    rfl
  | cons o os ih =>
    simp only [List.mapM_cons, Option.bind_eq_bind, Option.bind_eq_some_iff] at h
    obtain ⟨a, here, rest, there, same⟩ := h
    cases same
    rw [List.map_cons, ← ih there, ← show o = some a from here]

/-- No part of a text is replaced. -/
theorem lossy_of_text?_eq_some {bytes : List UInt8} {s : String} (h : text? bytes = some s) :
    lossy bytes = s := by
  obtain ⟨cs, spelled, rfl⟩ := Option.map_eq_some_iff.1 h
  rw [lossy, eq_map_some_of_mapM spelled, List.map_map]
  exact congrArg String.ofList (List.map_id cs)

end Utf8

/-- What a file holds or a command prints: text, or bytes that are not text. -/
inductive Content
  | text (s : String)
  | binary (bytes : List UInt8)
  deriving DecidableEq, Inhabited

namespace Content

/-- The content that bytes are. -/
def ofBytes (bytes : List UInt8) : Content :=
  match Utf8.text? bytes with
  | some s => .text s
  | none => .binary bytes

/-- The text, when the content is one. -/
def text? : Content → Option String
  | .text s => some s
  | .binary _ => none

/-- The text, with the replacement character for what is not text. -/
def lossy : Content → String
  | .text s => s
  | .binary bytes => Utf8.lossy bytes

@[simp]
theorem text?_text (s : String) : (Content.text s).text? = some s := rfl

@[simp]
theorem text?_binary (bytes : List UInt8) : (Content.binary bytes).text? = none := rfl

/-- The content of a file is the text that its bytes spell. -/
theorem text?_ofBytes (bytes : List UInt8) : (ofBytes bytes).text? = Utf8.text? bytes := by
  unfold ofBytes
  split
  · next s spelled => exact spelled.symm
  · next none => exact none.symm

/-- Bytes are read with the replacement character as their content is. -/
theorem lossy_ofBytes (bytes : List UInt8) : (ofBytes bytes).lossy = Utf8.lossy bytes := by
  unfold ofBytes
  split
  · next s spelled => exact (Utf8.lossy_of_text?_eq_some spelled).symm
  · rfl

end Content

end Provision
