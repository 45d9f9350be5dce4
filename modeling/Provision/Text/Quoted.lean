import Provision.Text.Visible
import Provision.Text.Numeral

/-!
# Quoted text

The quoted form of a text shows every character: what is invisible, and what
would merge with the character before it, is written as a number.  Reports of
differences between two hosts are written with it.

Main results:

- `Quoted.body_append`: the form is made character by character.
- `Quoted.body_of_plain`: plain characters stand for themselves.
-/

namespace Provision.Quoted

/-- A character as its number, in braces. -/
def numbered (c : Char) : List Char :=
  ['\\', 'u', '\x7b'] ++ Numeral.toHex 1 c.toNat ++ ['\x7d']

/-- A character in quoted form. -/
def char (c : Char) : List Char :=
  if c == '\x00' then ['\\', '0']
  else if c == '\t' then ['\\', 't']
  else if c == '\r' then ['\\', 'r']
  else if c == '\n' then ['\\', 'n']
  else if c == '\\' || c == '"' then ['\\', c]
  else if Text.isExtending c || !Text.isVisible c then numbered c
  else [c]

/-- The characters of a text in quoted form. -/
def body (cs : List Char) : List Char := cs.flatMap char

theorem body_append (a b : List Char) : body (a ++ b) = body a ++ body b :=
  List.flatMap_append ..

/-- Characters that need no escape stand for themselves. -/
theorem body_of_plain {cs : List Char} (h : ∀ c ∈ cs, char c = [c]) : body cs = cs := by
  induction cs with
  | nil => rfl
  | cons c cs ih =>
    have hc := h c (List.mem_cons_self ..)
    have hcs := ih fun d hd => h d (List.mem_cons_of_mem _ hd)
    simp only [body, List.flatMap_cons] at hcs ⊢
    rw [hc, hcs]
    rfl

/-- A text between quotation marks. -/
def text (s : String) : String :=
  String.ofList (['"'] ++ body s.toList ++ ['"'])

/-- A value that may be missing. -/
def option {α : Type} (render : α → String) : Option α → String
  | some a => "Some(" ++ render a ++ ")"
  | none => "None"

/-- A truth value. -/
def bool (b : Bool) : String := if b then "true" else "false"

/-- Items between braces, with commas. -/
def braces (items : List String) : String :=
  "\x7b" ++ String.intercalate ", " items ++ "\x7d"

end Provision.Quoted
