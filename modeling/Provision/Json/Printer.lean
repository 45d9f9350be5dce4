import Provision.Json.Basic
import Provision.Text.Numeral

/-!
# Writing JSON

The written form puts every item and every field on a line of its own, indented
by two spaces per level; an empty array or object stays on one line.  A value
that could only be skipped has no written form of its own and is written as null.

Main results:

- `Json.escape_cons`: a string is escaped character by character.
-/

namespace Provision.Json

/-- A character inside a written string. -/
def escapeChar (c : Char) : List Char :=
  if c == '"' || c == '\\' then ['\\', c]
  else if c == '\x08' then ['\\', 'b']
  else if c == '\x0c' then ['\\', 'f']
  else if c == '\n' then ['\\', 'n']
  else if c == '\r' then ['\\', 'r']
  else if c == '\t' then ['\\', 't']
  else if c.toNat < 0x20 then ['\\', 'u'] ++ Numeral.toHex 4 c.toNat
  else [c]

/-- The characters of a written string, without its quotation marks. -/
def escape (cs : List Char) : List Char := cs.flatMap escapeChar

@[simp]
theorem escape_nil : escape [] = [] := rfl

@[simp]
theorem escape_cons (c : Char) (cs : List Char) : escape (c :: cs) = escapeChar c ++ escape cs :=
  rfl

/-- A written string. -/
def quote (s : String) : List Char := '"' :: (escape s.toList ++ ['"'])

/-- A line end and the blanks before what follows on the next line. -/
def newline (level : Nat) : List Char := '\n' :: List.replicate (2 * level) ' '

mutual

/-- The characters of a value whose lines after the first are indented by `level` steps. -/
def write (level : Nat) : Json → List Char
  | .null | .unreadable => "null".toList
  | .bool b => if b then "true".toList else "false".toList
  | .number digits => digits.toList
  | .string s => quote s
  | .array [] => ['[', ']']
  | .array (item :: items) =>
    '[' :: newline (level + 1) ++ write (level + 1) item ++ writeItems (level + 1) items ++
      newline level ++ [']']
  | .object [] => ['\x7b', '\x7d']
  | .object ((key, value) :: fields) =>
    '\x7b' :: newline (level + 1) ++ quote key ++ [':', ' '] ++ write (level + 1) value ++
      writeFields (level + 1) fields ++ newline level ++ ['\x7d']

/-- The items of an array after the first. -/
def writeItems (level : Nat) : List Json → List Char
  | [] => []
  | item :: items => ',' :: newline level ++ write level item ++ writeItems level items

/-- The fields of an object after the first. -/
def writeFields (level : Nat) : List (String × Json) → List Char
  | [] => []
  | (key, value) :: fields =>
    ',' :: newline level ++ quote key ++ [':', ' '] ++ write level value ++
      writeFields level fields

end

/-- The written form of a value. -/
def print (value : Json) : String := String.ofList (write 0 value)

end Provision.Json
