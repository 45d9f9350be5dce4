/-!
# JSON values

The values that reports and the device record document are made of.  A number is
kept as its text, since every number written here is a natural number and every
number read here is skipped; an object keeps its fields as written, also when a
key stands twice.  What a reader has to skip because it is no text is kept as a
value without content.
-/

namespace Provision

/-- A JSON value. -/
inductive Json
  | null
  | bool (b : Bool)
  | number (digits : String)
  | string (s : String)
  | array (items : List Json)
  | object (fields : List (String × Json))
  /-- A value that was read and can only be skipped: a string, or an object with a key, that holds
  half of a surrogate pair. -/
  | unreadable
  deriving Inhabited

namespace Json

/-- A natural number. -/
def nat (n : Nat) : Json := .number (toString n)

/-- A value that may be missing. -/
def option {α : Type} (f : α → Json) : Option α → Json
  | some a => f a
  | none => .null

/-- A text that may be missing. -/
def optionString : Option String → Json := option .string

/-- The array of the values of a list. -/
def list {α : Type} (f : α → Json) (items : List α) : Json := .array (items.map f)

/-- Inserts a field before the first one with a greater key. -/
def insertField (field : String × Json) : List (String × Json) → List (String × Json)
  | [] => [field]
  | f :: fs => if field.1 ≤ f.1 then field :: f :: fs else f :: insertField field fs

mutual

/-- The value with the fields of every object in the order of their keys. -/
def sortKeys : Json → Json
  | .array items => .array (sortItems items)
  | .object fields => .object (sortFields fields)
  | value => value

/-- Several values, each with its fields in the order of their keys. -/
def sortItems : List Json → List Json
  | [] => []
  | item :: items => sortKeys item :: sortItems items

/-- Fields in the order of their keys. -/
def sortFields : List (String × Json) → List (String × Json)
  | [] => []
  | (key, value) :: fields => insertField (key, sortKeys value) (sortFields fields)

end

/-- The fields of an object. -/
def entries? : Json → Option (List (String × Json))
  | .object fields => some fields
  | _ => none

/-- The text of a string. -/
def string? : Json → Option String
  | .string s => some s
  | _ => none

end Json

end Provision
