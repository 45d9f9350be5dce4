import Provision.Json.Basic
import Provision.Text.Numeral

/-!
# Reading JSON

A reader of whole JSON documents.  It refuses what the JSON grammar refuses:
control characters inside strings, escapes that are none, numbers with
superfluous zeros, and anything but blanks after the value.  The grammar admits
escapes that name half of a surrogate pair; a string with one of them is no text.
-/

namespace Provision.Json

/-- Whether a character may stand between the parts of a document. -/
def isGap (c : Char) : Bool := c == ' ' || c == '\t' || c == '\n' || c == '\r'

/-- The text without the gap at its beginning. -/
def skipGap (cs : List Char) : List Char := cs.dropWhile isGap

/-! ## Strings -/

/-- The code unit that four hexadecimal digits spell, and the rest. -/
def unit? : List Char → Option (Nat × List Char)
  | a :: b :: c :: d :: rest =>
    (Numeral.digits? Numeral.hexDigit? 16 0 [a, b, c, d]).map (·, rest)
  | _ => none

/-- The code unit of an escape that follows at once, and the rest. -/
def nextUnit? : List Char → Option (Nat × List Char)
  | '\\' :: 'u' :: rest => unit? rest
  | _ => none

/-- Whether a code unit is the first half of a surrogate pair. -/
def isFirstHalf (n : Nat) : Bool := 0xd800 ≤ n && n < 0xdc00

/-- Whether a code unit is the second half of a surrogate pair. -/
def isSecondHalf (n : Nat) : Bool := 0xdc00 ≤ n && n < 0xe000

/-- The character of a surrogate pair. -/
def pairedChar (first second : Nat) : Char :=
  Char.ofNat (0x10000 + (first - 0xd800) * 0x400 + (second - 0xdc00))

/-- The character that a `\u` escape spells, if it is not half of a pair, and the rest. -/
def unicode? (cs : List Char) : Option (Option Char × List Char) := do
  let (n, rest) ← unit? cs
  if isSecondHalf n then some (none, rest)
  else if isFirstHalf n then
    match nextUnit? rest with
    | some (m, after) =>
      if isSecondHalf m then some (some (pairedChar n m), after) else some (none, rest)
    | none => some (none, rest)
  else some (some (Char.ofNat n), rest)

/-- The character that an escape spells, after its backslash, if it is not half of a pair. -/
def escaped? : List Char → Option (Option Char × List Char)
  | '"' :: rest => some (some '"', rest)
  | '\\' :: rest => some (some '\\', rest)
  | '/' :: rest => some (some '/', rest)
  | 'b' :: rest => some (some '\x08', rest)
  | 'f' :: rest => some (some '\x0c', rest)
  | 'n' :: rest => some (some '\n', rest)
  | 'r' :: rest => some (some '\r', rest)
  | 't' :: rest => some (some '\t', rest)
  | 'u' :: rest => unicode? rest
  | _ => none

/-- A character in front of a text, if both are there. -/
def before (c : Option Char) (text : Option (List Char)) : Option (List Char) :=
  c.bind fun c => text.map (c :: ·)

/-- The text of a string up to its closing quotation mark, if the string is one, and the rest. -/
def stringBody? : Nat → List Char → Option (Option (List Char) × List Char)
  | 0, _ => none
  | _, [] => none
  | _ + 1, '"' :: rest => some (some [], rest)
  | fuel + 1, '\\' :: rest => do
    let (c, rest) ← escaped? rest
    let (text, rest) ← stringBody? fuel rest
    some (before c text, rest)
  | fuel + 1, c :: rest =>
    if c.toNat < 0x20 then none
    else do
      let (text, rest) ← stringBody? fuel rest
      some (before (some c) text, rest)

/-- The value of a string. -/
def ofText : Option (List Char) → Json
  | some text => .string (String.ofList text)
  | none => .unreadable

/-- A text is read as a string. -/
@[simp]
theorem ofText_some (text : List Char) : ofText (some text) = .string (String.ofList text) := rfl

/-- The value of an object, whose keys have to be texts. -/
def ofFields (fields : List (Option (List Char) × Json)) : Json :=
  match fields.mapM fun (key, value) => key.map fun key => (String.ofList key, value) with
  | some fields => .object fields
  | none => .unreadable

/-! ## Numbers -/

/-- One or more digits, and the rest. -/
def digitRun? (cs : List Char) : Option (List Char × List Char) :=
  let ds := cs.takeWhile Char.isDigit
  if ds.isEmpty then none else some (ds, cs.dropWhile Char.isDigit)

/-- The whole part of a number: a zero alone, or digits that do not start with zero. -/
def wholePart? : List Char → Option (List Char × List Char)
  | '0' :: rest => some (['0'], rest)
  | cs => digitRun? cs

/-- The fraction of a number, when there is one. -/
def fraction? : List Char → Option (List Char × List Char)
  | '.' :: rest => (digitRun? rest).map fun (ds, rest) => ('.' :: ds, rest)
  | cs => some ([], cs)

/-- The sign of an exponent, when there is one. -/
def exponentSign : List Char → List Char × List Char
  | '+' :: rest => (['+'], rest)
  | '-' :: rest => (['-'], rest)
  | cs => ([], cs)

/-- The exponent of a number, when there is one. -/
def exponent? : List Char → Option (List Char × List Char)
  | c :: rest =>
    if c == 'e' || c == 'E' then
      let (sign, rest) := exponentSign rest
      (digitRun? rest).map fun (ds, rest) => (c :: sign ++ ds, rest)
    else some ([], c :: rest)
  | [] => some ([], [])

/-- A number without its sign, as its text, and the rest. -/
def unsigned? (cs : List Char) : Option (List Char × List Char) := do
  let (whole, cs) ← wholePart? cs
  let (fraction, cs) ← fraction? cs
  let (exponent, cs) ← exponent? cs
  some (whole ++ fraction ++ exponent, cs)

/-- A number, as its text, and the rest. -/
def number? : List Char → Option (List Char × List Char)
  | '-' :: cs => (unsigned? cs).map fun (text, rest) => ('-' :: text, rest)
  | cs => unsigned? cs

/-! ## Values -/

/-- The text after a word, when it stands at the beginning. -/
def afterWord? (word : String) (cs : List Char) : Option (List Char) :=
  if word.toList.isPrefixOf cs then some (cs.drop word.length) else none

mutual

/-- A value and the rest of the text. -/
def value? : Nat → List Char → Option (Json × List Char)
  | 0, _ => none
  | fuel + 1, cs =>
    match skipGap cs with
    | '"' :: rest => do
      let (text, rest) ← stringBody? fuel rest
      some (ofText text, rest)
    | '[' :: rest =>
      match skipGap rest with
      | ']' :: rest => some (.array [], rest)
      | rest => do
        let (item, rest) ← value? fuel rest
        let (items, rest) ← items? fuel rest
        some (.array (item :: items), rest)
    | '\x7b' :: rest =>
      match skipGap rest with
      | '\x7d' :: rest => some (.object [], rest)
      | rest => do
        let (first, rest) ← field? fuel rest
        let (fields, rest) ← fields? fuel rest
        some (ofFields (first :: fields), rest)
    | 'n' :: rest => (afterWord? "ull" rest).map (Json.null, ·)
    | 't' :: rest => (afterWord? "rue" rest).map (Json.bool true, ·)
    | 'f' :: rest => (afterWord? "alse" rest).map (Json.bool false, ·)
    | rest => do
      let (digits, rest) ← number? rest
      some (.number (String.ofList digits), rest)

/-- The items of an array after the first, up to its closing bracket. -/
def items? : Nat → List Char → Option (List Json × List Char)
  | 0, _ => none
  | fuel + 1, cs =>
    match skipGap cs with
    | ']' :: rest => some ([], rest)
    | ',' :: rest => do
      let (item, rest) ← value? fuel rest
      let (items, rest) ← items? fuel rest
      some (item :: items, rest)
    | _ => none

/-- A field of an object: a string, a colon and a value. -/
def field? : Nat → List Char → Option ((Option (List Char) × Json) × List Char)
  | 0, _ => none
  | fuel + 1, cs =>
    match skipGap cs with
    | '"' :: rest => do
      let (key, rest) ← stringBody? fuel rest
      match skipGap rest with
      | ':' :: rest => do
        let (value, rest) ← value? fuel rest
        some ((key, value), rest)
      | _ => none
    | _ => none

/-- The fields of an object after the first, up to its closing brace. -/
def fields? : Nat → List Char → Option (List (Option (List Char) × Json) × List Char)
  | 0, _ => none
  | fuel + 1, cs =>
    match skipGap cs with
    | '\x7d' :: rest => some ([], rest)
    | ',' :: rest => do
      let (first, rest) ← field? fuel rest
      let (fields, rest) ← fields? fuel rest
      some (first :: fields, rest)
    | _ => none

end

/-- Reads a document: one value with gaps around it. -/
def parse? (s : String) : Option Json := do
  let (value, rest) ← value? (2 * s.length + 2) s.toList
  if (skipGap rest).isEmpty then some value else none

end Provision.Json
