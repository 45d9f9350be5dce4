import Provision.Toml.Lexical

/-!
# Reading TOML

A reader of whole TOML documents: lines that are blank, open a table, or give a
key a value.  Numbers are read whatever their size; whoever looks at one says
which are small enough.  Arrays and inline tables are nested to a limited depth.
-/

namespace Provision.Toml

/-- The depth that is left inside an array or a table. -/
def below? : Nat → Option Nat
  | 0 => none
  | depth + 1 => some depth

mutual

/-- A value and the rest of the text; `depth` is how deep arrays and tables may be nested in it. -/
def value? : Nat → Nat → List Char → Option (Toml × List Char)
  | 0, _, _ => none
  | fuel + 1, depth, cs =>
    match cs with
    | '"' :: '"' :: '"' :: rest => do
      let (s, rest) ← basicLines? fuel (dropLineEnd rest)
      some (.string (String.ofList s), rest)
    | '"' :: rest => do
      let (s, rest) ← basicString? fuel rest
      some (.string (String.ofList s), rest)
    | '\'' :: '\'' :: '\'' :: rest => do
      let (s, rest) ← literalLines? fuel (dropLineEnd rest)
      some (.string (String.ofList s), rest)
    | '\'' :: rest => do
      let (s, rest) ← literalString? rest
      some (.string (String.ofList s), rest)
    | '[' :: rest => do
      let depth ← below? depth
      let (items, rest) ← items? fuel depth rest
      some (.array items, rest)
    | '\x7b' :: rest => do
      let depth ← below? depth
      let (section?, rest) ← pairs? fuel depth ⟨false, false, []⟩ rest
      some (section?.toNode.toToml, rest)
    | _ => do
      let (word, rest) := bareWord cs
      let v ← bareValue? word
      some (v, rest)

/-- The items of an array up to its closing bracket. -/
def items? : Nat → Nat → List Char → Option (List Toml × List Char)
  | 0, _, _ => none
  | fuel + 1, depth, cs => do
    match ← skipLines? false cs with
    | ']' :: rest => some ([], rest)
    | cs => do
      let (item, rest) ← value? fuel depth cs
      match ← skipLines? false rest with
      | ',' :: rest => do
        let (items, rest) ← items? fuel depth rest
        some (item :: items, rest)
      | ']' :: rest => some ([item], rest)
      | _ => none

/-- The fields of an inline table up to its closing brace. -/
def pairs? : Nat → Nat → Section → List Char → Option (Section × List Char)
  | 0, _, _, _ => none
  | fuel + 1, depth, t, cs => do
    match ← skipLines? false cs with
    | '\x7d' :: rest => some (t, rest)
    | cs => do
      let (((path, last), v), rest) ← pair? fuel depth cs
      let t ← t.insertPair path last v
      match ← skipLines? false rest with
      | ',' :: rest => pairs? fuel depth t rest
      | '\x7d' :: rest => some (t, rest)
      | _ => none

/-- A key, an equals sign and a value. -/
def pair? : Nat → Nat → List Char → Option (((List String × String) × Toml) × List Char)
  | 0, _, _ => none
  | fuel + 1, depth, cs => do
    let (key, rest) ← key? fuel cs
    match rest with
    | '=' :: rest => do
      let (v, rest) ← value? fuel depth (skipSpace rest)
      some ((key, v), rest)
    | _ => none

end

/-- A document while it is read: its tables, and the path of the one that is open. -/
structure Document where
  root : Section
  path : List String

/-- The text after a closing bracket. -/
def afterBracket? : List Char → Option (List Char)
  | ']' :: cs => some cs
  | _ => none

/-- Reads one line and gives the text after it. -/
def line? (fuel : Nat) (d : Document) (cs : List Char) : Option (Document × List Char) :=
  match skipSpace cs with
  | [] => some (d, [])
  | '#' :: cs => (endLine? ('#' :: cs)).map (d, ·)
  | '\n' :: cs => some (d, cs)
  | '\r' :: '\n' :: cs => some (d, cs)
  | '[' :: '[' :: cs => do
    let ((path, last), cs) ← key? fuel cs
    let cs ← afterBracket? cs
    let cs ← afterBracket? cs
    let cs ← endLine? cs
    let root ← d.root.openItem path last
    some (⟨root, path ++ [last]⟩, cs)
  | '[' :: cs => do
    let ((path, last), cs) ← key? fuel cs
    let cs ← afterBracket? cs
    let cs ← endLine? cs
    let root ← d.root.openTable path last
    some (⟨root, path ++ [last]⟩, cs)
  | cs => do
    let (((path, last), v), cs) ← pair? fuel depthLimit cs
    let cs ← endLine? cs
    let root ← Section.descend false d.path (·.insertPair path last v) d.root
    some (⟨root, d.path⟩, cs)

/-- Reads line after line; `fuel` is enough for any one of them. -/
def lines? (fuel : Nat) : Nat → Document → List Char → Option Document
  | _, d, [] => some d
  | 0, _, _ => none
  | count + 1, d, cs => do
    let (d, cs) ← line? fuel d cs
    lines? fuel count d cs

/-- The text without a byte order mark at its beginning. -/
def dropMark : List Char → List Char
  | '\uFEFF' :: cs => cs
  | cs => cs

/-- The fields of a document. -/
def parse? (s : String) : Option (List (String × Toml)) :=
  let cs := dropMark s.toList
  let fuel := 2 * cs.length + 2
  (lines? fuel fuel ⟨Section.opened, []⟩ cs).map fun d => Node.fieldsToToml d.root.fields

end Provision.Toml
