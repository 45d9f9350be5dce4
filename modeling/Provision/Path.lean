import Provision.Data.SortedMap
import Provision.Text.Blank

/-!
# Paths

A path is printed as it was given and compared by its parts: repeated slashes,
slashes at the end and parts that name the directory they stand in do not count,
except for a single dot at the beginning of a relative path.

Paths are Unicode text here.  A system may also name files by bytes that spell no text;
such names are outside of what is described.

Main results:

- `HostPath.same_iff_key_eq`: paths name the same place exactly when their keys
  are equal.
- `PathMap.find?_put_self`, `PathMap.find?_put_of_ne`: look-ups in a map by path.
-/

namespace Provision

/-- A path, as it was given: Unicode text. -/
structure HostPath where
  text : String
  deriving DecidableEq, Inhabited

namespace HostPath

/-- A part of a path. -/
inductive Part
  /-- The slash at the beginning of an absolute path. -/
  | root
  /-- The dot at the beginning of a relative path. -/
  | here
  /-- The directory above. -/
  | up
  | name (s : String)
  deriving DecidableEq

/-- A text whose place in the order of texts is that of the part among parts. -/
def Part.key : Part → String
  | .root => "0"
  | .here => "1"
  | .up => "2"
  | .name s => "3" ++ s

/-- The pieces of a path between its slashes. -/
def pieces (p : HostPath) : List (List Char) := Text.splitAll (· == '/') p.text.toList

/-- Whether a path starts at the root. -/
def isAbsolute (p : HostPath) : Bool := p.text.toList.head? == some '/'

/-- The part that a piece is, if it is one; `first` says whether the path starts with it. -/
def part? (first : Bool) (piece : List Char) : Option Part :=
  if piece.isEmpty then none
  else if piece == ['.'] then if first then some .here else none
  else if piece == ['.', '.'] then some .up
  else some (.name (String.ofList piece))

/-- The pieces of a path, each with the part that it is. -/
def marked (p : HostPath) : List (Option Part × List Char) :=
  match p.pieces with
  | [] => []
  | piece :: rest => (part? true piece, piece) :: rest.map fun piece => (part? false piece, piece)

/-- The parts of a path. -/
def parts (p : HostPath) : List Part :=
  (if p.isAbsolute then [.root] else []) ++ p.marked.filterMap Prod.fst

/-- What a path is compared by. -/
def key (p : HostPath) : List String := p.parts.map Part.key

/-- Whether two paths name the same place. -/
def same (p q : HostPath) : Bool := p.key == q.key

/-- Paths name the same place exactly when their keys are equal. -/
theorem same_iff_key_eq (p q : HostPath) : p.same q = true ↔ p.key = q.key := by
  simp [same]

/-- The text of pieces with slashes between them. -/
def joinPieces (ps : List (List Char)) : String :=
  String.ofList (List.intercalate ['/'] ps)

/-- The path `q`, taken from the directory `p`. -/
def join (p q : HostPath) : HostPath :=
  if q.isAbsolute then q
  else if p.text.isEmpty || p.text.toList.getLast? == some '/' then ⟨p.text ++ q.text⟩
  else ⟨p.text ++ "/" ++ q.text⟩

/-- The path with one more name. -/
def child (p : HostPath) (name : String) : HostPath := p.join ⟨name⟩

/-- An absolute path without its root, as a relative path; a relative path as it is. -/
def dropRoot (p : HostPath) : HostPath :=
  if p.isAbsolute then
    let body := p.pieces.map fun piece => (part? false piece, piece)
    let body := body.dropWhile (·.1.isNone)
    let body := (body.reverse.dropWhile (·.1.isNone)).reverse
    ⟨joinPieces (body.map Prod.snd)⟩
  else p

/-- The path of the directory that the last part stands in; `none` when there is no such part. -/
def parent? (p : HostPath) : Option HostPath :=
  match p.marked.reverse.dropWhile (·.1.isNone) with
  | [] => none
  | _ :: before =>
    match (before.dropWhile (·.1.isNone)).reverse with
    | [] => some ⟨if p.isAbsolute then "/" else ""⟩
    | kept => some ⟨joinPieces (kept.map Prod.snd)⟩

/-- The last part of a path, when it is a name. -/
def fileName? (p : HostPath) : Option String :=
  match p.parts.getLast? with
  | some (.name s) => some s
  | _ => none

end HostPath

/-! ## Maps by path -/

/-- A map by path: a key is found under each of its spellings and keeps the one it came with. -/
abbrev PathMap (β : Type) := SortedMap (List String) (HostPath × β)

namespace PathMap

variable {β : Type}

/-- The value under a path. -/
def find? (m : PathMap β) (p : HostPath) : Option β := (m.get? p.key).map Prod.snd

/-- The map with `v` under a path. -/
def put (m : PathMap β) (p : HostPath) (v : β) : PathMap β :=
  m.insert p.key (((m.get? p.key).map Prod.fst).getD p, v)

@[simp]
theorem find?_put_self (m : PathMap β) (p : HostPath) (v : β) : (m.put p v).find? p = some v := by
  simp [find?, put]

theorem find?_put_of_ne (m : PathMap β) {p q : HostPath} (v : β) (h : q.key ≠ p.key) :
    (m.put p v).find? q = m.find? q := by
  simp [find?, put, SortedMap.get?_insert_of_ne _ _ h]

end PathMap

end Provision
