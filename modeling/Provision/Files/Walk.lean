import Provision.Files.Tree
import Provision.OsError
import Provision.Path

/-!
# Walking along paths

A path leads from a directory, name by name, to a location.  Links on the way are
followed from the directory they stand in, at most forty of them; the names after
something that is not a directory are refused.

Main results:

- `Walk.descend_append`: a walk along two pieces of a path, one after the other.
- `Walk.step_dot`: a single dot leads from a directory to itself.
-/

namespace Provision

/-- A path taken apart: where it starts, its names, and whether it ends with a slash. -/
structure Route where
  absolute : Bool
  names : List String
  slashAtEnd : Bool
  deriving DecidableEq, Inhabited

/-- The most bytes of a name. -/
def Route.nameLimit : Nat := 255

/-- The number of bytes that a path must stay below. -/
def Route.pathLimit : Nat := 4096

/-- The route that a text spells. -/
def Route.ofText (s : String) : Route where
  absolute := s.toList.head? == some '/'
  names := ((Text.splitAll (· == '/') s.toList).filter (!·.isEmpty)).map String.ofList
  slashAtEnd := s.toList.getLast? == some '/'

/-- The route of a path, unless no file can be named by it. -/
def HostPath.route (p : HostPath) : Except OsError Route :=
  if '\x00' ∈ p.text.toList then .error .nulInName
  else if p.text.isEmpty then .error .noEntry
  else if Route.pathLimit ≤ p.text.utf8ByteSize then .error .nameTooLong
  else .ok (.ofText p.text)

namespace Walk

/-- The number of links that a walk may follow. -/
def linkLimit : Nat := 40

/-- How a link is followed: from the directory it stands in, to its target, with the number of
links that may still be followed. -/
abbrev Follow := Location → String → Nat → Except OsError (Location × Nat)

/-- One step of a walk, from a location along a name. -/
def step (t : FileTree) (follow : Follow) (cur : Location) (links : Nat) (name : String) :
    Except OsError (Location × Nat) :=
  if !t.isDir cur then .error .notDirectory
  else if name = "." then .ok (cur, links)
  else if name = ".." then .ok (cur.dropLast, links)
  else if Route.nameLimit < name.utf8ByteSize then .error .nameTooLong
  else
    match t.node? (cur ++ [name]) with
    | none => .error .noEntry
    | some (.link target) =>
      if links = 0 then .error .tooManyLinks else follow cur target (links - 1)
    | some _ => .ok (cur ++ [name], links)

/-- A single dot leads from a directory to itself. -/
theorem step_dot {t : FileTree} {cur : Location} (follow : Follow) (links : Nat)
    (h : t.isDir cur = true) : step t follow cur links "." = .ok (cur, links) := by
  simp [step, h]

/-- A walk along names. -/
def descend (t : FileTree) (follow : Follow) :
    Location → Nat → List String → Except OsError (Location × Nat)
  | cur, links, [] => .ok (cur, links)
  | cur, links, name :: rest =>
    match step t follow cur links name with
    | .ok (next, links) => descend t follow next links rest
    | .error e => .error e

/-- A walk along two pieces of a path takes the one piece after the other. -/
theorem descend_append (t : FileTree) (follow : Follow) (cur : Location) (links : Nat)
    (a b : List String) :
    descend t follow cur links (a ++ b) =
      (descend t follow cur links a).bind fun r => descend t follow r.1 r.2 b := by
  induction a generalizing cur links with
  | nil => rfl
  | cons name a ih =>
    simp only [List.cons_append, descend]
    cases step t follow cur links name with
    | ok r => exact ih r.1 r.2
    | error e => rfl

/-- The directory in which a route starts. -/
def start (cwd : Location) (r : Route) : Location := if r.absolute then [] else cwd

/-- Refuses a location that is not a directory, where a slash at the end asks for one. -/
def checkSlash (t : FileTree) (r : Route) (found : Location × Nat) :
    Except OsError (Location × Nat) :=
  if r.slashAtEnd && !t.isDir found.1 then .error .notDirectory else .ok found

/-- Follows links whose targets hold links up to a depth. -/
def followTo (t : FileTree) : Nat → Follow
  | 0, _, _, _ => .error .tooManyLinks
  | depth + 1, cur, target, links =>
    let r := Route.ofText target
    match descend t (followTo t depth) (start cur r) links r.names with
    | .ok found => checkSlash t r found
    | .error e => .error e

/-- Follows links to any depth that the number of links allows. -/
def follow (t : FileTree) : Follow := followTo t linkLimit

/-- The location that a path leads to. -/
def locate (t : FileTree) (cwd : Location) (p : HostPath) : Except OsError Location := do
  let r ← p.route
  let found ← descend t (follow t) (start cwd r) linkLimit r.names
  let found ← checkSlash t r found
  pure found.1

/-- What stands in a directory under a name, if anything does. -/
def entry (t : FileTree) (dir : Location) (name : String) : Except OsError (Option FileNode) :=
  if Route.nameLimit < name.utf8ByteSize then .error .nameTooLong
  else .ok (t.node? (dir ++ [name]))

/-- Whether a name leads to a directory that is there already. -/
def isDots (name : String) : Bool := name == "." || name == ".."

/-- The directory that the last name of a route stands in, with that name and the number of links
that may still be followed; `none` where the route has no name, as that of the root. -/
def locateParent (t : FileTree) (cur : Location) (links : Nat) (r : Route) :
    Except OsError (Option (Location × String × Nat)) :=
  match r.names.getLast? with
  | none => .ok none
  | some name => do
    let (dir, links) ← descend t (follow t) cur links r.names.dropLast
    if t.isDir dir then .ok (some (dir, name, links)) else .error .notDirectory

/-- The location that a path names, where a link that stands there is not followed. -/
def locateLink (t : FileTree) (cwd : Location) (p : HostPath) : Except OsError Location := do
  let r ← p.route
  if r.slashAtEnd then locate t cwd p
  else
    match ← locateParent t (start cwd r) linkLimit r with
    | none => pure []
    | some (dir, name, links) =>
      if isDots name then
        let (loc, _) ← step t (follow t) dir links name
        pure loc
      else
        match ← entry t dir name with
        | none => .error .noEntry
        | some _ => pure (dir ++ [name])

/-- The location of the file that a route leads to, which may still be missing in its directory;
links are followed to a depth. -/
def locateFileTo (t : FileTree) : Nat → Location → Nat → Route → Except OsError Location
  | 0, _, _, _ => .error .tooManyLinks
  | depth + 1, cur, links, r => do
    match ← locateParent t cur links r with
    | none => .error .isDirectory
    | some (dir, name, links) =>
      if isDots name || r.slashAtEnd then .error .isDirectory
      else
        match ← entry t dir name with
        | some .dir => .error .isDirectory
        | some (.link target) =>
          if links = 0 then .error .tooManyLinks
          else
            let r := Route.ofText target
            locateFileTo t depth (start dir r) (links - 1) r
        | some (.file _) | none => .ok (dir ++ [name])

/-- The location of the file that a path leads to, which may still be missing in its
directory. -/
def locateFile (t : FileTree) (cwd : Location) (p : HostPath) : Except OsError Location := do
  let r ← p.route
  locateFileTo t (linkLimit + 1) (start cwd r) linkLimit r

end Walk

end Provision
