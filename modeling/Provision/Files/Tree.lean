import Provision.Data.SortedMap
import Provision.Text.Content

/-!
# File trees

A file tree is a map from locations to nodes.  A location is the way down from
the root; links are nodes and are not followed here.  The root is a directory and
is not kept in the map.

Main results:

- `FileTree.node?_put_self`, `FileTree.node?_put_of_ne`: what stands at a location
  after something was put there, and at the other locations.
- `FileTree.node?_prune`: what is left after a location was removed.
-/

namespace Provision

/-- Where something stands: the names on the way down from the root. -/
abbrev Location := List String

/-- What stands at a location. -/
inductive FileNode
  | dir
  | file (content : Content)
  /-- A symbolic link, with its target as it was given. -/
  | link (target : String)
  deriving DecidableEq, Inhabited

/-- What stands at every location except the root. -/
structure FileTree where
  nodes : SortedMap Location FileNode := ∅
  deriving DecidableEq, Inhabited

namespace FileTree

/-- What stands at a location. -/
def node? (t : FileTree) (l : Location) : Option FileNode :=
  if l.isEmpty then some .dir else t.nodes.get? l

/-- Whether a directory stands at a location. -/
def isDir (t : FileTree) (l : Location) : Bool := t.node? l == some .dir

/-- The content of the file at a location. -/
def content? (t : FileTree) (l : Location) : Option Content :=
  match t.node? l with
  | some (.file content) => some content
  | _ => none

/-- The tree with a node at a location; the root stays a directory. -/
def put (t : FileTree) (l : Location) (n : FileNode) : FileTree := ⟨t.nodes.insert l n⟩

/-- The tree without what stands at a location and below it. -/
def prune (t : FileTree) (l : Location) : FileTree :=
  ⟨⟨t.nodes.entries.filter fun e => !l.isPrefixOf e.1, t.nodes.sorted.filter _⟩⟩

/-- The names of what stands in a directory. -/
def children (t : FileTree) (l : Location) : List String :=
  t.nodes.entries.filterMap fun e =>
    if e.1.dropLast = l then e.1.getLast? else none

/-- Something that is not at the root stands where it was put. -/
theorem node?_put_self (t : FileTree) {l : Location} (n : FileNode) (h : l ≠ []) :
    (t.put l n).node? l = some n := by
  simp [node?, put, h]

/-- Where nothing was put, nothing changes. -/
theorem node?_put_of_ne (t : FileTree) {l m : Location} (n : FileNode) (h : m ≠ l) :
    (t.put l n).node? m = t.node? m := by
  simp [node?, put, SortedMap.get?_insert_of_ne _ _ h]

/-- What is left after a location was removed. -/
theorem node?_prune {l m : Location} (t : FileTree) (below : m ≠ []) :
    (t.prune l).node? m = if l.isPrefixOf m then none else t.node? m := by
  have found : (t.prune l).nodes.get? m = (t.nodes.get? m).filter fun _ => !l.isPrefixOf m :=
    Entries.get?_filter t.nodes.sorted (fun e => !l.isPrefixOf e.1) m
  simp only [node?, found, List.isEmpty_iff, below, if_false]
  cases l.isPrefixOf m <;> cases t.nodes.get? m <;> rfl

end FileTree

end Provision
