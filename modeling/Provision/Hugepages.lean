import Provision.Data.SortedMap
import Provision.Path

/-!
# Huge pages

Pools of huge pages, reservations in them, and the table of mounted file
systems in which hugetlbfs mounts are found.

Main results:

- `Reservation.isMetBy_iff`: a reservation is met by the counts between the
  required and the requested one.
-/

namespace Provision

/-- A pool of huge pages: the page size in kB, and the node, or all nodes. -/
structure Pool where
  pageKb : Nat
  node : Option Nat
  deriving DecidableEq, Inhabited

namespace Pool

/-- What pools are compared by: the page size, then all nodes before each single one. -/
def key (p : Pool) : List Nat := [p.pageKb, p.node.elim 0 (· + 1)]

theorem eq_of_key_eq (p q : Pool) (h : p.key = q.key) : p = q := by
  cases p with
  | mk pk pn =>
    cases q with
    | mk qk qn => cases pn <;> cases qn <;> simp_all [key]

instance : Ord Pool := ordByKey key

instance : Std.TransOrd Pool := transOrd_ordByKey key

instance : Std.LawfulEqOrd Pool := lawfulEqOrd_ordByKey key eq_of_key_eq

/-- The place of a pool: a node, or all nodes. -/
def place (p : Pool) : String :=
  match p.node with
  | some n => "node" ++ toString n
  | none => "all nodes"

/-- The name by which reports refer to a pool. -/
def label (p : Pool) : String := "hugepages-" ++ toString p.pageKb ++ "kB@" ++ p.place

end Pool

/-- Huge pages that are to be reserved, and where they are to be mounted. -/
structure Reservation where
  pageKb : Nat
  node : Option Nat
  /-- The number of pages to ask for. -/
  count : Nat
  /-- The fewest pages that will do; `count` when it is not set. -/
  minCount : Option Nat
  mountPath : HostPath
  deriving DecidableEq, Inhabited

namespace Reservation

/-- The pool in which pages are reserved. -/
def pool (r : Reservation) : Pool := ⟨r.pageKb, r.node⟩

/-- The fewest pages that will do. -/
def required (r : Reservation) : Nat := r.minCount.getD r.count

/-- Whether a pool of `count` pages will do: not fewer than required, not more than asked for. -/
def isMetBy (r : Reservation) (count : Nat) : Bool := r.required ≤ count && count ≤ r.count

/-- The counts that will do lie between the required and the requested one. -/
theorem isMetBy_iff (r : Reservation) (count : Nat) :
    r.isMetBy count = true ↔ r.required ≤ count ∧ count ≤ r.count := by
  simp [isMetBy]

end Reservation

/-! ## Mounted file systems -/

namespace Mounts

/-- The type of huge page mounts in the table of mounts. -/
def hugetlbfs : String := "hugetlbfs"

/-- A mount point as it is written in the table, with its blanks restored. -/
def restoreBlanks : List Char → List Char
  | '\\' :: '0' :: '4' :: '0' :: cs => ' ' :: restoreBlanks cs
  | c :: cs => c :: restoreBlanks cs
  | [] => []

/-- The mount point of a line, if it is that of a huge page mount. -/
def target? (line : List Char) : Option HostPath :=
  match Text.words line with
  | _ :: target :: kind :: _ =>
    if kind == hugetlbfs.toList then some ⟨String.ofList (restoreBlanks target)⟩ else none
  | _ => none

/-- The huge page mount points of a table of mounts, in its order. -/
def parse (table : String) : List HostPath :=
  (Text.lines table.toList).filterMap target?

end Mounts

end Provision
