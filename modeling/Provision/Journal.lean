import Provision.Hugepages
import Provision.Pci.Address

/-!
# The journal of changes

A setup notes every change that it makes, together with what stood there before.
When it fails, the changes are undone from the newest to the oldest.

Main results:

- `Journal.newestFirst_append`: what was noted later is undone earlier.
-/

namespace Provision

/-- A change that can be undone, with what it replaced. -/
inductive Change
  /-- A module was loaded that was not loaded before. -/
  | moduleLoaded (name : String)
  /-- hugetlbfs was mounted where nothing was mounted before. -/
  | mounted (path : HostPath) (pageKb : Nat)
  /-- The size of a pool was changed; it held `previous` pages before. -/
  | reserved (pool : Pool) (previous : Nat)
  /-- A device was moved to another driver; `recorded` says whether its home driver was put
  on record then. -/
  | rebound (address : PciAddress) (prior : Option String) (recorded : Bool)
  /-- A device was unbound and could not be bound to another driver. -/
  | stranded (address : PciAddress) (prior : Option String) (recorded : Bool)
  deriving DecidableEq, Inhabited

/-- The kind of a change. -/
inductive ChangeKind
  | moduleLoad
  | mount
  | reserve
  | rebind
  | strand
  deriving DecidableEq, Inhabited

/-- A kind of change as text. -/
protected def ChangeKind.toString : ChangeKind → String
  | .moduleLoad => "module-load"
  | .mount => "mount"
  | .reserve => "reserve"
  | .rebind => "rebind"
  | .strand => "strand"

instance : ToString ChangeKind := ⟨ChangeKind.toString⟩

namespace Change

/-- The kind of a change. -/
def kind : Change → ChangeKind
  | .moduleLoaded _ => .moduleLoad
  | .mounted _ _ => .mount
  | .reserved _ _ => .reserve
  | .rebound _ _ _ => .rebind
  | .stranded _ _ _ => .strand

/-- What was changed. -/
def target : Change → String
  | .moduleLoaded name => name
  | .mounted path _ => path.text
  | .reserved pool _ => pool.label
  | .rebound address _ _ | .stranded address _ _ => toString address

/-- What stood there before. -/
def prior : Change → String
  | .moduleLoaded _ => "unloaded"
  | .mounted _ _ => "unmounted"
  | .reserved _ previous => toString previous
  | .rebound _ prior _ | .stranded _ prior _ => prior.getD "none"

/-- A change as text. -/
protected def toString (c : Change) : String :=
  "(" ++ toString c.kind ++ ", " ++ c.target ++ ", " ++ c.prior ++ ")"

instance : ToString Change := ⟨Change.toString⟩

end Change

/-- The changes of a run, the oldest first. -/
abbrev Journal := List Change

namespace Journal

/-- The changes in the order in which they are undone. -/
def newestFirst (j : Journal) : List Change := j.reverse

/-- What was noted later is undone earlier. -/
theorem newestFirst_append (j k : Journal) :
    newestFirst (j ++ k) = newestFirst k ++ newestFirst j :=
  List.reverse_append ..

end Journal

end Provision
