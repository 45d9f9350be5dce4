import Provision.Engine.Host

/-!
# Surveys of a host

A survey reads the resources that a run is about.  A resource that cannot be read
is unknown; a survey as a whole never fails.

Main results:

- `Observed.holds_ofResult`: what is known to hold holds of a value that was read.
-/

namespace Provision

/-- A value that was read, or could not be. -/
inductive Observed (α : Type)
  | known (a : α)
  | unknown
  deriving DecidableEq, Inhabited

namespace Observed

variable {α : Type}

/-- What a read gave. -/
def ofResult : Except Error α → Observed α
  | .ok a => .known a
  | .error _ => .unknown

/-- The value, if it is known. -/
def known? : Observed α → Option α
  | .known a => some a
  | .unknown => none

/-- Whether the value is known and satisfies `p`. -/
def holds (p : α → Bool) (o : Observed α) : Bool := o.known?.any p

/-- Nothing is known to hold of an unknown value. -/
@[simp]
theorem holds_unknown (p : α → Bool) : (Observed.unknown).holds p = false := rfl

@[simp]
theorem holds_known (p : α → Bool) (a : α) : (Observed.known a).holds p = p a := rfl

/-- A result was read, and it is as asked for. -/
theorem holds_ofResult (p : α → Bool) (result : Except Error α) :
    (ofResult result).holds p = true ↔ ∃ a, result = .ok a ∧ p a = true := by
  cases result with
  | ok a => simp [ofResult]
  | error e => simp [ofResult]

end Observed

/-- What is known of a host. -/
structure HostView where
  /-- Whether hugetlbfs is mounted, by mount path. -/
  mounts : PathMap (Observed Bool) := ∅
  /-- The numbers of reserved pages. -/
  pools : SortedMap Pool (Observed Nat) := ∅
  /-- The modules, by normalized name. -/
  modules : SortedMap String (Observed ModuleState) := ∅
  /-- The drivers that devices are bound to. -/
  drivers : SortedMap PciAddress (Observed (Option String)) := ∅

namespace HostView

/-- Whether a module is known to be loaded as requested. -/
def hasModule (v : HostView) (m : ModuleRequest) : Bool :=
  (v.modules.get? (KernelModule.normalize m.name)).any (·.holds m.satisfiedBy)

/-- Whether hugetlbfs is known to be mounted. -/
def hasMount (v : HostView) (r : Reservation) : Bool :=
  (v.mounts.find? r.mountPath).any (·.holds id)

/-- Whether the pool is known to hold an acceptable number of pages. -/
def hasPages (v : HostView) (r : Reservation) : Bool :=
  (v.pools.get? r.pool).any (·.holds r.isMetBy)

/-- Whether a device is known to be bound to a driver. -/
def hasBinding (v : HostView) (a : PciAddress) (driver : String) : Bool :=
  (v.drivers.get? a).any (·.holds (· == some driver))

end HostView

namespace Survey

/-- Reads a resource. -/
def observe (c : StoreCall) : HostProg (Observed c.Value) :=
  Observed.ofResult <$> (HostM.ask c).result

/-- Reads the state of modules. -/
def modules : List ModuleRequest → HostView → HostProg HostView
  | [], v => pure v
  | m :: ms, v => do
    let state ← observe (.moduleState m.name)
    modules ms { v with modules := v.modules.insert (KernelModule.normalize m.name) state }

/-- Reads the mount and the pool of a reservation. -/
def pages (r : Reservation) (v : HostView) : HostProg HostView := do
  let mounted ← observe (.isMounted r.mountPath)
  let count ← observe (.pageCount r.pool)
  pure { v with
    mounts := v.mounts.put r.mountPath mounted
    pools := v.pools.insert r.pool count }

/-- Reads the drivers of devices. -/
def drivers : List PciAddress → HostView → HostProg HostView
  | [], v => pure v
  | a :: rest, v => do
    let driver ← observe (.boundDriver a)
    drivers rest { v with drivers := v.drivers.insert a driver }

/-- Reads the resources that are named. -/
def take (ms : List ModuleRequest) (r : Option Reservation) (devices : List PciAddress) :
    HostProg HostView := do
  let v ← modules ms {}
  let v ← match r with
    | some r => pages r v
    | none => pure v
  drivers devices v

end Survey

end Provision
