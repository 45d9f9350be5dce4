import Provision.Catalog
import Provision.Journal

/-!
# Binding of devices

A device is moved to another driver by unbinding it and binding it again, and the
catalog is kept in step.  The home driver is put on durable record before the
device is unbound, unless the catalog or the host is found to know one, so that it
can be found again whatever happens next.
-/

namespace Provision.Binding

/-- Why a device was not moved.  When it was unbound and could not be bound, it is stranded, which
is a change to be undone. -/
structure Failure where
  error : Error
  stranded : Option Change
  deriving DecidableEq, Inhabited

/-- The failure that an error alone is. -/
def Failure.plain (e : Error) : Failure := ⟨e, none⟩

/-- A program that moves devices. -/
abbrev MoveM := ExceptT Failure CatalogProg

instance : MonadLift CatalogM MoveM where
  monadLift p := ExceptT.adapt Failure.plain p

/-- Unbinds a device from the driver it is bound to.  When that fails, a record made for it is
taken back, if possible. -/
def detach (a : PciAddress) (driver : String) (recorded : Bool) : CatalogM Unit := do
  match ← (HostM.ask (.unbind a driver)).result with
  | .error e => do
    if recorded then
      tryCatch (Catalog.forgetHome a) fun _ => pure ()
    throw (.unbindFailed (toString a) driver e.message)
  | .ok _ => modify (Catalog.noteBinding a none)

/-- Puts the driver of a device on record and unbinds the device, unless it is unbound.  Says
whether a record was made. -/
def release (a : PciAddress) : Option String → CatalogM Bool
  | none => pure false
  | some driver => do
    let recorded ← Catalog.recordHome a driver
    detach a driver recorded
    pure recorded

/-- Binds a device, which was bound to `prior` before, to another driver. -/
def attach (a : PciAddress) (target : String) (prior : Option String) (recorded : Bool) :
    MoveM Change := do
  match ← (HostM.ask (.bind a target)).result with
  | .error e =>
    throw ⟨.bindFailed (toString a) target prior e.message,
      prior.map fun _ => .stranded a prior recorded⟩
  | .ok _ => do
    modify (Catalog.noteBinding a (some target))
    pure (.rebound a prior recorded)

/-- Moves a device to another driver; gives the change, if the device was not bound to it
already. -/
def handOver (a : PciAddress) (target : String) : MoveM (Option Change) := do
  let current ← (HostM.ask (.boundDriver a) : CatalogM (Option String))
  if current = some target then do
    modify (Catalog.noteBinding a current)
    pure none
  else do
    let recorded ← (release a current : CatalogM Bool)
    some <$> attach a target current recorded

/-- Binds a device that is not bound any more to the driver it had before, if it had one; `current`
is what it was bound to in between. -/
def reattach (a : PciAddress) (prior current : Option String) : CatalogM Unit :=
  match prior with
  | none => pure ()
  | some driver => do
    match ← (HostM.ask (.bind a driver)).result with
    | .error e => throw (.bindFailed (toString a) driver current e.message)
    | .ok _ => modify (Catalog.noteBinding a (some driver))

/-- Brings a device back to the driver it had before, whatever it is bound to now. -/
def bringBack (a : PciAddress) (prior : Option String) : CatalogM Unit := do
  let current ← HostM.ask (.boundDriver a)
  if current = prior then modify (Catalog.noteBinding a prior)
  else do
    match current with
    | none => pure ()
    | some driver => detach a driver false
    reattach a prior current

/-- Brings a device back to its home driver and removes its record. -/
def restore (a : PciAddress) : CatalogM Unit := do
  match ← Catalog.homeDriver a with
  | none => throw (.store "restore" (toString a) "no original driver on record")
  | some driver => do
    bringBack a (some driver)
    Catalog.discard a

end Provision.Binding
