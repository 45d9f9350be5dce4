import Provision.Engine.Setup

/-!
# Teardown

A teardown brings every device back to its home driver, each one on its own:
what becomes of one device does not keep the others from being tried, and nothing
is undone.  Devices that the host cannot list any more are found by their durable
records.
-/

namespace Provision.Teardown

/-- What became of one device. -/
inductive Fate
  | restored
  /-- There is no home driver on record. -/
  | skipped
  | unrestored (e : Error)
  deriving DecidableEq, Inhabited

/-- Brings one device back. -/
def restoreOne (a : PciAddress) : CatalogProg Fate := do
  match ← (Catalog.homeDriver a).run with
  | .error e => pure (.unrestored e)
  | .ok none => do
    let c ← get
    pure (if (c.device? a).isNone then .unrestored (.noDevice a) else .skipped)
  | .ok (some driver) =>
    match ← (Setup.apply (.restore a driver)).run with
    | .ok _ => pure .restored
    | .error f => pure (.unrestored f.error)

/-- A report with the fate of one more device in front. -/
def note (a : PciAddress) (fate : Fate) (report : TeardownReport) : TeardownReport :=
  match fate with
  | .restored => { report with restored := a :: report.restored }
  | .skipped => { report with skipped := a :: report.skipped }
  | .unrestored e => { report with unrestored := (a, e) :: report.unrestored }

/-- Brings devices back, from a place on. -/
def restoreFrom (total : Nat) : Nat → List PciAddress → CatalogProg TeardownReport
  | _, [] => pure {}
  | index, a :: rest => do
    HostProg.enter (.applying (index + 1) total)
    let fate ← restoreOne a
    let report ← restoreFrom total (index + 1) rest
    pure (note a fate report)

/-- Lists the devices of the host, if it can be done, and takes in the recorded ones. -/
def prepare (filter : DeviceFilter) : CatalogM Unit := do
  tryCatch (discard (Catalog.enumerate filter)) fun _ => pure ()
  discard Catalog.adoptRecorded

/-- Runs a teardown. -/
def run (policy : Policy) (devices : SortedSet PciAddress) : CatalogProg Outcome := do
  HostProg.enter .idle
  HostProg.enter .probing
  match ← (prepare policy.filter).run with
  | .error e => do
    HostProg.enter .failed
    pure (.rejected e)
  | .ok _ => do
    let report ← restoreFrom devices.toList.length 0 devices.toList
    HostProg.enter (if report.unrestored.isEmpty then .committed else .failed)
    pure (.tornDown report)

end Provision.Teardown
