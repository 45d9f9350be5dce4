import Provision.Engine.Teardown

/-!
# Runs and inspections

The entry points of the engine: running a goal, and the inspections that tell
which devices a goal may name and what a setup would find.
-/

namespace Provision

/-- What a setup would find. -/
structure StatusReport where
  devices : List Candidate
  mounted : Observed Bool
  pages : Observed Nat
  /-- The modules, by normalized name. -/
  modules : List (String × Observed ModuleState)

/-- The catalog with which runs under a policy begin. -/
def Policy.freshCatalog (policy : Policy) : Catalog :=
  .new policy.reserveLeading policy.passthrough

namespace Engine

/-- Runs a goal to its end. -/
def run (policy : Policy) : Goal → CatalogProg Outcome
  | .setup g => Setup.run policy g
  | .teardown devices => Teardown.run policy devices

/-- The devices that a setup may name, in the order of the host. -/
def eligibleDevices (policy : Policy) : CatalogM (List TrackedDevice) :=
  Catalog.discover policy.filter

/-- The devices whose home driver is on record, in the order of addresses. -/
def recordedDevices (policy : Policy) : CatalogM (List PciAddress) := do
  let found ← Catalog.discoverRecorded policy.filter
  let missing ← Catalog.adoptRecorded
  let known := (← get).devices.filter (·.homeDriver.isSome)
  pure (SortedSet.ofList (found.map (·.address) ++ missing ++ known.map (·.address))).toList

/-- What a setup with a reservation and modules would find. -/
def status (policy : Policy) (r : Reservation) (ms : List ModuleRequest) :
    CatalogM StatusReport := do
  let devices ← Catalog.enumerate policy.filter
  let v ← (Survey.take ms (some r) [] : CatalogProg HostView)
  pure
    { devices := devices
      mounted := (v.mounts.find? r.mountPath).getD .unknown
      pages := (v.pools.get? r.pool).getD .unknown
      modules := v.modules.entries }

end Engine

end Provision
