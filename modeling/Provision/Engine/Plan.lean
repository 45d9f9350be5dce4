import Provision.Catalog
import Provision.Engine.Goal
import Provision.Engine.Survey

/-!
# Plans

A plan lists the steps of a goal in the order in which they are made, and says of
each whether the survey shows it satisfied already.  The order of a setup is:
modules, mount, reservation, then one device after the other in the order of
addresses.

Main results:

- `Plan.length_setupSteps`: a setup has a step for every module and every device,
  and two for the pages.
-/

namespace Provision

/-- A step of a run. -/
inductive Step
  | loadModule (m : ModuleRequest)
  | mount (r : Reservation)
  | reserve (r : Reservation)
  | rebind (address : PciAddress) (driver : String)
  | restore (address : PciAddress) (driver : String)
  deriving DecidableEq, Inhabited

/-- A step as text. -/
protected def Step.toString : Step → String
  | .loadModule m => "load module " ++ toString m
  | .mount r => "mount hugetlbfs at " ++ r.mountPath.text
  | .reserve r =>
    "reserve " ++ toString r.count ++ " x " ++ toString r.pageKb ++ "kB pages on " ++ r.pool.place
  | .rebind address driver => "bind " ++ toString address ++ " to " ++ driver
  | .restore address driver => "restore " ++ toString address ++ " to " ++ driver

instance : ToString Step := ⟨Step.toString⟩

/-- A step, and whether it is satisfied already. -/
structure PlannedStep where
  step : Step
  satisfied : Bool
  deriving DecidableEq, Inhabited

namespace Plan

/-- The steps of a setup on a surveyed host. -/
def setupSteps (v : HostView) (g : SetupGoal) : List PlannedStep :=
  g.modules.map (fun m => ⟨.loadModule m, v.hasModule m⟩) ++
    [⟨.mount g.pages, v.hasMount g.pages⟩,
      ⟨.reserve g.pages, v.hasMount g.pages && v.hasPages g.pages⟩] ++
    g.devices.toList.map fun a => ⟨.rebind a g.target, v.hasBinding a g.target⟩

/-- A setup has a step for every module and every device, and two for the pages. -/
theorem length_setupSteps (v : HostView) (g : SetupGoal) :
    (setupSteps v g).length = g.modules.length + 2 + g.devices.toList.length := by
  simp [setupSteps]
  omega

/-- Refuses the first device that is not known or stays with the host. -/
def admissible (c : Catalog) (devices : List PciAddress) : Except Error Unit :=
  devices.forM fun a =>
    if (c.device? a).isNone then .error (.noDevice a)
    else if c.isReserved a then .error (.deviceReserved (toString a))
    else .ok ()

/-- The plan of a setup, made from what was listed before. -/
def setup (g : SetupGoal) : CatalogM (List PlannedStep) := do
  let c ← get
  ExceptT.mk (pure (admissible c g.devices.toList))
  let v ← (Survey.take g.modules (some g.pages) g.devices.toList : CatalogProg HostView)
  pure (setupSteps v g)

/-- The step that brings a device back, if its home driver is known. -/
def restoreSteps (v : HostView) : List PciAddress → CatalogM (List PlannedStep)
  | [] => pure []
  | a :: rest => do
    match ← Catalog.homeDriver a with
    | none => restoreSteps v rest
    | some driver => do
      let others ← restoreSteps v rest
      pure (⟨.restore a driver, v.hasBinding a driver⟩ :: others)

/-- The plan of a teardown, made from what was listed before. -/
def teardown (devices : List PciAddress) : CatalogM (List PlannedStep) := do
  let _ ← Catalog.adoptRecorded
  let v ← (Survey.take [] none devices : CatalogProg HostView)
  restoreSteps v devices

end Plan

/-- The plan of a goal; the devices of the host are listed first. -/
def plan (filter : DeviceFilter) (goal : Goal) : CatalogM (List PlannedStep) := do
  let _ ← Catalog.enumerate filter
  match goal with
  | .setup g => Plan.setup g
  | .teardown devices => Plan.teardown devices.toList

end Provision
