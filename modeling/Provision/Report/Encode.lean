import Provision.Engine.Run
import Provision.Json.Basic

/-!
# Values as JSON

How the values that reports hold are written as JSON, with their fields in the
order in which reports give them.
-/

namespace Provision.Encode

/-- An address as JSON. -/
def address (a : PciAddress) : Json := .string (toString a)

/-- A path as JSON. -/
def path (p : HostPath) : Json := .string p.text

/-- Parameters as JSON. -/
def parameters (ps : Parameters) : Json :=
  .object (ps.entries.map fun (name, value) => (name, .string value))

/-- The request of a module as JSON. -/
def request (m : ModuleRequest) : Json :=
  .object [("name", .string m.name), ("parameters", parameters m.parameters)]

/-- The state of a module as JSON. -/
def moduleState (s : ModuleState) : Json :=
  .object [("name", .string s.name), ("loaded", .bool s.loaded),
    ("parameters", parameters s.parameters)]

/-- A reservation as JSON. -/
def reservation (r : Reservation) : Json :=
  .object [("page_size_kb", .nat r.pageKb), ("node", .option .nat r.node), ("count", .nat r.count),
    ("min_count", .option .nat r.minCount), ("mount_path", path r.mountPath)]

/-- A value that was read or could not be, as JSON. -/
def observed {α : Type} (encode : α → Json) : Observed α → Json
  | .known a => .object [("known", encode a)]
  | .unknown => .string "unknown"

/-! ## Devices -/

/-- An enumerated device as JSON. -/
def descriptor (d : Descriptor) : Json :=
  .object [("address", address d.address), ("class", .string d.deviceClass),
    ("vendor", .string d.vendor), ("device", .string d.device),
    ("driver", .optionString d.driver)]

/-- The fields of a known device. -/
def deviceFields (d : TrackedDevice) : List (String × Json) :=
  [("address", address d.address), ("class", .string d.deviceClass), ("vendor", .string d.vendor),
    ("device", .string d.device), ("current_driver", .optionString d.currentDriver),
    ("original_driver", .optionString d.homeDriver)]

/-- A known device as JSON. -/
def device (d : TrackedDevice) : Json := .object (deviceFields d)

/-- A candidate as JSON. -/
def candidate (c : Candidate) : Json :=
  .object (deviceFields c.device ++ [("reserved", .bool c.reserved)])

/-! ## Steps and changes -/

/-- A reservation step, by its name, as fields. -/
def pagesFields (name : String) (r : Reservation) : List (String × Json) :=
  [("step", .string name), ("hugepages", reservation r)]

/-- A step that moves a device, by its name, as fields. -/
def moveFields (name : String) (a : PciAddress) (driver : String) : List (String × Json) :=
  [("step", .string name), ("address", address a), ("driver", .string driver)]

/-- The fields of a step. -/
def stepFields : Step → List (String × Json)
  | .loadModule m => [("step", .string "load_module"), ("module", request m)]
  | .mount r => pagesFields "mount_hugetlbfs" r
  | .reserve r => pagesFields "reserve_hugepages" r
  | .rebind a driver => moveFields "rebind" a driver
  | .restore a driver => moveFields "restore" a driver

/-- A planned step as JSON. -/
def plannedStep (s : PlannedStep) : Json :=
  .object (stepFields s.step ++ [("satisfied", .bool s.satisfied)])

/-- The fields of a change of a device. -/
def moved (name : String) (a : PciAddress) (prior : Option String) (recorded : Bool) : Json :=
  .object [("action", .string name), ("address", address a), ("prior_driver", .optionString prior),
    ("recorded_original", .bool recorded)]

/-- A change as JSON. -/
def change : Change → Json
  | .moduleLoaded name => .object [("action", .string "module_loaded"), ("module", .string name)]
  | .mounted p pageKb =>
    .object
      [("action", .string "hugetlbfs_mounted"), ("path", path p), ("page_size_kb", .nat pageKb)]
  | .reserved pool previous =>
    .object [("action", .string "hugepages_reserved"), ("page_size_kb", .nat pool.pageKb),
      ("node", .option .nat pool.node), ("previous", .nat previous)]
  | .rebound a prior recorded => moved "device_rebound" a prior recorded
  | .stranded a prior recorded => moved "device_stranded" a prior recorded

/-- A journal as JSON. -/
def journal (j : Journal) : Json := .list change j

end Provision.Encode
