import Provision.Json.Printer
import Provision.Report.Encode

/-!
# Reports

What a request reports: a plan, the outcome of a run, or the status of the host,
either as lines of text or as JSON.
-/

namespace Provision

/-- What a request reports. -/
inductive Report
  | plan (steps : List PlannedStep)
  | outcome (o : Outcome)
  | status (pages : Reservation) (r : StatusReport)

namespace Report

/-- The exit code of a request that ends with a report. -/
def exitCode : Report → Nat
  | .plan _ | .status _ _ => 0
  | .outcome o => o.exitCode

@[simp]
theorem exitCode_plan (steps : List PlannedStep) : (plan steps).exitCode = 0 := rfl

@[simp]
theorem exitCode_status (pages : Reservation) (r : StatusReport) :
    (status pages r).exitCode = 0 := rfl

/-! ## JSON -/

/-- The fields by which a report tells an error. -/
def errorFields (e : Error) : List (String × Json) :=
  [("error", .string e.message), ("entity", .optionString e.entity)]

/-- A change that was not undone, as JSON. -/
def failureToJson (f : Change × Error) : Json :=
  .object [("entry", Encode.change f.1), ("error", .string f.2.message)]

/-- A device that was not brought back, as JSON. -/
def unrestoredToJson (d : PciAddress × Error) : Json :=
  .object [("address", Encode.address d.1), ("error", .string d.2.message)]

/-- An outcome as JSON. -/
def outcomeToJson : Outcome → Json
  | .committed journal applied skipped =>
    .object [("outcome", .string "committed"), ("applied", .nat applied), ("skipped", .nat skipped),
      ("journal", Encode.journal journal)]
  | .rolledBack e rollback =>
    .object ([("outcome", .string "rolled_back")] ++ errorFields e ++
      [("reverted", .nat rollback.reverted),
        ("rollback_failures", .list failureToJson rollback.failures)])
  | .rejected e => .object (("outcome", .string "rejected") :: errorFields e)
  | .tornDown report =>
    .object [("outcome", .string (if report.unrestored.isEmpty then "torn_down"
        else "partial_teardown")),
      ("restored", .list Encode.address report.restored),
      ("skipped", .list Encode.address report.skipped),
      ("unrestored", .list unrestoredToJson report.unrestored)]

/-- A module of a status report as JSON. -/
def moduleToJson (m : String × Observed ModuleState) : Json :=
  .array [.string m.1, Encode.observed Encode.moduleState m.2]

/-- The status of a host as JSON. -/
def statusToJson (r : StatusReport) : Json :=
  .object [("devices", .list Encode.candidate r.devices),
    ("hugetlbfs_mounted", Encode.observed .bool r.mounted),
    ("hugepages", Encode.observed .nat r.pages), ("modules", .list moduleToJson r.modules)]

/-- A report as JSON; plans and outcomes have their keys in order. -/
def toJson : Report → Json
  | .plan steps => .sortKeys (.object [("plan", .list Encode.plannedStep steps)])
  | .outcome o => .sortKeys (outcomeToJson o)
  | .status _ r => statusToJson r

/-! ## Text -/

/-- A number with a blank in front of a single digit. -/
def padded (n : Nat) : String := if n < 10 then " " ++ toString n else toString n

/-- The line of a planned step. -/
def stepLine (index : Nat) (s : PlannedStep) : String :=
  padded (index + 1) ++ ". [" ++ (if s.satisfied then "done" else "todo") ++ "] " ++
    toString s.step

/-- The lines of planned steps from a place on. -/
def stepLines : Nat → List PlannedStep → List String
  | _, [] => []
  | index, s :: rest => stepLine index s :: stepLines (index + 1) rest

/-- The lines of an outcome. -/
def outcomeLines : Outcome → List String
  | .committed journal applied skipped =>
    ("Committed: " ++ toString applied ++ " applied, " ++ toString skipped ++
      " already satisfied") :: journal.map fun c => "  " ++ toString c
  | .rolledBack e rollback =>
    ["Setup failed: " ++ e.message,
      "Rolled back " ++ toString rollback.reverted ++ " change(s)"] ++
      rollback.failures.map fun (c, e) => "  not reverted " ++ toString c ++ ": " ++ e.message
  | .rejected e => ["Rejected: " ++ e.message]
  | .tornDown report =>
    report.restored.map (fun a => "restored   " ++ toString a) ++
      report.skipped.map (fun a =>
        "skipped    " ++ toString a ++ " (no original driver on record)") ++
      report.unrestored.map fun (a, e) => "unrestored " ++ toString a ++ ": " ++ e.message

/-- A value that was read or could not be, as text. -/
def observedText {α : Type} (render : α → String) : Observed α → String
  | .known a => "Known(" ++ render a ++ ")"
  | .unknown => "Unknown"

/-- A truth value as text. -/
def boolText (b : Bool) : String := if b then "true" else "false"

/-- The line of a device. -/
def deviceLine (c : Candidate) : String :=
  let d := c.device
  toString d.address ++ " " ++ d.deviceClass ++ " " ++ d.vendor ++ ":" ++ d.device ++
    " driver=" ++ d.currentDriver.getD "none" ++ " original=" ++ d.homeDriver.getD "-" ++
    (if c.reserved then " (reserved)" else "")

/-- The line of a module. -/
def moduleLine (m : String × Observed ModuleState) : String :=
  "module " ++ m.1 ++ ": loaded=" ++
    (match m.2.known? with
      | some s => "Some(" ++ boolText s.loaded ++ ")"
      | none => "None")

/-- The lines of the status of a host. -/
def statusLines (pages : Reservation) (r : StatusReport) : List String :=
  r.devices.map deviceLine ++
    ["hugetlbfs " ++ pages.mountPath.text ++ ": " ++ observedText boolText r.mounted,
      "hugepages " ++ toString pages.pageKb ++ "kB on " ++ pages.pool.place ++ ": " ++
        observedText toString r.pages] ++
    r.modules.map moduleLine

/-- The lines of a report. -/
def lines : Report → List String
  | .plan steps => stepLines 0 steps
  | .outcome o => outcomeLines o
  | .status pages r => statusLines pages r

/-- What is printed of a report. -/
def print (json : Bool) (r : Report) : String :=
  if json then r.toJson.print ++ "\n" else String.join (r.lines.map (· ++ "\n"))

end Report

end Provision
