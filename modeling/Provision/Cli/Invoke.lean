import Provision.Cli.Arguments
import Provision.Report.Render
import Provision.Sysfs.Store

/-!
# Invocations

What an invocation of the program does: it reads the settings, overrides and
validates them, takes the run lock unless only a plan or the status is asked for,
and carries the command out on the host that the settings name.
-/

namespace Provision

/-! ## Surroundings -/

/-- What an invocation does to its surroundings. -/
inductive CliCall
  /-- Reads the settings document. -/
  | readText (path : HostPath)
  /-- Takes the run lock. -/
  | lock (path : HostPath)
  /-- Gives the run lock back. -/
  | unlock
  /-- A call on the host whose files are at a place. -/
  | host (place : Sysfs) (c : HostCall)

/-- The reply to what an invocation does. -/
abbrev CliCall.Reply : CliCall → Type
  | .readText _ => Except OsError String
  | .lock _ => Except Error Unit
  | .unlock => Unit
  | .host _ c => c.Reply

/-- The calls that invocations are made of. -/
def cliSignature : Signature := ⟨CliCall, CliCall.Reply⟩

/-- A program that an invocation is made of. -/
abbrev CliProg := Prog cliSignature

namespace CliProg

/-- Makes a call. -/
def call (c : CliCall) : CliProg c.Reply := Prog.perform (S := cliSignature) c

/-- Carries out a program on the host whose files are at a place. -/
def onHost {α : Type} (place : Sysfs) (p : HostProg α) : CliProg α :=
  p.interpret (T := cliSignature) fun c => call (.host place c)

end CliProg

/-! ## Complaints and endings -/

/-- Why a request ended without a report. -/
structure Complaint where
  /-- What was being done. -/
  context : String
  error : Error
  deriving DecidableEq, Inhabited

/-- The text of a complaint: what was being done, the error, and the failure behind it. -/
def Complaint.message (c : Complaint) : String :=
  String.intercalate ": "
    ([c.context, c.error.message] ++ (c.error.cause?.map OsError.message).toList)

/-- How an invocation ends. -/
inductive Ending
  /-- The command line was not understood, or asks for help. -/
  | usage (reason : UsageStop)
  | report (json : Bool) (r : Report)
  | complaint (c : Complaint)

namespace Ending

/-- The exit status of the program. -/
def status : Ending → Nat
  | .usage .help | .usage .version => 0
  | .usage _ => 2
  | .report _ r => r.exitCode
  | .complaint _ => 1

/-- What the program prints. -/
def printed : Ending → String
  | .usage .help => Invocation.helpText
  | .usage .version => Invocation.versionText
  | .usage _ => ""
  | .report json r => r.print json
  | .complaint _ => ""

/-- What the program prints to the error output. -/
def errorText : Ending → Option String
  | .usage .help | .usage .version | .report _ _ => none
  | .usage .helpOnMissing => some Invocation.helpText
  | .usage reason => some ("error: " ++ reason.message)
  | .complaint c => some ("nicprep: " ++ c.message)

/-- The exit status of a report is its exit code. -/
@[simp]
theorem status_report (json : Bool) (r : Report) : (report json r).status = r.exitCode := rfl

end Ending

/-- A program on a host that ends with a complaint or a value. -/
abbrev RequestM := ExceptT Complaint CatalogProg

namespace RequestM

/-- A program whose errors become complaints. -/
def during {α : Type} (context : String) (p : CatalogM α) : RequestM α :=
  ExceptT.adapt (Complaint.mk context) p

end RequestM

/-! ## Commands -/

namespace Command

/-- The devices of a setup: the named ones, or the first eligible ones. -/
def setupDevices (policy : Policy) (o : SetupOptions) : RequestM (List PciAddress) :=
  if o.devices.isEmpty then do
    let eligible ← RequestM.during "Device discovery failed" (Engine.eligibleDevices policy)
    let chosen := match o.maxDevices with
      | some n => eligible.take n
      | none => eligible
    pure (chosen.map (·.address))
  else pure o.devices

/-- The devices of a teardown: the named ones, or all that are on record. -/
def teardownDevices (policy : Policy) (o : TeardownOptions) : RequestM (List PciAddress) :=
  if o.devices.isEmpty then
    RequestM.during "Failed to read recorded devices" (Engine.recordedDevices policy)
  else pure o.devices

/-- Plans or runs a goal. -/
def pursue (policy : Policy) (dryRun : Bool) (goal : Goal) : RequestM Report :=
  if dryRun then
    .plan <$> RequestM.during "Planning failed" (Provision.plan policy.filter goal)
  else do
    let outcome ← (Engine.run policy goal : CatalogProg Outcome)
    pure (.outcome outcome)

/-- Carries a command out under settings. -/
def request (s : Settings) : Command → RequestM Report
  | .setup o => do
    let devices ← setupDevices s.policy o
    pursue s.policy o.dryRun (.setup (.forDriver devices s.target s.pages s.noIommu))
  | .teardown o => do
    let devices ← teardownDevices s.policy o
    pursue s.policy o.dryRun (.teardown (SortedSet.ofList devices))
  | .status _ =>
    .status s.pages <$> RequestM.during "Status probe failed"
      (Engine.status s.policy s.pages (KernelModule.requiredFor s.target s.noIommu))

end Command

namespace Invocation

/-- The run lock that a command needs, if it needs one. -/
def lockFor (s : Settings) : Command → Option HostPath
  | .setup o => if o.dryRun then none else some s.lockPath
  | .teardown o => if o.dryRun then none else some s.lockPath
  | .status _ => none

/-- Carries a command out on the host that the settings name. -/
def carryOut (s : Settings) (c : Command) : CliProg (Except Complaint Report) :=
  CliProg.onHost ⟨s.root, s.stateDir⟩
    (Prod.fst <$> (c.request s).run.run (Catalog.new s.reserveLeading s.passthrough))

/-- Carries a command out while the run lock is held, if it needs one. -/
def locked (s : Settings) (c : Command) : CliProg (Except Complaint Report) :=
  match lockFor s c with
  | none => carryOut s c
  | some path => do
    match ← CliProg.call (.lock path) with
    | .ok _ => do
      let result ← carryOut s c
      CliProg.call .unlock
      pure result
    | .error (.concurrentRun p) => pure (.ok (.outcome (.rejected (.concurrentRun p))))
    | .error e => pure (.error ⟨"Failed to take the run lock", e⟩)

/-- The settings of an invocation, from what reading their document gave. -/
def settings (i : Invocation) (reply : Except OsError String) : Except Complaint Settings := do
  let path := i.common.settingsPath
  let s ← (Settings.ofReply path reply).mapError (Complaint.mk ("Failed to load " ++ path.text))
  let s := s.override i.command
  s.validate.mapError (Complaint.mk "Invalid configuration")
  pure s

/-- Carries an invocation out. -/
def run (i : Invocation) : CliProg Ending := do
  let reply ← CliProg.call (.readText i.common.settingsPath)
  match i.settings reply with
  | .error c => pure (.complaint c)
  | .ok s =>
    match ← locked s i.command with
    | .error c => pure (.complaint c)
    | .ok r => pure (.report i.common.json r)

/-- Carries out the words of a command line, without the name of the program. -/
def execute (words : List String) : CliProg Ending :=
  match parse words with
  | .error reason => pure (.usage reason)
  | .ok i => i.run

end Invocation

end Provision
