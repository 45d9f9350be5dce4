import Provision.Cli.Options
import Provision.Settings

/-!
# Arguments

The commands of the program with their options, how they are read from the words
of a command line, and how they override the settings.

The words of a command line are Unicode text.  A word that is not, such as a path to mount
at whose bytes spell no text, is none of the inputs that are described here.

Main results:

- `Invocation.parse_command`: the command is read from the last words of a command line.
- `Settings.override_override`: options override the settings once and for all.
- `Settings.overrideSetup_default`: options that are not given override nothing.
-/

namespace Provision

/-- The options that choose devices. -/
structure FilterOptions where
  deviceClass : Option String := none
  vendor : Option String := none
  deriving DecidableEq, Inhabited

/-- The options of a setup. -/
structure SetupOptions where
  driver : Option String := none
  devices : List PciAddress := []
  filter : FilterOptions := {}
  reserveLeading : Option Nat := none
  /-- The most devices that are taken when none is named. -/
  maxDevices : Option Nat := none
  count : Option Nat := none
  minCount : Option Nat := none
  pageKb : Option Nat := none
  node : Option Nat := none
  mountPath : Option HostPath := none
  noIommu : Bool := false
  timeout : Option Nat := none
  /-- Whether only the plan is asked for. -/
  dryRun : Bool := false
  deriving DecidableEq, Inhabited

/-- The options of a teardown. -/
structure TeardownOptions where
  devices : List PciAddress := []
  filter : FilterOptions := {}
  /-- Whether only the plan is asked for. -/
  dryRun : Bool := false
  deriving DecidableEq, Inhabited

/-- A command with its options. -/
inductive Command
  | setup (o : SetupOptions)
  | teardown (o : TeardownOptions)
  | status (o : FilterOptions)
  deriving DecidableEq, Inhabited

/-- The options that stand before a command. -/
structure CommonOptions where
  settingsPath : HostPath := ⟨"/etc/nicprep/nicprep.toml"⟩
  logLevel : String := "info"
  /-- Whether reports are printed as JSON. -/
  json : Bool := false
  deriving DecidableEq, Inhabited

/-- What a command line asks for. -/
structure Invocation where
  common : CommonOptions
  command : Command
  deriving DecidableEq, Inhabited

/-! ## Values of options -/

namespace OptionValue

variable {α : Type}

/-- A text. -/
def text (set : String → α → α) : OptionAction α := .value fun s a => .ok (set s a)

/-- A path, which must not be empty. -/
def path (set : HostPath → α → α) : OptionAction α :=
  .value fun s a => if s.isEmpty then .error .invalidValue else .ok (set ⟨s⟩ a)

/-- A value that a reader may refuse. -/
def parsed {β : Type} (parse? : String → Option β) (set : β → α → α) : OptionAction α :=
  .value fun s a =>
    match parse? s with
    | some v => .ok (set v a)
    | none => .error .valueValidation

/-- A number below `Numeral.word`. -/
def number (set : Nat → α → α) : OptionAction α :=
  parsed (fun s => Numeral.read? Numeral.word s.toList) set

/-- Reads a number that may have a sign, and has to be natural and below `Numeral.halfWord`. -/
def readNode? (s : String) : Option Nat :=
  match s.toList with
  | '-' :: '+' :: _ => none
  | '-' :: cs => Numeral.read? 1 cs
  | cs => Numeral.read? Numeral.halfWord cs

/-- The number of a node. -/
def node (set : Nat → α → α) : OptionAction α := parsed readNode? set

/-- The address of a device. -/
def address (set : PciAddress → α → α) : OptionAction α := parsed PciAddress.parse? set

end OptionValue

/-! ## Options of the commands -/

/-- The option that asks for help. -/
def helpOption {α : Type} : OptionSpec α := ⟨"help", some 'h', false, .stop .help⟩

namespace CommonOptions

/-- The options that stand before a command. -/
def specs : List (OptionSpec CommonOptions) :=
  [⟨"config", some 'c', false, OptionValue.path fun v o => { o with settingsPath := v }⟩,
    ⟨"log-level", some 'l', false, OptionValue.text fun v o => { o with logLevel := v }⟩,
    ⟨"json", none, false, .flag fun o => { o with json := true }⟩,
    helpOption,
    ⟨"version", some 'V', false, .stop .version⟩]

end CommonOptions

namespace FilterOptions

/-- The options that choose devices, for a command whose options hold them. -/
def specsIn {α : Type} (update : (FilterOptions → FilterOptions) → α → α) : List (OptionSpec α) :=
  [⟨"class", none, false, OptionValue.text fun v =>
      update fun f => { f with deviceClass := some v }⟩,
    ⟨"vendor", none, false, OptionValue.text fun v => update fun f => { f with vendor := some v }⟩]

/-- The options of a status request. -/
def specs : List (OptionSpec FilterOptions) := specsIn (fun f o => f o) ++ [helpOption]

end FilterOptions

namespace SetupOptions

/-- The options of a setup. -/
def specs : List (OptionSpec SetupOptions) :=
  [⟨"driver", none, false, OptionValue.text fun v o => { o with driver := some v }⟩,
    ⟨"device", none, true, OptionValue.address fun v o => { o with devices := o.devices ++ [v] }⟩,
    ⟨"reserve-leading", none, false,
      OptionValue.number fun v o => { o with reserveLeading := some v }⟩,
    ⟨"max-devices", none, false, OptionValue.number fun v o => { o with maxDevices := some v }⟩,
    ⟨"hugepages", none, false, OptionValue.number fun v o => { o with count := some v }⟩,
    ⟨"min-hugepages", none, false, OptionValue.number fun v o => { o with minCount := some v }⟩,
    ⟨"page-size-kb", none, false, OptionValue.number fun v o => { o with pageKb := some v }⟩,
    ⟨"node", none, false, OptionValue.node fun v o => { o with node := some v }⟩,
    ⟨"mount", none, false, OptionValue.path fun v o => { o with mountPath := some v }⟩,
    ⟨"no-iommu", none, false, .flag fun o => { o with noIommu := true }⟩,
    ⟨"timeout-secs", none, false, OptionValue.number fun v o => { o with timeout := some v }⟩,
    ⟨"dry-run", none, false, .flag fun o => { o with dryRun := true }⟩] ++
  FilterOptions.specsIn (fun f o => { o with filter := f o.filter }) ++ [helpOption]

end SetupOptions

namespace TeardownOptions

/-- The options of a teardown. -/
def specs : List (OptionSpec TeardownOptions) :=
  [⟨"device", none, true, OptionValue.address fun v o => { o with devices := o.devices ++ [v] }⟩,
    ⟨"dry-run", none, false, .flag fun o => { o with dryRun := true }⟩] ++
  FilterOptions.specsIn (fun f o => { o with filter := f o.filter }) ++ [helpOption]

end TeardownOptions

/-! ## Command lines -/

namespace Invocation

/-- The name of the command that lists the commands. -/
def helpName : String := "help"

/-- The names that a command line may use as a command. -/
def names : List String := ["setup", "teardown", "status", helpName]

/-- The reason for which a request for help ends: the name after it has to be a command, and
nothing may follow that. -/
def helpStop : List String → UsageStop
  | [] => .help
  | [name] => if name ∈ names then .help else .invalidSubcommand
  | _ => .invalidSubcommand

/-- Reads a command and its options. -/
def readCommand (name : String) (ws : List String) : Except UsageStop Command :=
  if name = helpName then .error (helpStop ws)
  else if name = "setup" then .setup <$> Scan.optionsOnly SetupOptions.specs {} ws
  else if name = "teardown" then .teardown <$> Scan.optionsOnly TeardownOptions.specs {} ws
  else if name = "status" then .status <$> Scan.optionsOnly FilterOptions.specs {} ws
  else .error .invalidSubcommand

/-- Reads a command line, without the name of the program.  Its words are Unicode text. -/
def parse (ws : List String) : Except UsageStop Invocation := do
  let (st, plain) ← Scan.scan CommonOptions.specs false { values := {} } ws
  match plain with
  | none => do
    let st ← st.settle
    throw (if st.seen.isEmpty then .helpOnMissing else .missingSubcommand)
  | some p =>
    if p.escaped then
      throw (if p.word ∈ names then .unknownArgument else .invalidSubcommand)
    else do
      let c ← readCommand p.word p.rest
      let st ← st.settle
      pure ⟨st.values, c⟩

/-- What a request for help prints. -/
def helpText : String :=
  "Prepare NICs and huge pages for kernel-bypass networking\n\n" ++
  "Usage: nicprep [OPTIONS] <COMMAND>\n\n" ++
  "Commands:\n" ++
  "  setup     Reserve huge pages and hand devices to a passthrough driver\n" ++
  "  teardown  Return devices to their original drivers\n" ++
  "  status    Show devices, drivers, huge pages and modules\n" ++
  "  help      Print this message\n"

/-- What a request for the version prints. -/
def versionText : String := "nicprep 0.1.0\n"

/-- A part that has to be read before the others. -/
theorem of_bind_eq_ok {α β : Type} {x : Except UsageStop α} {f : α → Except UsageStop β} {b : β}
    (h : x >>= f = .ok b) : ∃ a, x = .ok a ∧ f a = .ok b := by
  cases x with
  | error e => cases h
  | ok a => exact ⟨a, rfl, h⟩

/-- The command of a command line is read from the last of its words. -/
theorem parse_command {ws : List String} {i : Invocation} (h : parse ws = .ok i) :
    ∃ name rest, name :: rest <:+ ws ∧ readCommand name rest = .ok i.command := by
  obtain ⟨⟨st, plain⟩, scanned, h⟩ := of_bind_eq_ok h
  cases plain with
  | none =>
    obtain ⟨_, _, h⟩ := of_bind_eq_ok h
    cases h
  | some p =>
    refine ⟨p.word, p.rest, Scan.scan_suffix scanned, ?_⟩
    simp only at h
    split at h
    · cases h
    · obtain ⟨c, read, h⟩ := of_bind_eq_ok h
      obtain ⟨_, _, h⟩ := of_bind_eq_ok h
      cases h
      exact read

/-- A command line without words asks for help. -/
example : parse [] = .error .helpOnMissing := by rfl

end Invocation

/-! ## Overriding the settings -/

namespace Settings

/-- The settings with the options that choose devices. -/
def overrideFilter (o : FilterOptions) (s : Settings) : Settings :=
  { s with
    filter := { s.filter with
      deviceClass := o.deviceClass.or s.filter.deviceClass
      vendor := o.vendor.or s.filter.vendor } }

/-- The reservation with the options of a setup. -/
def overridePages (o : SetupOptions) (r : Reservation) : Reservation where
  pageKb := o.pageKb.getD r.pageKb
  node := o.node.or r.node
  count := o.count.getD r.count
  minCount := o.minCount.or r.minCount
  mountPath := o.mountPath.getD r.mountPath

/-- The settings with the options of a setup. -/
def overrideSetup (o : SetupOptions) (s : Settings) : Settings :=
  { overrideFilter o.filter s with
    target := o.driver.getD s.target
    reserveLeading := o.reserveLeading.getD s.reserveLeading
    pages := overridePages o s.pages
    noIommu := s.noIommu || o.noIommu
    timeout := o.timeout.or s.timeout }

/-- The settings with the options of a command. -/
def override (c : Command) (s : Settings) : Settings :=
  match c with
  | .setup o => s.overrideSetup o
  | .teardown o => s.overrideFilter o.filter
  | .status o => s.overrideFilter o

/-- Options override the settings once and for all. -/
theorem override_override (c : Command) (s : Settings) :
    (s.override c).override c = s.override c := by
  have twice {α : Type} (o : Option α) (v : α) : o.getD (o.getD v) = o.getD v := by cases o <;> rfl
  have again {α : Type} (o v : Option α) : o.or (o.or v) = o.or v := by cases o <;> rfl
  cases c <;> simp [override, overrideSetup, overrideFilter, overridePages, twice, again]

/-- Options that are not given override nothing. -/
theorem overrideSetup_default (s : Settings) : s.overrideSetup {} = s := by
  simp [overrideSetup, overrideFilter, overridePages]

end Settings

end Provision
