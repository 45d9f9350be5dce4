import Provision.Engine.Goal
import Provision.Error
import Provision.Toml.Reader

/-!
# Settings

The settings of runs: a TOML document of four sections, in which every key and
every section may be missing.  Keys that are not known are passed over, but a
number under one of them still has to be in range.

Main results:

- `Settings.validate_eq_ok_iff`: the settings that are valid.
- `Settings.validate_eq_error`: a setting that is refused is named by its key.
- `Settings.ofReply_eq_error`: a document that gives no settings is named by its path.
-/

namespace Provision

/-- The settings of runs. -/
structure Settings where
  /-- The driver that devices are handed to. -/
  target : String := "vfio-pci"
  /-- The drivers that hand a device to user space. -/
  passthrough : List String := ["vfio-pci", "uio_pci_generic", "igb_uio"]
  /-- Whether user space may drive devices without an IOMMU. -/
  noIommu : Bool := false
  filter : DeviceFilter := .network
  /-- How many devices at the beginning of the listing stay with the host. -/
  reserveLeading : Nat := 1
  pages : Reservation := ⟨2048, none, 1024, none, ⟨"/mnt/huge"⟩⟩
  lockPath : HostPath := ⟨"/run/nicprep.lock"⟩
  /-- The directory of the durable records. -/
  stateDir : HostPath := ⟨"/var/lib/nicprep"⟩
  /-- The deadline of a setup in seconds. -/
  timeout : Option Nat := none
  /-- The directory that takes the place of the root of the host. -/
  root : HostPath := ⟨"/"⟩
  deriving DecidableEq, Inhabited

namespace Settings

/-- The policy that the settings give. -/
def policy (s : Settings) : Policy := ⟨s.filter, s.reserveLeading, s.passthrough, s.timeout⟩

/-! ## Validity -/

/-- The rule for the driver: one of those that hand devices to user space. -/
def validateDriver (s : Settings) : Except Error Unit :=
  if (Text.trimChars s.target.toList).isEmpty then
    .error (.invalidConfig "driver.target" "must not be empty")
  else if s.target ∈ s.passthrough then .ok ()
  else
    .error (.invalidConfig "driver.target"
      ("'" ++ s.target ++ "' is not listed in driver.passthrough_drivers"))

/-- Whether the fewest pages that will do are not more than are asked for. -/
def minimumFits (r : Reservation) : Bool := r.minCount.all (· ≤ r.count)

/-- The rules that settings have to obey, in the order in which they are looked at. -/
def validate (s : Settings) : Except Error Unit :=
  if s.pages.pageKb = 0 then .error (.invalidConfig "hugepages.page_size_kb" "must be > 0")
  else if s.pages.count = 0 then .error (.invalidConfig "hugepages.count" "must be > 0")
  else if minimumFits s.pages then validateDriver s
  else
    .error (.invalidConfig "hugepages.min_count"
      (toString s.pages.required ++ " exceeds count " ++ toString s.pages.count))

/-- The settings that are valid. -/
theorem validate_eq_ok_iff {s : Settings} :
    s.validate = .ok () ↔
      s.pages.pageKb ≠ 0 ∧ s.pages.count ≠ 0 ∧ (∀ n ∈ s.pages.minCount, n ≤ s.pages.count) ∧
        Text.trimChars s.target.toList ≠ [] ∧ s.target ∈ s.passthrough := by
  have fits : minimumFits s.pages = true ↔ ∀ n ∈ s.pages.minCount, n ≤ s.pages.count := by
    simp [minimumFits, Option.all_eq_true]
  have named : (Text.trimChars s.target.toList).isEmpty = true ↔
      Text.trimChars s.target.toList = [] := List.isEmpty_iff
  rw [← fits]
  unfold validate validateDriver
  constructor
  · intro h
    repeat' split at h
    all_goals try contradiction
    exact ⟨‹_›, ‹_›, ‹_›, fun blank => absurd (named.2 blank) ‹_›, ‹_›⟩
  · rintro ⟨pageKb, count, minimum, target, listed⟩
    simp [pageKb, count, minimum, named, target, listed]

/-- A setting that is refused is named by its key. -/
theorem validate_eq_error {s : Settings} {e : Error} (h : s.validate = .error e) :
    ∃ key ∈ ["hugepages.page_size_kb", "hugepages.count", "hugepages.min_count", "driver.target"],
      ∃ reason, e = .invalidConfig key reason := by
  unfold validate validateDriver at h
  -- a case for each rule that is broken, and one where none is
  repeat' split at h
  all_goals cases h
  all_goals exact ⟨_, by simp, _, rfl⟩

/-- The settings without a document are valid. -/
example : validate {} = .ok () := by rfl

/-! ## Reading -/

/-- The values of a section, by key. -/
abbrev Fields := String → Option Toml

/-- Whether the numbers under the keys that are passed over are in range. -/
def othersInRange (keys : List String) (fields : List (String × Toml)) : Bool :=
  fields.all fun f => keys.contains f.1 || f.2.inRange

/-- The values of a section whose keys are given in order.  A section is a table; an array gives
its values in the order of the keys, and a date gives none. -/
def fields? (keys : List String) : Toml → Option Fields
  | .table fields =>
    if othersInRange keys fields then some fun key => List.lookup key fields else none
  | .array items => some fun key => List.lookup key (keys.zip items)
  | .dateTime => some fun _ => none
  | _ => none

/-- A value that may be missing. -/
def field? {α : Type} (f : Fields) (key : String) (convert : Toml → Option α) (default : α) :
    Option α :=
  match f key with
  | none => some default
  | some v => convert v

/-- The text of a value. -/
def text? : Toml → Option String
  | .string s => some s
  | _ => none

/-- The path that a value spells. -/
def path? (v : Toml) : Option HostPath := (text? v).map HostPath.mk

/-- The truth value of a value. -/
def bool? : Toml → Option Bool
  | .boolean b => some b
  | _ => none

/-- The number of a value, if it is below a limit. -/
def number? (limit : Nat) : Toml → Option Nat
  | .integer (.ofNat n) => if n < limit then some n else none
  | _ => none

/-- The texts of an array. -/
def texts? : Toml → Option (List String)
  | .array items => items.mapM text?
  | _ => none

/-- Reads the section about the driver. -/
def readDriver (v : Toml) (s : Settings) : Option Settings := do
  let f ← fields? ["target", "passthrough_drivers", "no_iommu"] v
  some { s with
    target := ← field? f "target" text? s.target
    passthrough := ← field? f "passthrough_drivers" texts? s.passthrough
    noIommu := ← field? f "no_iommu" bool? s.noIommu }

/-- Reads the section about devices. -/
def readDevices (v : Toml) (s : Settings) : Option Settings := do
  let f ← fields? ["class", "vendor", "device", "reserve_leading"] v
  let deviceClass ← field? f "class" (fun v => (text? v).map some) s.filter.deviceClass
  let vendor ← field? f "vendor" (fun v => (text? v).map some) s.filter.vendor
  let device ← field? f "device" (fun v => (text? v).map some) s.filter.device
  some { s with
    filter := ⟨deviceClass, vendor, device⟩
    reserveLeading := ← field? f "reserve_leading" (number? Numeral.word) s.reserveLeading }

/-- Reads the section about huge pages. -/
def readPages (v : Toml) (s : Settings) : Option Settings := do
  let f ← fields? ["page_size_kb", "count", "min_count", "node", "mount_path"] v
  let pageKb ← field? f "page_size_kb" (number? Numeral.word) s.pages.pageKb
  let count ← field? f "count" (number? Numeral.word) s.pages.count
  let minCount ← field? f "min_count" (fun v => (number? Numeral.word v).map some) s.pages.minCount
  let node ← field? f "node" (fun v => (number? Numeral.halfWord v).map some) s.pages.node
  let mountPath ← field? f "mount_path" path? s.pages.mountPath
  some { s with pages := ⟨pageKb, node, count, minCount, mountPath⟩ }

/-- Reads the section about runs. -/
def readRun (v : Toml) (s : Settings) : Option Settings := do
  let f ← fields? ["lock_path", "state_dir", "timeout_secs", "sysfs_root"] v
  some { s with
    lockPath := ← field? f "lock_path" path? s.lockPath
    stateDir := ← field? f "state_dir" path? s.stateDir
    timeout := ← field? f "timeout_secs" (fun v => (number? Numeral.word v).map some) s.timeout
    root := ← field? f "sysfs_root" path? s.root }

/-- Reads a section, if it is there. -/
def readSection? (fields : List (String × Toml)) (key : String)
    (read : Toml → Settings → Option Settings) (s : Settings) : Option Settings :=
  match List.lookup key fields with
  | none => some s
  | some v => read v s

/-- The names of the sections. -/
def sectionNames : List String := ["driver", "devices", "hugepages", "run"]

/-- Reads the sections of a document. -/
def readSections (fields : List (String × Toml)) : Option Settings := do
  let s ← readSection? fields "driver" readDriver {}
  let s ← readSection? fields "devices" readDevices s
  let s ← readSection? fields "hugepages" readPages s
  readSection? fields "run" readRun s

/-- The settings that a document holds. -/
def ofToml? (fields : List (String × Toml)) : Option Settings :=
  if othersInRange sectionNames fields then readSections fields else none

/-- The settings that a text holds. -/
def parse? (s : String) : Option Settings := do ofToml? (← Toml.parse? s)

/-- The settings that reading the document at a path gives; a missing document stands for the
default ones. -/
def ofReply (path : HostPath) : Except OsError String → Except Error Settings
  | .ok text =>
    match parse? text with
    | some s => .ok s
    | none =>
      .error (.invalidConfig path.text "Failed to parse config file: malformed document")
  | .error (.errno 2) => .ok {}
  | .error e => .error (.io path e)

/-- A document that gives no settings is named by its path. -/
theorem ofReply_eq_error {path : HostPath} {reply : Except OsError String} {e : Error}
    (h : ofReply path reply = .error e) : e.entity = some path.text := by
  unfold ofReply at h
  split at h
  · split at h <;> cases h
    rfl
  · cases h
  · cases h
    rfl

end Settings

end Provision
