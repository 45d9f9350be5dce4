import Provision.Os.Call
import Provision.Pci.Listing
import Provision.Shell.CommandLine
import Provision.Store.Call
import Provision.Sysfs.Metadata

/-!
# Host resources through the files of the kernel

The calls on host resources, made of file operations below a root directory and of
command lines.  The durable records are kept in a document in a directory of their
own, which is replaced as a whole whenever it changes.
-/

namespace Provision

/-- Where the files of a host are. -/
structure Sysfs where
  /-- The directory that takes the place of the root of the host. -/
  root : HostPath
  /-- The directory of the document of records. -/
  stateDir : HostPath
  deriving DecidableEq, Inhabited

namespace Sysfs

/-! ## Paths -/

/-- A path of the host, below the root directory. -/
def hostPath (s : Sysfs) (p : HostPath) : HostPath := s.root.join p.dropRoot

/-- The file that holds the page count of a pool. -/
def poolPath (s : Sysfs) (p : Pool) : HostPath :=
  let base := match p.node with
    | some n => s.root.child ("sys/devices/system/node/node" ++ toString n ++ "/hugepages")
    | none => s.root.child "sys/kernel/mm/hugepages"
  (base.child ("hugepages-" ++ toString p.pageKb ++ "kB")).child "nr_hugepages"

/-- The directory of a device. -/
def devicePath (s : Sysfs) (a : PciAddress) : HostPath :=
  (s.root.child "sys/bus/pci/devices").child (toString a)

/-- The file that ties a device to one driver. -/
def overridePath (s : Sysfs) (a : PciAddress) : HostPath := (s.devicePath a).child "driver_override"

/-- The directory of a driver. -/
def driverPath (s : Sysfs) (driver : String) : HostPath :=
  (s.root.child "sys/bus/pci/drivers").child driver

/-- The directory of a module. -/
def modulePath (s : Sysfs) (name : String) : HostPath :=
  (s.root.child "sys/module").child (KernelModule.normalize name)

/-- The table of mounts. -/
def mountsPath (s : Sysfs) : HostPath := s.root.child "proc/mounts"

/-- The document of records. -/
def metadataPath (s : Sysfs) : HostPath := s.stateDir.child "devices.json"

/-- The file that the document is written to before it replaces the old one. -/
def draftPath (s : Sysfs) : HostPath := ⟨s.metadataPath.text ++ ".tmp"⟩

/-! ## Files -/

/-- A failed file operation, as an error about a resource. -/
def fileError (operation : String) (p : HostPath) (e : OsError) : Error :=
  .store operation p.text e.message

/-- A call whose failure is an error about a resource. -/
def attempt {α : Type} (operation : String) (p : HostPath) (call : OsProg (Except OsError α)) :
    OsM α :=
  ExceptT.mk ((fun reply => reply.mapError (fileError operation p)) <$> call)

/-- Reads a value, without the blanks around it. -/
def readValue (p : HostPath) : OsM String := do
  let s ← attempt "read" p (OsProg.readText p)
  pure (Text.trim s)

/-- Writes a value. -/
def writeValue (p : HostPath) (value : String) : OsM Unit :=
  attempt "write" p (OsProg.call (.writeFile p value))

/-- Makes a program that may fail go on whatever becomes of it. -/
def ignore (p : OsM Unit) : OsM Unit := tryCatch p fun _ => pure ()

/-- Runs a command line that has to succeed. -/
def command (program : String) (arguments : List String) : OsM String :=
  ExceptT.mk (OsProg.runChecked (Shell.commandLine program arguments))

/-! ## Mounts and pages -/

/-- Whether hugetlbfs is mounted. -/
def isMounted (s : Sysfs) (p : HostPath) : OsM Bool := do
  let table ← readValue s.mountsPath
  pure ((Mounts.parse table).any (·.same p))

/-- Mounts hugetlbfs; its directory is made if it is missing. -/
def mount (s : Sysfs) (p : HostPath) (pageKb : Nat) : OsM Unit := do
  let target := s.hostPath p
  attempt "create" target (OsProg.call (.makeDirs target))
  let _ ← command Shell.mount
    ["-t", Mounts.hugetlbfs, "-o", "pagesize=" ++ toString pageKb ++ "K", "nodev", target.text]

/-- Removes a mount. -/
def unmount (s : Sysfs) (p : HostPath) : OsM Unit := do
  let _ ← command Shell.umount [(s.hostPath p).text]

/-- Reads the page count of a pool. -/
def pageCount (s : Sysfs) (p : Pool) : OsM Nat := do
  let raw ← readValue (s.poolPath p)
  match Numeral.read? Numeral.word raw.toList with
  | some n => pure n
  | none => throw (.store "parse" (s.poolPath p).text ("not a page count: '" ++ raw ++ "'"))

/-! ## Modules -/

/-- Reads the parameters of a module that can be read. -/
def readParameters (dir : HostPath) : List String → Parameters → OsProg Parameters
  | [], ps => pure ps
  | name :: rest, ps => do
    match ← (readValue (dir.child name)).run with
    | .ok value => readParameters dir rest (ps.insert name value)
    | .error _ => readParameters dir rest ps

/-- The state of a module whose directory is there. -/
def loadedState (dir : HostPath) (name : String) : OsM ModuleState := do
  let parameters := dir.child "parameters"
  match ← (OsProg.call (.listDir parameters) : OsProg (Except OsError (List String))) with
  | .ok names => do
    let ps ← (readParameters parameters names ∅ : OsProg Parameters)
    pure ⟨KernelModule.normalize name, true, ps⟩
  | .error (.errno 2) => pure ⟨KernelModule.normalize name, true, ∅⟩
  | .error e => throw (fileError "list" parameters e)

/-- The state of a module: it is loaded when it has a directory. -/
def moduleState (s : Sysfs) (name : String) : OsM ModuleState := do
  let dir := s.modulePath name
  match ← (OsProg.call (.leadsToDir dir) : OsProg (Except OsError Bool)) with
  | .ok true => loadedState dir name
  | .ok false | .error (.errno 2) => pure (.absent name)
  | .error e => throw (fileError "stat" dir e)

/-- Loads a module. -/
def loadModule (m : ModuleRequest) : OsM Unit := do
  let _ ← command Shell.modprobe (m.name :: m.arguments)

/-- Unloads a module. -/
def unloadModule (name : String) : OsM Unit := do
  let _ ← command Shell.modprobe ["-r", name]

/-! ## Devices -/

/-- Reads the driver that a device is bound to. -/
def boundDriver (s : Sysfs) (a : PciAddress) : OsM (Option String) := do
  let dir := s.devicePath a
  match ← (OsProg.call (.leadsToDir dir) : OsProg (Except OsError Bool)) with
  | .error (.errno 2) => throw (.noDevice a)
  | .error e => throw (fileError "stat" dir e)
  | .ok _ =>
    let link := dir.child "driver"
    match ← (OsProg.call (.readLink link) : OsProg (Except OsError HostPath)) with
    | .ok target => pure target.fileName?
    | .error (.errno 2) => pure none
    | .error e => throw (fileError "readlink" link e)

/-- Frees a device from the tie to one driver, if that can be done; its binding stays. -/
def clearOverride (s : Sysfs) (a : PciAddress) : OsM Unit :=
  ignore (writeValue (s.overridePath a) "\n")

/-- Unbinds a device from a driver. -/
def unbind (s : Sysfs) (a : PciAddress) (driver : String) : OsM Unit := do
  writeValue ((s.driverPath driver).child "unbind") (toString a)
  s.clearOverride a

/-- Asks a driver to take a device, which it may have done already. -/
def requestBinding (s : Sysfs) (a : PciAddress) (driver : String) : OsM Unit :=
  tryCatch (writeValue ((s.driverPath driver).child "bind") (toString a)) fun e => do
    let bound ← s.boundDriver a
    if bound = some driver then pure () else throw e

/-- Binds a device to a driver, to which it is tied meanwhile. -/
def bind (s : Sysfs) (a : PciAddress) (driver : String) : OsM Unit := do
  ignore (writeValue (s.overridePath a) driver)
  tryCatch (s.requestBinding a driver) fun e => do
    s.clearOverride a
    throw e
  s.clearOverride a

/-- Lists the devices that match a filter. -/
def listDevices (filter : DeviceFilter) : OsM (List Descriptor) := do
  let listing ← command Shell.lspci ["-Dvmmnk"]
  pure ((Listing.parse listing).filter filter.matchesDevice)

/-! ## Records -/

/-- Reads the document of records; a missing one holds no record. -/
def loadMetadata (s : Sysfs) : OsM Metadata := do
  match ← (OsProg.readText s.metadataPath : OsProg (Except OsError String)) with
  | .ok text =>
    match Metadata.parse? text with
    | some d => pure d
    | none => throw (.store "parse" s.metadataPath.text "malformed document")
  | .error (.errno 2) => pure {}
  | .error e => throw (fileError "read" s.metadataPath e)

/-- Replaces the document of records. -/
def saveMetadata (s : Sysfs) (d : Metadata) : OsM Unit := do
  match s.metadataPath.parent? with
  | some dir => attempt "create" dir (OsProg.call (.makeDirs dir))
  | none => pure ()
  attempt "write" s.draftPath (OsProg.call (.writeFile s.draftPath d.print))
  attempt "rename" s.metadataPath (OsProg.call (.rename s.draftPath s.metadataPath))

/-- The home driver that is on record for a device. -/
def homeDriver (s : Sysfs) (a : PciAddress) : OsM (Option String) := do
  let d ← s.loadMetadata
  pure ((d.get? a).map (·.homeDriver))

/-- Puts the home driver of a device on record. -/
def setHome (s : Sysfs) (a : PciAddress) (driver : String) : OsM Unit := do
  let d ← s.loadMetadata
  let time ← (OsProg.call .timestamp : OsProg String)
  s.saveMetadata (d.record a ⟨driver, time⟩)

/-- Removes the record of a device; without one the document is left alone. -/
def clearHome (s : Sysfs) (a : PciAddress) : OsM Unit := do
  let d ← s.loadMetadata
  if (d.get? a).isSome then s.saveMetadata (d.forget a) else pure ()

/-- The home drivers that are on record. -/
def recordedDevices (s : Sysfs) : OsM (SortedMap PciAddress String) := do
  let d ← s.loadMetadata
  pure d.drivers

/-! ## Calls -/

/-- A call on a host resource, as a program of calls to the operating system. -/
def serve (s : Sysfs) : (c : StoreCall) → OsProg c.Reply
  | .isMounted p => (s.isMounted p).run
  | .mount p pageKb => (s.mount p pageKb).run
  | .unmount p => (s.unmount p).run
  | .pageCount p => (s.pageCount p).run
  | .setPageCount p count => (writeValue (s.poolPath p) (toString count)).run
  | .moduleState name => (s.moduleState name).run
  | .loadModule m => (loadModule m).run
  | .unloadModule name => (unloadModule name).run
  | .boundDriver a => (s.boundDriver a).run
  | .unbind a driver => (s.unbind a driver).run
  | .bind a driver => (s.bind a driver).run
  | .listDevices filter => (listDevices filter).run
  | .homeDriver a => (s.homeDriver a).run
  | .setHome a driver => (s.setHome a driver).run
  | .clearHome a => (s.clearHome a).run
  | .recordedDevices => s.recordedDevices.run

end Sysfs

end Provision
