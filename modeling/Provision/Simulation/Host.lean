import Provision.Engine.Host

/-!
# A simulated host

A host that is a value.  Devices stay bound until they are unbound, a bound device
cannot be bound again, a pool grants pages up to its capacity, and only modules
that are available can be loaded.  Faults are switched on one by one.

Main results:

- `SimHost.find?_moveDevice_of_ne`: moving a device leaves the others where they are.
- `SimHost.setPages_reserved_le`: a pool never holds more than its capacity.
-/

namespace Provision

/-- The pages of a pool, and the most that it will ever grant. -/
structure SimPool where
  reserved : Nat
  capacity : Nat
  deriving DecidableEq, Inhabited

/-- What fails on a simulated host. -/
structure SimFaults where
  /-- The modules that cannot be loaded. -/
  moduleLoad : SortedSet String := ∅
  mount : Bool := false
  /-- The devices that cannot be unbound. -/
  unbind : SortedSet PciAddress := ∅
  /-- The devices that cannot be bound to a driver. -/
  bind : List (PciAddress × String) := []
  listing : Bool := false
  poolReads : Bool := false
  deriving DecidableEq, Inhabited

/-- A simulated host. -/
structure SimHost where
  mounts : PathMap Unit := ∅
  pools : SortedMap Pool SimPool := ∅
  /-- The loaded modules, by normalized name. -/
  modules : SortedMap String ModuleState := ∅
  /-- The normalized names of the modules that can be loaded. -/
  available : SortedSet String := ∅
  /-- The devices in the order in which they are listed. -/
  devices : List Descriptor := []
  homes : SortedMap PciAddress String := ∅
  faults : SimFaults := {}
  /-- The calls that changed a resource, the oldest first. -/
  changes : List StoreCall := []
  deriving DecidableEq, Inhabited

namespace SimHost

/-! ## Building -/

/-- Adds a device at the end of the listing. -/
def addDevice (d : Descriptor) (h : SimHost) : SimHost := { h with devices := h.devices ++ [d] }

/-- Adds an Ethernet controller at the end of the listing. -/
def addNic (a : PciAddress) (driver : Option String) (h : SimHost) : SimHost :=
  h.addDevice ⟨a, "0200", "8086", "100f", driver⟩

/-- Makes a module loadable. -/
def addAvailable (name : String) (h : SimHost) : SimHost :=
  { h with available := h.available.add (KernelModule.normalize name) }

/-- The state of a module that was loaded with parameters. -/
def loadedModule (name : String) (parameters : Parameters) : ModuleState :=
  ⟨KernelModule.normalize name, true, parameters⟩

/-- Adds a module that is loaded. -/
def addLoaded (name : String) (parameters : Parameters) (h : SimHost) : SimHost :=
  { h with
    available := h.available.add (KernelModule.normalize name)
    modules := h.modules.insert (KernelModule.normalize name) (loadedModule name parameters) }

/-- Adds a pool. -/
def addPool (p : Pool) (reserved capacity : Nat) (h : SimHost) : SimHost :=
  { h with pools := h.pools.insert p ⟨reserved, capacity⟩ }

/-- Adds a mount. -/
def addMount (path : HostPath) (h : SimHost) : SimHost := { h with mounts := h.mounts.put path () }

/-- Adds a durable record. -/
def addHome (a : PciAddress) (driver : String) (h : SimHost) : SimHost :=
  { h with homes := h.homes.insert a driver }

/-- Makes the loading of a module fail. -/
def failModuleLoad (name : String) (h : SimHost) : SimHost :=
  { h with
    faults := { h.faults with
      moduleLoad := h.faults.moduleLoad.add (KernelModule.normalize name) } }

/-- Makes the unbinding of a device fail. -/
def failUnbind (a : PciAddress) (h : SimHost) : SimHost :=
  { h with faults := { h.faults with unbind := h.faults.unbind.add a } }

/-- Makes the binding of a device to a driver fail. -/
def failBind (a : PciAddress) (driver : String) (h : SimHost) : SimHost :=
  { h with faults := { h.faults with bind := (a, driver) :: h.faults.bind } }

/-- Makes every mount fail. -/
def failMount (h : SimHost) : SimHost := { h with faults := { h.faults with mount := true } }

/-- Makes the listing of devices fail. -/
def failListing (h : SimHost) : SimHost := { h with faults := { h.faults with listing := true } }

/-- Makes every reading of a pool fail. -/
def failPoolReads (h : SimHost) : SimHost :=
  { h with faults := { h.faults with poolReads := true } }

/-! ## Devices -/

/-- The first device of the listing with an address. -/
def find? (h : SimHost) (a : PciAddress) : Option Descriptor :=
  h.devices.find? (·.address == a)

/-- Sets the driver of the first device with an address. -/
def moveDevice (a : PciAddress) (driver : Option String) : List Descriptor → List Descriptor
  | [] => []
  | d :: ds =>
    if d.address == a then { d with driver := driver } :: ds else d :: moveDevice a driver ds

/-- Binds a device to a driver, or to none, whatever it is bound to. -/
def setDriver (a : PciAddress) (driver : Option String) (h : SimHost) : SimHost :=
  { h with devices := moveDevice a driver h.devices }

/-- The driver of a device; none also when the device is not there. -/
def driverOf (h : SimHost) (a : PciAddress) : Option String := (h.find? a).bind (·.driver)

/-- The pages that are reserved in a pool; zero also when the pool is not there. -/
def reservedPages (h : SimHost) (p : Pool) : Nat := ((h.pools.get? p).map (·.reserved)).getD 0

/-- Whether hugetlbfs is mounted. -/
def isMounted (h : SimHost) (path : HostPath) : Bool := h.mounts.contains path.key

/-- Whether a module is loaded. -/
def isLoaded (h : SimHost) (name : String) : Bool :=
  h.modules.contains (KernelModule.normalize name)

/-- Moving a device leaves the others where they are. -/
theorem find?_moveDevice_of_ne {a b : PciAddress} (driver : Option String) (ds : List Descriptor)
    (ne : b ≠ a) : (moveDevice a driver ds).find? (·.address == b) = ds.find? (·.address == b) := by
  induction ds with
  | nil => rfl
  | cons d ds ih =>
    by_cases hd : d.address = a
    · have hb : ¬ a = b := fun e => ne e.symm
      simp [moveDevice, hd, hb]
    · by_cases hb : d.address = b <;> simp [moveDevice, hd, hb, ih, ne]

/-! ## Calls -/

/-- The name by which a pool is written to. -/
def poolFile (p : Pool) : String :=
  match p.node with
  | some n => "node" ++ toString n ++ "/hugepages-" ++ toString p.pageKb ++ "kB"
  | none => "hugepages-" ++ toString p.pageKb ++ "kB"

/-- A changing call as it stands in the list of changes. -/
def describe : StoreCall → String
  | .mount path pageKb => "mount " ++ path.text ++ " pagesize=" ++ toString pageKb ++ "K"
  | .unmount path => "umount " ++ path.text
  | .setPageCount pool count => poolFile pool ++ "=" ++ toString count
  | .loadModule request => "modprobe " ++ toString request
  | .unloadModule name => "modprobe -r " ++ name
  | .unbind a driver => "unbind " ++ toString a ++ " " ++ driver
  | .bind a driver => "bind " ++ toString a ++ " " ++ driver
  | _ => ""

/-- Notes a call that changed a resource. -/
def note (c : StoreCall) (h : SimHost) : SimHost := { h with changes := h.changes ++ [c] }

/-- Mounts hugetlbfs. -/
def mount (path : HostPath) (pageKb : Nat) (h : SimHost) : Except Error Unit × SimHost :=
  if h.faults.mount then
    (.error (.commandFailed ("mount -t hugetlbfs " ++ path.text) 32 "mount: permission denied"), h)
  else (.ok (), (h.addMount path).note (.mount path pageKb))

/-- Removes a mount. -/
def unmount (path : HostPath) (h : SimHost) : Except Error Unit × SimHost :=
  if h.isMounted path then
    (.ok (), { h with mounts := h.mounts.erase path.key }.note (.unmount path))
  else (.error (.store "umount" path.text "not mounted"), h)

/-- Reads the pages of a pool. -/
def readPages (p : Pool) (h : SimHost) : Except Error Nat :=
  if h.faults.poolReads then .error (.store "read" (poolFile p) "Input/output error")
  else
    match h.pools.get? p with
    | some pool => .ok pool.reserved
    | none => .error (.store "read" (poolFile p) "No such file")

/-- Asks a pool for pages. -/
def setPages (p : Pool) (count : Nat) (h : SimHost) : Except Error Unit × SimHost :=
  match h.pools.get? p with
  | some pool =>
    (.ok (), { h with
      pools := h.pools.insert p { pool with reserved := min count pool.capacity }
      }.note (.setPageCount p count))
  | none => (.error (.store "write" (poolFile p) "No such file"), h)

/-- A pool never holds more than its capacity after it was asked for pages. -/
theorem setPages_reserved_le {p : Pool} {count : Nat} {h h' : SimHost} {pool : SimPool}
    (set : setPages p count h = (.ok (), h')) (found : h'.pools.get? p = some pool) :
    pool.reserved ≤ pool.capacity := by
  unfold setPages at set
  split at set
  · simp only [Prod.mk.injEq, true_and] at set
    subst set
    simp only [note, SortedMap.get?_insert_self, Option.some.injEq] at found
    subst found
    exact Nat.min_le_right ..
  · simp at set

/-- The state of a module. -/
def readModule (name : String) (h : SimHost) : ModuleState :=
  (h.modules.get? (KernelModule.normalize name)).getD (.absent name)

/-- Loads a module. -/
def loadModule (m : ModuleRequest) (h : SimHost) : Except Error Unit × SimHost :=
  let name := KernelModule.normalize m.name
  if h.faults.moduleLoad.contains name || !h.available.contains name then
    (.error (.commandFailed ("modprobe " ++ toString m) 1
      ("modprobe: FATAL: Module " ++ m.name ++ " not found")), h)
  else
    (.ok (), { h with
      modules := h.modules.insert name (loadedModule name m.parameters) }.note (.loadModule m))

/-- Unloads a module. -/
def unloadModule (name : String) (h : SimHost) : Except Error Unit × SimHost :=
  if h.isLoaded name then
    (.ok (), { h with
      modules := h.modules.erase (KernelModule.normalize name) }.note (.unloadModule name))
  else (.error (.store "modprobe -r" name "not loaded"), h)

/-- Reads the driver of a device. -/
def readDriver (a : PciAddress) (h : SimHost) : Except Error (Option String) :=
  match h.find? a with
  | some d => .ok d.driver
  | none => .error (.noDevice a)

/-- Unbinds a device from a driver. -/
def unbind (a : PciAddress) (driver : String) (h : SimHost) : Except Error Unit × SimHost :=
  if h.faults.unbind.contains a then
    (.error (.store "unbind" (toString a) "Device or resource busy"), h)
  else
    match h.find? a with
    | none => (.error (.noDevice a), h)
    | some d =>
      if d.driver = some driver then (.ok (), (h.setDriver a none).note (.unbind a driver))
      else (.error (.store "unbind" (toString a) ("not bound to " ++ driver)), h)

/-- Binds a device to a driver. -/
def bind (a : PciAddress) (driver : String) (h : SimHost) : Except Error Unit × SimHost :=
  if (a, driver) ∈ h.faults.bind then (.error (.store "bind" (toString a) "No such device"), h)
  else
    match h.find? a with
    | none => (.error (.noDevice a), h)
    | some d =>
      if d.driver.isSome then
        (.error (.store "bind" (toString a) "Device or resource busy"), h)
      else (.ok (), (h.setDriver a (some driver)).note (.bind a driver))

/-- Lists the devices that match a filter. -/
def listDevices (filter : DeviceFilter) (h : SimHost) : Except Error (List Descriptor) :=
  if h.faults.listing then
    .error (.commandFailed "lspci -Dvmmnk" 127 "lspci: command not found")
  else .ok (h.devices.filter filter.matchesDevice)

/-- How a simulated host answers calls. -/
def answer : StoreHandler SimHost
  | .isMounted path, h => (.ok (h.isMounted path), h)
  | .mount path pageKb, h => h.mount path pageKb
  | .unmount path, h => h.unmount path
  | .pageCount p, h => (h.readPages p, h)
  | .setPageCount p count, h => h.setPages p count
  | .moduleState name, h => (.ok (h.readModule name), h)
  | .loadModule m, h => h.loadModule m
  | .unloadModule name, h => h.unloadModule name
  | .boundDriver a, h => (h.readDriver a, h)
  | .unbind a driver, h => h.unbind a driver
  | .bind a driver, h => h.bind a driver
  | .listDevices filter, h => (h.listDevices filter, h)
  | .homeDriver a, h => (.ok (h.homes.get? a), h)
  | .setHome a driver, h => (.ok (), { h with homes := h.homes.insert a driver })
  | .clearHome a, h => (.ok (), { h with homes := h.homes.erase a })
  | .recordedDevices, h => (.ok h.homes, h)

end SimHost

end Provision
