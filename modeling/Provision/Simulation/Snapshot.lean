import Provision.Simulation.Host
import Provision.Text.Quoted

/-!
# Snapshots

The state of a simulated host at one moment, and a report of what differs between
two of them.  Texts are shown in their quoted form.

Main results:

- `Snapshot.differences_self`: a snapshot does not differ from itself.
-/

namespace Provision

/-- The state of a simulated host at one moment. -/
structure Snapshot where
  mounts : PathMap Unit
  /-- The reserved pages. -/
  pools : SortedMap Pool Nat
  modules : SortedMap String ModuleState
  drivers : SortedMap PciAddress (Option String)
  homes : SortedMap PciAddress String
  deriving DecidableEq, Inhabited

/-- The state of a simulated host now. -/
def SimHost.snapshot (h : SimHost) : Snapshot where
  mounts := h.mounts
  pools := h.pools.mapValues (·.reserved)
  modules := h.modules
  drivers := SortedMap.ofList (h.devices.map fun d => (d.address, d.driver))
  homes := h.homes

namespace Snapshot

/-! ## Values in quoted form -/

/-- A pool, in quoted form. -/
def showPool (p : Pool) : String :=
  "(" ++ toString p.pageKb ++ ", " ++ Quoted.option toString p.node ++ ")"

/-- An address, in quoted form. -/
def showAddress (a : PciAddress) : String := "BusAddress(" ++ Quoted.text (toString a) ++ ")"

/-- A driver that may be missing, in quoted form. -/
def showDriver (driver : Option String) : String := Quoted.option Quoted.text driver

/-- Mounts, in quoted form. -/
def showMounts (m : PathMap Unit) : String :=
  Quoted.braces (m.values.map fun (path, _) => Quoted.text path.text)

/-- Page counts, in quoted form. -/
def showPools (m : SortedMap Pool Nat) : String :=
  Quoted.braces (m.entries.map fun (pool, count) => showPool pool ++ ": " ++ toString count)

/-- Records, in quoted form. -/
def showHomes (m : SortedMap PciAddress String) : String :=
  Quoted.braces (m.entries.map fun (a, driver) => showAddress a ++ ": " ++ Quoted.text driver)

/-- What was, and what is instead. -/
def change (what before after : String) : String := what ++ ": " ++ before ++ " -> " ++ after

/-! ## Differences -/

/-- The mounts by what they are compared by. -/
def mountKeys (s : Snapshot) : List (List String) := s.mounts.keys

/-- The devices of `a` that are bound otherwise in `b`, where a missing device counts as one that
is not bound. -/
def driverDifferences (a b : Snapshot) : List String :=
  a.drivers.entries.filterMap fun (address, driver) =>
    let now := (b.drivers.get? address).join
    if driver = now then none
    else some (change (toString address) (showDriver driver) (showDriver now))

/-- What differs between a snapshot and a later one. -/
def differences (a b : Snapshot) : List String :=
  (if a.mountKeys = b.mountKeys then []
    else [change "mounts" (showMounts a.mounts) (showMounts b.mounts)]) ++
  (if a.pools = b.pools then []
    else [change "hugepages" (showPools a.pools) (showPools b.pools)]) ++
  (if a.modules = b.modules then []
    else [change "modules" (Quoted.braces (a.modules.keys.map Quoted.text))
      (Quoted.braces (b.modules.keys.map Quoted.text))]) ++
  driverDifferences a b ++
  (if a.homes = b.homes then []
    else [change "original drivers" (showHomes a.homes) (showHomes b.homes)])

/-- A snapshot does not differ from itself. -/
theorem differences_self (a : Snapshot) : a.differences a = [] := by
  simp only [differences, driverDifferences, ↓reduceIte, List.nil_append, List.append_nil,
    List.filterMap_eq_nil_iff]
  intro e he
  simp [SortedMap.get?_of_mem he]

end Snapshot

end Provision
