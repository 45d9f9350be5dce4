import Mathlib.Logic.Function.Basic
import Provision.Proofs.Footprint
import Provision.Simulation.Snapshot

/-!
# The resources of a simulated host

What stands at each resource of a simulated host, and what a call does to it.  A
call that reads and a call that fails leave the host as it is; a call that
succeeds changes its own resource and no other.

Main results:

- `SimHost.answer_of_read`, `SimHost.answer_of_error`: calls without effect.
- `SimHost.view_mount`, `SimHost.view_unmount`, `SimHost.view_setPages`,
  `SimHost.view_loadModule`, `SimHost.view_unloadModule`, `SimHost.view_unbind`,
  `SimHost.view_bind`, `SimHost.view_setHome`, `SimHost.view_clearHome`: what a
  call that succeeds finds, and what it leaves.
- `SimHost.readModule_of_loadModule`, `SimHost.isMounted_setPages`: what is read after a
  change.
- `SimHost.sameMachine_answer`: what no call changes.
- `SimHost.Made.listsLoaded`: every module that a host lists is loaded.
- `SimHost.agreeAt_of_view_eq`: what a snapshot shows of a resource.
-/

namespace Provision

/-- What may stand at a resource. -/
abbrev Resource.Value : Resource → Type
  | .module _ => Option ModuleState
  | .mount _ => Option (HostPath × Unit)
  | .pool _ => Option SimPool
  | .device _ => Option (Option String) × Option String

/-- What stands at the resources of a host. -/
abbrev ResourceView := (r : Resource) → r.Value

namespace SimHost

/-- What stands at a resource; of a device, what it is bound to, if it is there, and its record. -/
def view (h : SimHost) : ResourceView
  | .module name => h.modules.get? name
  | .mount key => h.mounts.get? key
  | .pool p => h.pools.get? p
  | .device a => ((h.find? a).map (·.driver), h.homes.get? a)

/-! ## Calls without effect -/

/-- A call that reads leaves the host as it is. -/
theorem answer_of_read {call : StoreCall} (reads : call.writes = false) (h : SimHost) :
    (answer call h).2 = h := by
  cases call <;> first | rfl | simp [StoreCall.writes] at reads

/-- A call that fails leaves the host as it is. -/
theorem answer_of_error {call : StoreCall} {h : SimHost} {e : Error}
    (failed : (answer call h).1 = .error e) : (answer call h).2 = h := by
  cases call with
  | mount path pageKb =>
    simp only [answer, mount] at failed ⊢
    split at failed
    · next refused => rw [if_pos refused]
    · simp at failed
  | unmount path =>
    simp only [answer, unmount] at failed ⊢
    split at failed
    · simp at failed
    · next absent => rw [if_neg absent]
  | setPageCount p count =>
    simp only [answer, setPages] at failed ⊢
    split at failed
    · simp at failed
    · rfl
  | loadModule m =>
    simp only [answer, loadModule] at failed ⊢
    split at failed
    · next refused => rw [if_pos refused]
    · simp at failed
  | unloadModule name =>
    simp only [answer, unloadModule] at failed ⊢
    split at failed
    · simp at failed
    · next absent => rw [if_neg absent]
  | unbind a driver =>
    simp only [answer, unbind] at failed ⊢
    split at failed
    · next refused => rw [if_pos refused]
    · next allowed =>
      rw [if_neg allowed]
      split at failed
      · rfl
      · split at failed
        · simp at failed
        · next other => rw [if_neg other]
  | bind a driver =>
    simp only [answer, bind] at failed ⊢
    split at failed
    · next refused => rw [if_pos refused]
    · next allowed =>
      rw [if_neg allowed]
      split at failed
      · rfl
      · split at failed
        · next bound => rw [if_pos bound]
        · simp at failed
  | setHome a driver => simp [answer] at failed
  | clearHome a => simp [answer] at failed
  | isMounted path => rfl
  | pageCount p => rfl
  | moduleState name => rfl
  | boundDriver a => rfl
  | listDevices filter => rfl
  | homeDriver a => rfl
  | recordedDevices => rfl

/-! ## Calls with an effect -/

/-- The list of changes is no resource. -/
@[simp]
theorem view_note (c : StoreCall) (h : SimHost) : (h.note c).view = h.view := by
  funext r
  cases r <;> rfl

/-- A device that was bound to another driver is found with that driver. -/
theorem find?_moveDevice_self (a : PciAddress) (driver : Option String) (ds : List Descriptor) :
    (moveDevice a driver ds).find? (·.address == a) =
      (ds.find? (·.address == a)).map fun d => { d with driver := driver } := by
  induction ds with
  | nil => rfl
  | cons d ds ih =>
    by_cases here : d.address = a
    · simp [moveDevice, here]
    · simp [moveDevice, here, ih]

theorem readDriver_of_find? {a : PciAddress} {h : SimHost} {d : Descriptor}
    (found : h.find? a = some d) : h.readDriver a = .ok d.driver := by
  simp only [readDriver, found]

/-- Binding a device to a driver changes nothing else. -/
theorem view_setDriver {a : PciAddress} {driver : Option String} {h : SimHost} {d : Descriptor}
    (found : h.find? a = some d) :
    (h.setDriver a driver).view =
      Function.update h.view (.device a) (some driver, h.homes.get? a) := by
  refine Function.eq_update_iff.2 ⟨?_, fun r other => ?_⟩
  · show (((moveDevice a driver h.devices).find? (·.address == a)).map (·.driver), _) = _
    have there : h.devices.find? (·.address == a) = some d := found
    rw [find?_moveDevice_self, there]
    rfl
  cases r with
  | device b =>
    have ne : b ≠ a := fun e => other (congrArg Resource.device e)
    show (((moveDevice a driver h.devices).find? (·.address == b)).map (·.driver), _) = _
    rw [find?_moveDevice_of_ne driver h.devices ne]
    rfl
  | module name => rfl
  | mount key => rfl
  | pool p => rfl

/-- A mount that succeeds is there. -/
theorem view_mount {path : HostPath} {pageKb : Nat} {h : SimHost}
    (ok : (answer (.mount path pageKb) h).1 = .ok ()) :
    ∃ spelled, (answer (.mount path pageKb) h).2.view =
      Function.update h.view (.mount path.key) (some (spelled, ())) := by
  simp only [answer, mount] at ok ⊢
  split at ok
  · simp at ok
  · next allowed =>
    rw [if_neg allowed]
    refine ⟨((h.mounts.get? path.key).map Prod.fst).getD path, ?_⟩
    rw [view_note]
    refine Function.eq_update_iff.2 ⟨?_, fun r other => ?_⟩
    · exact SortedMap.get?_insert_self ..
    cases r with
    | mount key =>
      have ne : key ≠ path.key := fun e => other (congrArg Resource.mount e)
      exact SortedMap.get?_insert_of_ne _ _ ne
    | module name => rfl
    | pool p => rfl
    | device a => rfl

/-- A mount is removed where there is one. -/
theorem view_unmount {path : HostPath} {h : SimHost}
    (ok : (answer (.unmount path) h).1 = .ok ()) :
    (answer (.unmount path) h).2.view = Function.update h.view (.mount path.key) none := by
  simp only [answer, unmount] at ok ⊢
  split at ok
  · next there =>
    rw [if_pos there, view_note]
    refine Function.eq_update_iff.2 ⟨?_, fun r other => ?_⟩
    · exact SortedMap.get?_erase_self ..
    cases r with
    | mount key =>
      have ne : key ≠ path.key := fun e => other (congrArg Resource.mount e)
      exact SortedMap.get?_erase_of_ne _ ne
    | module name => rfl
    | pool p => rfl
    | device a => rfl
  · simp at ok

/-- A pool that is there grants pages up to its capacity. -/
theorem view_setPages {p : Pool} {count : Nat} {h : SimHost}
    (ok : (answer (.setPageCount p count) h).1 = .ok ()) :
    ∃ pool, h.pools.get? p = some pool ∧ (answer (.setPageCount p count) h).2.view =
      Function.update h.view (.pool p)
        (some { pool with reserved := min count pool.capacity }) := by
  simp only [answer, setPages] at ok ⊢
  split at ok
  · next pool found =>
    refine ⟨pool, found, ?_⟩
    show (SimHost.note _ _).view = _
    rw [view_note]
    refine Function.eq_update_iff.2 ⟨?_, fun r other => ?_⟩
    · exact SortedMap.get?_insert_self ..
    cases r with
    | pool q =>
      have ne : q ≠ p := fun e => other (congrArg Resource.pool e)
      exact SortedMap.get?_insert_of_ne _ _ ne
    | module name => rfl
    | mount key => rfl
    | device a => rfl
  · simp at ok

/-- A module that was loaded carries the requested parameters. -/
theorem view_loadModule {m : ModuleRequest} {h : SimHost}
    (ok : (answer (.loadModule m) h).1 = .ok ()) :
    (answer (.loadModule m) h).2.view =
      Function.update h.view (.module (KernelModule.normalize m.name))
        (some (loadedModule (KernelModule.normalize m.name) m.parameters)) := by
  simp only [answer, loadModule] at ok ⊢
  split at ok
  · simp at ok
  · next allowed =>
    rw [if_neg allowed, view_note]
    refine Function.eq_update_iff.2 ⟨?_, fun r other => ?_⟩
    · exact SortedMap.get?_insert_self ..
    cases r with
    | module name =>
      have ne : name ≠ KernelModule.normalize m.name := fun e =>
        other (congrArg Resource.module e)
      exact SortedMap.get?_insert_of_ne _ _ ne
    | mount key => rfl
    | pool p => rfl
    | device a => rfl

/-- A module that was unloaded is gone. -/
theorem view_unloadModule {name : String} {h : SimHost}
    (ok : (answer (.unloadModule name) h).1 = .ok ()) :
    (answer (.unloadModule name) h).2.view =
      Function.update h.view (.module (KernelModule.normalize name)) none := by
  simp only [answer, unloadModule] at ok ⊢
  split at ok
  · next there =>
    rw [if_pos there, view_note]
    refine Function.eq_update_iff.2 ⟨?_, fun r other => ?_⟩
    · exact SortedMap.get?_erase_self ..
    cases r with
    | module name' =>
      have ne : name' ≠ KernelModule.normalize name := fun e =>
        other (congrArg Resource.module e)
      exact SortedMap.get?_erase_of_ne _ ne
    | mount key => rfl
    | pool p => rfl
    | device a => rfl
  · simp at ok

/-- A device is unbound from the driver that it is bound to. -/
theorem view_unbind {a : PciAddress} {driver : String} {h : SimHost}
    (ok : (answer (.unbind a driver) h).1 = .ok ()) :
    h.readDriver a = .ok (some driver) ∧ (answer (.unbind a driver) h).2.view =
      Function.update h.view (.device a) (some none, h.homes.get? a) := by
  simp only [answer, unbind] at ok ⊢
  split at ok
  · simp at ok
  · next allowed =>
    rw [if_neg allowed]
    split at ok
    · simp at ok
    · next d found =>
      have read : h.readDriver a = .ok d.driver := readDriver_of_find? found
      split at ok
      · next bound =>
        rw [if_pos bound, view_note, ← bound]
        exact ⟨read, view_setDriver found⟩
      · simp at ok

/-- A device that is not bound is bound to a driver. -/
theorem view_bind {a : PciAddress} {driver : String} {h : SimHost}
    (ok : (answer (.bind a driver) h).1 = .ok ()) :
    h.readDriver a = .ok none ∧ (answer (.bind a driver) h).2.view =
      Function.update h.view (.device a) (some (some driver), h.homes.get? a) := by
  simp only [answer, bind] at ok ⊢
  split at ok
  · simp at ok
  · next allowed =>
    rw [if_neg allowed]
    split at ok
    · simp at ok
    · next d found =>
      have read : h.readDriver a = .ok d.driver := readDriver_of_find? found
      split at ok
      · simp at ok
      · next unbound =>
        have free : d.driver = none := by simpa using unbound
        rw [if_neg unbound, view_note, ← free]
        exact ⟨read, view_setDriver found⟩

/-- A record that was written is there. -/
theorem view_setHome (a : PciAddress) (driver : String) (h : SimHost) :
    (answer (.setHome a driver) h).2.view =
      Function.update h.view (.device a) ((h.find? a).map (·.driver), some driver) := by
  refine Function.eq_update_iff.2 ⟨?_, fun r other => ?_⟩
  · exact congrArg (Prod.mk _) (SortedMap.get?_insert_self ..)
  cases r with
  | device b =>
    have ne : b ≠ a := fun e => other (congrArg Resource.device e)
    exact congrArg (Prod.mk _) (SortedMap.get?_insert_of_ne _ _ ne)
  | module name => rfl
  | mount key => rfl
  | pool p => rfl

/-- A record that was cleared is gone. -/
theorem view_clearHome (a : PciAddress) (h : SimHost) :
    (answer (.clearHome a) h).2.view =
      Function.update h.view (.device a) ((h.find? a).map (·.driver), none) := by
  refine Function.eq_update_iff.2 ⟨?_, fun r other => ?_⟩
  · exact congrArg (Prod.mk _) (SortedMap.get?_erase_self ..)
  cases r with
  | device b =>
    have ne : b ≠ a := fun e => other (congrArg Resource.device e)
    exact congrArg (Prod.mk _) (SortedMap.get?_erase_of_ne _ ne)
  | module name => rfl
  | mount key => rfl
  | pool p => rfl

/-- A call changes its own resource and no other. -/
theorem view_answer_of_ne {call : StoreCall} {r : Resource} (other : call.resource? ≠ some r)
    (h : SimHost) : (answer call h).2.view r = h.view r := by
  by_cases reads : call.writes = false
  · rw [answer_of_read reads]
  · cases replied : (answer call h).1 with
    | error e => rw [answer_of_error replied]
    | ok value =>
      cases call with
      | mount path pageKb =>
        obtain ⟨spelled, after⟩ := view_mount replied
        rw [after, Function.update_of_ne fun e => other (congrArg some e.symm)]
      | unmount path =>
        rw [view_unmount replied, Function.update_of_ne fun e => other (congrArg some e.symm)]
      | setPageCount p count =>
        obtain ⟨pool, _, after⟩ := view_setPages replied
        rw [after, Function.update_of_ne fun e => other (congrArg some e.symm)]
      | loadModule m =>
        rw [view_loadModule replied, Function.update_of_ne fun e => other (congrArg some e.symm)]
      | unloadModule name =>
        rw [view_unloadModule replied, Function.update_of_ne fun e => other (congrArg some e.symm)]
      | unbind a driver =>
        rw [(view_unbind replied).2, Function.update_of_ne fun e => other (congrArg some e.symm)]
      | bind a driver =>
        rw [(view_bind replied).2, Function.update_of_ne fun e => other (congrArg some e.symm)]
      | setHome a driver =>
        rw [view_setHome, Function.update_of_ne fun e => other (congrArg some e.symm)]
      | clearHome a =>
        rw [view_clearHome, Function.update_of_ne fun e => other (congrArg some e.symm)]
      | isMounted path => exact absurd rfl reads
      | pageCount p => exact absurd rfl reads
      | moduleState name => exact absurd rfl reads
      | boundDriver a => exact absurd rfl reads
      | listDevices filter => exact absurd rfl reads
      | homeDriver a => exact absurd rfl reads
      | recordedDevices => exact absurd rfl reads

/-! ## Readings -/

/-- The state of a module is read from what stands there. -/
theorem readModule_eq_view (h : SimHost) (name : String) :
    h.readModule name = (h.view (.module (KernelModule.normalize name))).getD (.absent name) := rfl

/-- A module that was just loaded is found as it was requested. -/
theorem readModule_of_loadModule {m : ModuleRequest} {h : SimHost}
    (ok : (answer (.loadModule m) h).1 = .ok ()) :
    (answer (.loadModule m) h).2.readModule m.name =
      loadedModule (KernelModule.normalize m.name) m.parameters := by
  rw [readModule_eq_view, view_loadModule ok, Function.update_self, Option.getD_some]

/-- A module that was just loaded is found loaded. -/
theorem loaded_of_loadModule {m : ModuleRequest} {h : SimHost}
    (ok : (answer (.loadModule m) h).1 = .ok ()) :
    ((answer (.loadModule m) h).2.readModule m.name).loaded = true := by
  rw [readModule_of_loadModule ok]
  rfl

/-- hugetlbfs is mounted where something stands. -/
theorem isMounted_eq_view (h : SimHost) (path : HostPath) :
    h.isMounted path = (h.view (.mount path.key)).isSome := rfl

/-- Asking for pages leaves the mounts alone. -/
theorem isMounted_setPages (h : SimHost) (p : Pool) (count : Nat) (path : HostPath) :
    (answer (.setPageCount p count) h).2.isMounted path = h.isMounted path := by
  have other : StoreCall.resource? (.setPageCount p count) ≠ some (.mount path.key) := by
    simp [StoreCall.resource?]
  rw [isMounted_eq_view, view_answer_of_ne other, isMounted_eq_view]

/-- The driver of a device can be read where the device is there. -/
theorem readDriver_eq_ok_iff {a : PciAddress} {h : SimHost} {driver : Option String} :
    h.readDriver a = .ok driver ↔ (h.view (.device a)).1 = some driver := by
  show h.readDriver a = .ok driver ↔ (h.find? a).map (·.driver) = some driver
  unfold readDriver
  cases h.find? a with
  | none => simp
  | some d => simp

/-- The driver of a device is what stands there. -/
theorem driverOf_eq_view (h : SimHost) (a : PciAddress) :
    h.driverOf a = (h.view (.device a)).1.join := by
  show (h.find? a).bind (·.driver) = ((h.find? a).map (·.driver)).join
  cases h.find? a <;> rfl

/-- A device that can be read is bound to the driver that is read. -/
theorem driverOf_of_read {h : SimHost} {a : PciAddress} {current : Option String}
    (read : h.readDriver a = .ok current) :
    h.driverOf a = current := by
  rw [driverOf_eq_view, readDriver_eq_ok_iff.1 read]
  rfl

/-- The pages of a pool can be read where the pool is there and can be read at all. -/
theorem readPages_eq_ok_iff {p : Pool} {h : SimHost} {n : Nat} :
    h.readPages p = .ok n ↔
      h.faults.poolReads = false ∧ ∃ pool, h.pools.get? p = some pool ∧ pool.reserved = n := by
  unfold readPages
  cases h.faults.poolReads with
  | true => simp
  | false => cases h.pools.get? p <;> simp

/-! ## What no call changes -/

/-- The part of a device that no call changes. -/
def fixedPart (d : Descriptor) : Descriptor := { d with driver := none }

theorem map_fixedPart_moveDevice (a : PciAddress) (driver : Option String)
    (ds : List Descriptor) : (moveDevice a driver ds).map fixedPart = ds.map fixedPart := by
  induction ds with
  | nil => rfl
  | cons d ds ih =>
    by_cases here : d.address = a
    · simp [moveDevice, here, fixedPart]
    · simp [moveDevice, here, ih]

/-- Two states of one machine: the same devices are there, and the same calls fail. -/
structure SameMachine (h h' : SimHost) : Prop where
  faults : h'.faults = h.faults
  devices : h'.devices.map fixedPart = h.devices.map fixedPart

/-- No call changes the machine. -/
theorem sameMachine_answer (call : StoreCall) (h : SimHost) : SameMachine h (answer call h).2 := by
  cases call with
  | mount path pageKb =>
    simp only [answer, mount]
    split <;> exact ⟨rfl, rfl⟩
  | unmount path =>
    simp only [answer, unmount]
    split <;> exact ⟨rfl, rfl⟩
  | setPageCount p count =>
    simp only [answer, setPages]
    split <;> exact ⟨rfl, rfl⟩
  | loadModule m =>
    simp only [answer, loadModule]
    split <;> exact ⟨rfl, rfl⟩
  | unloadModule name =>
    simp only [answer, unloadModule]
    split <;> exact ⟨rfl, rfl⟩
  | unbind a driver =>
    have moved : SameMachine h ((h.setDriver a none).note (.unbind a driver)) :=
      ⟨rfl, map_fixedPart_moveDevice a none h.devices⟩
    simp only [answer, unbind]
    repeat' split
    all_goals first | exact ⟨rfl, rfl⟩ | exact moved
  | bind a driver =>
    have moved : SameMachine h ((h.setDriver a (some driver)).note (.bind a driver)) :=
      ⟨rfl, map_fixedPart_moveDevice a (some driver) h.devices⟩
    simp only [answer, bind]
    repeat' split
    all_goals first | exact ⟨rfl, rfl⟩ | exact moved
  | _ => exact ⟨rfl, rfl⟩

theorem SameMachine.refl (h : SimHost) : SameMachine h h := ⟨rfl, rfl⟩

theorem SameMachine.trans {h h' h'' : SimHost} (first : SameMachine h h')
    (second : SameMachine h' h'') : SameMachine h h'' :=
  ⟨second.faults.trans first.faults, second.devices.trans first.devices⟩

/-- The addresses of the devices that a host lists. -/
def listed (h : SimHost) (filter : DeviceFilter) : List PciAddress :=
  (h.devices.filter filter.matchesDevice).map (·.address)

/-- On one machine, a listing names the same devices at all times. -/
theorem SameMachine.listed_eq {h h' : SimHost} (same : SameMachine h h') (filter : DeviceFilter) :
    h'.listed filter = h.listed filter := by
  have fromFixed (h : SimHost) :
      h.listed filter = ((h.devices.map fixedPart).filter filter.matchesDevice).map (·.address) := by
    rw [List.filter_map, List.map_map]
    rfl
  rw [fromFixed h', fromFixed h, same.devices]

theorem SameMachine.addresses {h h' : SimHost} (same : SameMachine h h') :
    h'.devices.map (·.address) = h.devices.map (·.address) := by
  have fromFixed (ds : List Descriptor) :
      ds.map (·.address) = (ds.map fixedPart).map (·.address) := by
    rw [List.map_map]
    rfl
  rw [fromFixed h'.devices, fromFixed h.devices, same.devices]

/-! ## Hosts as they are made -/

/-- The hosts that are built from an empty one, and that calls lead to. -/
inductive Made : SimHost → Prop
  | empty : Made {}
  | addDevice {h : SimHost} (d : Descriptor) : Made h → Made (h.addDevice d)
  | addAvailable {h : SimHost} (name : String) : Made h → Made (h.addAvailable name)
  | addLoaded {h : SimHost} (name : String) (parameters : Parameters) :
    Made h → Made (h.addLoaded name parameters)
  | addPool {h : SimHost} (p : Pool) (reserved capacity : Nat) :
    Made h → Made (h.addPool p reserved capacity)
  | addMount {h : SimHost} (path : HostPath) : Made h → Made (h.addMount path)
  | addHome {h : SimHost} (a : PciAddress) (driver : String) : Made h → Made (h.addHome a driver)
  | withFaults {h : SimHost} (faults : SimFaults) : Made h → Made { h with faults := faults }
  | setDriver {h : SimHost} (a : PciAddress) (driver : Option String) :
    Made h → Made (h.setDriver a driver)
  | answer {h : SimHost} (call : StoreCall) : Made h → Made (SimHost.answer call h).2

/-- Every module that a host lists is loaded. -/
def ListsLoaded (h : SimHost) : Prop := ∀ name state, h.modules.get? name = some state →
  state.loaded = true

/-- Where every listed module is loaded, a module that is not loaded is not listed. -/
theorem ListsLoaded.view_eq_none {h : SimHost} (lists : h.ListsLoaded) {name : String}
    (absent : ¬ (h.readModule name).loaded = true) :
    h.view (.module (KernelModule.normalize name)) = none := by
  cases found : h.view (.module (KernelModule.normalize name)) with
  | none => rfl
  | some state =>
    rw [readModule_eq_view, found] at absent
    exact absurd (lists _ state found) absent

/-- Calls keep to listing loaded modules. -/
theorem ListsLoaded.answer {h : SimHost} (lists : h.ListsLoaded) (call : StoreCall) :
    (SimHost.answer call h).2.ListsLoaded := by
  intro name state found
  have viewed : (SimHost.answer call h).2.view (.module name) = some state := found
  by_cases about : call.resource? = some (.module name)
  · cases replied : (SimHost.answer call h).1 with
    | error e =>
      rw [answer_of_error replied] at viewed
      exact lists name state viewed
    | ok value =>
      cases call with
      | loadModule m =>
        have same : KernelModule.normalize m.name = name := by
          simpa [StoreCall.resource?] using about
        subst same
        rw [view_loadModule replied, Function.update_self] at viewed
        rw [← Option.some.inj viewed]
        rfl
      | unloadModule other =>
        have same : KernelModule.normalize other = name := by
          simpa [StoreCall.resource?] using about
        subst same
        rw [view_unloadModule replied, Function.update_self] at viewed
        exact absurd viewed (Option.some_ne_none state).symm
      | _ => simp [StoreCall.resource?] at about
  · rw [view_answer_of_ne about] at viewed
    exact lists name state viewed

/-- Every module that a host lists is loaded, however the host came about. -/
theorem Made.listsLoaded {h : SimHost} (made : h.Made) : h.ListsLoaded := by
  induction made with
  | empty => exact nofun
  | addLoaded name parameters _ ih =>
    intro other state found
    by_cases same : other = KernelModule.normalize name
    · rw [same] at found
      rw [← Option.some.inj ((SortedMap.get?_insert_self ..).symm.trans found)]
      rfl
    · exact ih other state ((SortedMap.get?_insert_of_ne _ _ same).symm.trans found)
  | answer call _ ih => exact ih.answer call
  | addDevice d _ ih => exact ih
  | addAvailable name _ ih => exact ih
  | addPool p reserved capacity _ ih => exact ih
  | addMount path _ ih => exact ih
  | addHome a driver _ ih => exact ih
  | withFaults faults _ ih => exact ih
  | setDriver a driver _ ih => exact ih

end SimHost

/-! ## Snapshots -/

namespace Snapshot

/-- Whether two snapshots say the same of a resource. -/
def AgreeAt (a b : Snapshot) : Resource → Prop
  | .module name => b.modules.get? name = a.modules.get? name
  | .mount key => b.mounts.get? key = a.mounts.get? key
  | .pool p => b.pools.get? p = a.pools.get? p
  | .device address =>
    b.drivers.get? address = a.drivers.get? address ∧ b.homes.get? address = a.homes.get? address

/-- Snapshots that say the same of every resource are equal. -/
theorem eq_of_agreeAt {a b : Snapshot} (h : ∀ r, a.AgreeAt b r) : b = a := by
  have mounts : b.mounts = a.mounts := SortedMap.ext fun key => h (.mount key)
  have pools : b.pools = a.pools := SortedMap.ext fun p => h (.pool p)
  have modules : b.modules = a.modules := SortedMap.ext fun name => h (.module name)
  have drivers : b.drivers = a.drivers := SortedMap.ext fun address => (h (.device address)).1
  have homes : b.homes = a.homes := SortedMap.ext fun address => (h (.device address)).2
  cases a
  cases b
  simp only at mounts pools modules drivers homes
  rw [mounts, pools, modules, drivers, homes]

end Snapshot

namespace SimHost

theorem map_fst_bindings (ds : List Descriptor) :
    (ds.map fun d => (d.address, d.driver)).map Prod.fst = ds.map (·.address) := by
  rw [List.map_map]
  rfl

/-- A snapshot shows the devices that are there. -/
theorem contains_drivers_snapshot (h : SimHost) (a : PciAddress) :
    h.snapshot.drivers.contains a = true ↔ a ∈ h.devices.map (·.address) := by
  rw [← map_fst_bindings]
  exact SortedMap.contains_ofList _ a

/-- A snapshot shows what every device is bound to, where no two devices share an address. -/
theorem drivers_snapshot {h : SimHost} (distinct : (h.devices.map (·.address)).Nodup)
    (a : PciAddress) : h.snapshot.drivers.get? a = (h.find? a).map (·.driver) := by
  rw [← map_fst_bindings] at distinct
  show (SortedMap.ofList (h.devices.map fun d => (d.address, d.driver))).get? a = _
  rw [SortedMap.get?_ofList a distinct, List.find?_map, Option.map_map]
  rfl

/-- Hosts with the same at a resource have snapshots that agree there. -/
theorem agreeAt_of_view_eq {h h' : SimHost} {r : Resource}
    (distinct : (h.devices.map (·.address)).Nodup) (machine : SameMachine h h')
    (same : h'.view r = h.view r) : h.snapshot.AgreeAt h'.snapshot r := by
  cases r with
  | module name => exact same
  | mount key => exact same
  | pool p =>
    show (h'.pools.mapValues (·.reserved)).get? p = (h.pools.mapValues (·.reserved)).get? p
    have pools : h'.pools.get? p = h.pools.get? p := same
    rw [SortedMap.get?_mapValues, SortedMap.get?_mapValues, pools]
  | device a =>
    constructor
    · rw [drivers_snapshot distinct, drivers_snapshot (machine.addresses ▸ distinct)]
      exact congrArg Prod.fst same
    · exact congrArg Prod.snd same

end SimHost

end Provision
