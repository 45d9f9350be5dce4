import Provision.Proofs.Bookkeeping
import Provision.Proofs.Contract.World
import Provision.Proofs.Inspection
import Provision.Proofs.Simulation.Frame
import Provision.Simulation.Topology

/-!
# The catalog as a mirror of the host

What the catalog knows of a device is what the host shows of it: the driver that it is
bound to, and its durable record.  Every part of the engine notes what it did to a
device right after the call that did it, and nothing when the call failed, so this
holds after every operation, however many calls fail, as long as nobody else changes
the host.

Main results:

- `Catalog.Mirrors.moved`, `Catalog.Mirrors.recorded`, `Catalog.Mirrors.dropped`: what
  is noted after a call.
- `mirroring_apply`, `mirroring_undo`: making steps, and undoing changes.
- `mirroring_session`: operations on one catalog.
- `Catalog.never_drifts`: the catalog after any operations.
-/

namespace Provision

open StoreTerms CatalogProg

/-! ## Mirrors -/

/-- What is known of a device is what the host shows of it. -/
structure TrackedDevice.Mirrors (d : TrackedDevice) (h : SimHost) : Prop where
  driver : h.readDriver d.address = .ok d.currentDriver
  record : h.homes.get? d.address = d.homeDriver

/-- What is known of a device is what stands there. -/
theorem TrackedDevice.mirrors_iff {d : TrackedDevice} {h : SimHost} :
    d.Mirrors h ↔ h.view (.device d.address) = (some d.currentDriver, d.homeDriver) := by
  constructor
  · intro mirrors
    exact Prod.ext (SimHost.readDriver_eq_ok_iff.1 mirrors.driver) mirrors.record
  · intro shown
    exact ⟨SimHost.readDriver_eq_ok_iff.2 (congrArg Prod.fst shown), congrArg Prod.snd shown⟩

/-- Where no two devices share an address, each is found under its own. -/
theorem SimHost.find?_of_mem {h : SimHost} (distinct : (h.devices.map (·.address)).Nodup)
    {d : Descriptor} (there : d ∈ h.devices) : h.find? d.address = some d := by
  have search (ds : List Descriptor) (distinct : (ds.map (·.address)).Nodup) (there : d ∈ ds) :
      ds.find? (·.address == d.address) = some d := by
    induction ds with
    | nil => exact absurd there List.not_mem_nil
    | cons e rest ih =>
      rw [List.map_cons, List.nodup_cons] at distinct
      rcases List.mem_cons.1 there with rfl | later
      · exact List.find?_cons_of_pos (beq_self_eq_true _)
      · have other : e.address ≠ d.address := fun same =>
          distinct.1 (same ▸ List.mem_map_of_mem later)
        rw [List.find?_cons_of_neg (by simpa using other)]
        exact ih distinct.2 later
  exact search h.devices distinct there

namespace Catalog

/-- The catalog mirrors a host on which every device has an address of its own. -/
structure Mirrors (c : Catalog) (h : SimHost) : Prop where
  distinct : (h.devices.map (·.address)).Nodup
  devices : ∀ a d, c.device? a = some d → d.address = a ∧ d.Mirrors h

variable {c c' : Catalog} {h h' : SimHost} {a b : PciAddress}

/-- Every device of the catalog is filed under its own address. -/
theorem Mirrors.of_mem (mirrors : c.Mirrors h) {d : TrackedDevice} (known : d ∈ c.devices) :
    d.Mirrors h := by
  obtain ⟨⟨a, d⟩, entry, rfl⟩ := List.mem_map.1 known
  exact (mirrors.devices a d (SortedMap.get?_of_mem entry)).2

/-- A catalog that knows no device mirrors every host. -/
theorem mirrors_new (reserveLeading : Nat) (passthrough : List String)
    (distinct : (h.devices.map (·.address)).Nodup) :
    (new reserveLeading passthrough).Mirrors h := by
  refine ⟨distinct, fun a d known => ?_⟩
  cases known

/-- The catalog goes on mirroring a host on which the devices stay as they are. -/
theorem Mirrors.keep (mirrors : c.Mirrors h) (machine : SimHost.SameMachine h h')
    (same : ∀ a, h'.view (.device a) = h.view (.device a)) : c.Mirrors h' := by
  refine ⟨machine.addresses ▸ mirrors.distinct, fun a d known => ?_⟩
  obtain ⟨address, mirrored⟩ := mirrors.devices a d known
  refine ⟨address, TrackedDevice.mirrors_iff.2 ?_⟩
  rw [same]
  exact TrackedDevice.mirrors_iff.1 mirrored

/-- The catalog goes on mirroring a host on which a call changed one device, when it knows that
device as it is now and the others as before. -/
theorem Mirrors.answer {call : StoreCall} (mirrors : c.Mirrors h)
    (about : call.resource? = some (.device b))
    (others : ∀ a, a ≠ b → c'.device? a = c.device? a)
    (here : ∀ d, c'.device? b = some d →
      d.address = b ∧ (SimHost.answer call h).2.view (.device b) =
        (some d.currentDriver, d.homeDriver)) :
    c'.Mirrors (SimHost.answer call h).2 := by
  refine ⟨(SimHost.sameMachine_answer call h).addresses ▸ mirrors.distinct, fun a d known => ?_⟩
  by_cases same : a = b
  · subst same
    obtain ⟨address, shown⟩ := here d known
    refine ⟨address, TrackedDevice.mirrors_iff.2 ?_⟩
    rw [address, shown]
  · -- the call was about `b`, and every device is filed under its own address
    rw [others a same] at known
    obtain ⟨address, mirrored⟩ := mirrors.devices a d known
    have elsewhere : call.resource? ≠ some (.device d.address) := by
      rw [about, address]
      exact fun e => same (Resource.device.inj (Option.some.inj e)).symm
    refine ⟨address, TrackedDevice.mirrors_iff.2 ?_⟩
    rw [SimHost.view_answer_of_ne elsewhere]
    exact TrackedDevice.mirrors_iff.1 mirrored

/-- A device that was moved is noted with its new driver. -/
theorem Mirrors.moved {call : StoreCall} {driver : Option String} (mirrors : c.Mirrors h)
    (about : call.resource? = some (.device b))
    (after : (SimHost.answer call h).2.view =
      Function.update h.view (.device b) (some driver, h.homes.get? b)) :
    (c.noteBinding b driver).Mirrors (SimHost.answer call h).2 := by
  refine mirrors.answer about (fun a other => ?_) fun d known => ?_
  · rw [device?_noteBinding, if_neg other]
  · rw [device?_noteBinding, if_pos rfl] at known
    obtain ⟨before, was, rfl⟩ := Option.map_eq_some_iff.1 known
    obtain ⟨rfl, mirrored⟩ := mirrors.devices b before was
    refine ⟨rfl, ?_⟩
    rw [after, Function.update_self, mirrored.record]

/-- A device whose record was changed is noted with its new record. -/
theorem Mirrors.recorded {call : StoreCall} {home : Option String} (mirrors : c.Mirrors h)
    (about : call.resource? = some (.device b))
    (after : (SimHost.answer call h).2.view =
      Function.update h.view (.device b) ((h.find? b).map (·.driver), home)) :
    (c.noteHome b home).Mirrors (SimHost.answer call h).2 := by
  refine mirrors.answer about (fun a other => ?_) fun d known => ?_
  · rw [device?_noteHome, if_neg other]
  · rw [device?_noteHome, if_pos rfl] at known
    obtain ⟨before, was, rfl⟩ := Option.map_eq_some_iff.1 known
    obtain ⟨rfl, mirrored⟩ := mirrors.devices b before was
    have there : (h.find? before.address).map (·.driver) = some before.currentDriver :=
      congrArg Prod.fst (TrackedDevice.mirrors_iff.1 mirrored)
    refine ⟨rfl, ?_⟩
    rw [after, Function.update_self, there]

/-- A device whose record was cleared may be forgotten. -/
theorem Mirrors.dropped (mirrors : c.Mirrors h) :
    (c.drop b).Mirrors (SimHost.answer (.clearHome b) h).2 := by
  refine mirrors.answer rfl (fun a other => ?_) fun d known => ?_
  · rw [device?_drop, if_neg other]
  · rw [device?_drop, if_pos rfl] at known
    cases known

/-- To note the driver that a device is bound to is to note nothing new. -/
theorem Mirrors.noteBinding_eq {driver : Option String} (mirrors : c.Mirrors h)
    (read : h.readDriver b = .ok driver) : c.noteBinding b driver = c := by
  have records : (c.noteBinding b driver).records = c.records := by
    refine SortedMap.ext fun a => ?_
    show (c.noteBinding b driver).device? a = c.device? a
    rw [device?_noteBinding]
    by_cases same : a = b
    · subst same
      rw [if_pos rfl]
      cases known : c.device? a with
      | none => rfl
      | some d =>
        obtain ⟨rfl, mirrored⟩ := mirrors.devices a d known
        rw [mirrored.driver] at read
        rw [← Except.ok.inj read]
        rfl
    · rw [if_neg same]
  exact congrArg (fun records => { c with records := records }) records

/-- A device of the listing is taken in as the host shows it. -/
theorem Mirrors.enlist (index : Nat) {d : Descriptor} (mirrors : c.Mirrors h)
    (listed : d ∈ h.devices) :
    (c.enlist index (d.tracked (h.homes.get? d.address))).Mirrors h := by
  refine ⟨mirrors.distinct, fun a t known => ?_⟩
  by_cases same : a = d.address
  · have taken : (c.enlist index (d.tracked (h.homes.get? d.address))).device? a =
        some (d.tracked (h.homes.get? d.address)) := by
      rw [same]
      exact SortedMap.get?_insert_self ..
    rw [taken] at known
    cases known
    have found : h.find? d.address = some d := SimHost.find?_of_mem mirrors.distinct listed
    exact ⟨same.symm, SimHost.readDriver_of_find? found, rfl⟩
  · rw [device?_enlist_of_ne same] at known
    exact mirrors.devices a t known

/-- A device on record is taken in with the driver that is read and the record that is there. -/
theorem Mirrors.adopt {current : Option String} {home : String} (mirrors : c.Mirrors h)
    (read : h.readDriver b = .ok current) (recorded : h.homes.get? b = some home) :
    Mirrors { c with records := c.records.insert b (adopted b current home) } h := by
  refine ⟨mirrors.distinct, fun a t known => ?_⟩
  change (c.records.insert b (adopted b current home)).get? a = some t at known
  rw [SortedMap.get?_insert] at known
  by_cases same : a = b
  · rw [if_pos same] at known
    cases known
    exact ⟨same.symm, read, recorded⟩
  · rw [if_neg same] at known
    exact mirrors.devices a t known

end Catalog

/-! ## Calls -/

/-- Programs that keep the catalog a mirror of a host on which calls fail without effect. -/
abbrev Mirroring {α : Type} (p : CatalogProg α) : Prop :=
  Maintains (orFails SimHost.answer) free Catalog.Mirrors p

variable {α : Type} {call : StoreCall} {Q : call.Reply → SimHost → Prop} {h : SimHost}

/-- A call fails and leaves the host as it is, or succeeds. -/
theorem asks_orFails (fails : ∀ e, Q (.error e) h)
    (succeeds : ∀ v, (SimHost.answer call h).1 = .ok v → Q (.ok v) (SimHost.answer call h).2) :
    Asks (orFails SimHost.answer) free call h Q :=
  SimHost.asks_unreliable (fun e => ⟨trivial, fails e⟩) fun v reply => ⟨trivial, succeeds v reply⟩

/-- A call that reads leads on from the host as it is, whether it fails or not. -/
theorem asks_orFails_read (reads : call.writes = false) (fails : ∀ e, Q (.error e) h)
    (succeeds : ∀ v, (SimHost.answer call h).1 = .ok v → Q (.ok v) h) :
    Asks (orFails SimHost.answer) free call h Q := by
  apply asks_orFails fails
  intro v reply
  rw [SimHost.answer_of_read reads]
  exact succeeds v reply

/-- The resources that are not devices. -/
def Resource.IsShared (r : Resource) : Prop := ∀ a, r ≠ .device a

/-- A program about other resources than devices keeps the catalog a mirror. -/
theorem mirroring_shared {p : HostProg α} (contract : ∀ h,
    HostProg.Ensures (orFails SimHost.answer) (within Resource.IsShared) p h fun _ _ => True) :
    Mirroring (liftM p : CatalogProg α) := by
  intro c h mirrors
  have lifted : Ensures (orFails SimHost.answer) (within Resource.IsShared)
      (liftM p : CatalogProg α) c h fun _ c' _ => c' = c :=
    (ensures_lift p).2 ((contract h).mono fun _ _ _ => rfl)
  refine ((SimHost.ensures_frame lifted).mono fun x c' h' ends => ?_).forget
  obtain ⟨rfl, same, machine, _⟩ := ends
  exact mirrors.keep machine fun a => same _ fun shared => shared a rfl

/-! ## The catalog -/

/-- Asking for a home driver changes neither the catalog nor the host. -/
theorem mirroring_homeDriver (a : PciAddress) : Mirroring (Catalog.homeDriver a).run := by
  intro c h mirrors
  rw [Catalog.ensures_homeDriver]
  cases c.home? a with
  | some driver => exact mirrors
  | none => exact asks_orFails_read rfl (fun _ => mirrors) fun _ _ => mirrors

/-- A record that is made is noted, and one that fails to be made is not. -/
theorem mirroring_recordHome (a : PciAddress) (driver : String) :
    Mirroring (Catalog.recordHome a driver).run := by
  intro c h mirrors
  rw [Catalog.ensures_recordHome]
  by_cases passthrough : c.isPassthrough driver
  · rw [if_pos passthrough]
    exact mirrors
  · rw [if_neg passthrough]
    apply (mirroring_homeDriver a mirrors).mono
    intro home c' h' mirrors'
    rcases home with e | _ | known
    · exact mirrors'
    · refine asks_orFails (fun _ => mirrors') fun _ _ => ?_
      exact mirrors'.recorded rfl (SimHost.view_setHome ..)
    · exact mirrors'

/-- A record is noted as gone exactly when it is. -/
theorem mirroring_forgetHome (a : PciAddress) : Mirroring (Catalog.forgetHome a).run := by
  intro c h mirrors
  rw [Catalog.ensures_forgetHome]
  refine asks_orFails (fun _ => mirrors) fun _ _ => ?_
  exact mirrors.recorded rfl (SimHost.view_clearHome ..)

/-- A device that is forgotten is shown no more. -/
theorem mirroring_discard (a : PciAddress) : Mirroring (Catalog.discard a).run := by
  intro c h mirrors
  rw [Catalog.ensures_discard]
  exact asks_orFails (fun _ => mirrors) fun _ _ => mirrors.dropped

/-- A listing is taken in as the host shows its devices. -/
theorem mirroring_enlistAll (index : Nat) (ds : List Descriptor) {c : Catalog}
    (mirrors : c.Mirrors h) (listed : ∀ d ∈ ds, d ∈ h.devices) :
    Ensures (orFails SimHost.answer) free (Catalog.enlistAll index ds).run c h
      fun _ c' h' => c'.Mirrors h' := by
  induction ds generalizing index c with
  | nil => exact (Catalog.ensures_enlistAll_nil index).2 mirrors
  | cons d ds ih =>
    obtain ⟨first, later⟩ := List.forall_mem_cons.1 listed
    rw [Catalog.ensures_enlistAll_cons]
    refine asks_orFails_read rfl (fun _ => mirrors) fun home read => ?_
    obtain rfl : h.homes.get? d.address = home := Except.ok.inj read
    apply (ih (index + 1) (mirrors.enlist index first) later).mono
    intro others c' h' mirrors'
    cases others <;> exact mirrors'

/-- A listing that fails in the middle has taken in devices as the host shows them. -/
theorem mirroring_enumerate (filter : DeviceFilter) :
    Mirroring (Catalog.enumerate filter).run := by
  intro c h mirrors
  rw [Catalog.ensures_enumerate]
  refine asks_orFails_read rfl (fun _ => mirrors) fun ds read => ?_
  refine mirroring_enlistAll 0 ds mirrors fun d hd => ?_
  have listed : h.listDevices filter = .ok ds := read
  unfold SimHost.listDevices at listed
  split at listed
  · cases listed
  · rw [← Except.ok.inj listed] at hd
    exact (List.mem_filter.1 hd).1

/-- Devices on record are taken in as the host shows them. -/
theorem mirroring_adoptAll (recorded : List (PciAddress × String)) {c : Catalog}
    (mirrors : c.Mirrors h) (there : ∀ entry ∈ recorded, h.homes.get? entry.1 = some entry.2) :
    Ensures (orFails SimHost.answer) free (Catalog.adoptAll recorded).run c h
      fun _ c' h' => c'.Mirrors h' := by
  induction recorded generalizing c with
  | nil => exact Catalog.ensures_adoptAll_nil.2 mirrors
  | cons entry rest ih =>
    obtain ⟨b, home⟩ := entry
    obtain ⟨here, later⟩ := List.forall_mem_cons.1 there
    rw [Catalog.ensures_adoptAll_cons]
    by_cases known : (c.device? b).isSome
    · -- the listing has taken it in already
      rw [if_pos known]
      exact ih mirrors later
    · rw [if_neg known]
      refine asks_orFails_read rfl (fun e => ?_) fun current read => ?_
      · apply (ih mirrors later).mono
        intro missing c' h' mirrors'
        cases missing <;> exact mirrors'
      · exact ih (mirrors.adopt read here) later

/-- Taking in the devices on record keeps the catalog in step. -/
theorem mirroring_adoptRecorded : Mirroring Catalog.adoptRecorded.run := by
  intro c h mirrors
  rw [Catalog.ensures_adoptRecorded]
  refine asks_orFails_read rfl (fun _ => mirrors) fun recorded read => ?_
  obtain rfl : h.homes = recorded := Except.ok.inj read
  exact mirroring_adoptAll _ mirrors fun entry hentry => SortedMap.get?_of_mem hentry

/-- Plans and reports keep the catalog a mirror. -/
theorem inspecting_mirrors :
    Inspecting (orFails SimHost.answer) free Catalog.Mirrors where
  enumerate := mirroring_enumerate
  adoptRecorded := mirroring_adoptRecorded
  homeDriver := mirroring_homeDriver
  survey ms r devices := mirroring_shared fun _ => Survey.within_take ms r devices

/-! ## Moving devices -/

/-- A device is noted as unbound exactly when it is. -/
theorem mirroring_detach (a : PciAddress) (driver : String) (recorded : Bool) :
    Mirroring (Binding.detach a driver recorded).run := by
  intro c h mirrors
  rw [Binding.ensures_detach]
  refine asks_orFails (fun e => ?_) fun _ reply => ?_
  · -- a record that was only made for this move is taken back
    cases recorded with
    | false => exact mirrors
    | true =>
      refine asks_orFails (fun _ => mirrors) fun _ _ => ?_
      exact mirrors.recorded rfl (SimHost.view_clearHome ..)
  · exact mirrors.moved rfl (SimHost.view_unbind reply).2

/-- Putting a device on record and unbinding it keeps the catalog in step. -/
theorem mirroring_release (a : PciAddress) (current : Option String) :
    Mirroring (Binding.release a current).run := by
  cases current with
  | none => exact .done _
  | some driver =>
    refine .andThen (mirroring_recordHome a driver) fun recorded => ?_
    exact .andThen (mirroring_detach a driver recorded) fun _ => .done _

/-- A device is noted as bound exactly when it is. -/
theorem mirroring_attach (a : PciAddress) (target : String) (prior : Option String)
    (recorded : Bool) : Mirroring (Binding.attach a target prior recorded).run := by
  intro c h mirrors
  rw [Binding.ensures_attach]
  refine asks_orFails (fun _ => mirrors) fun _ reply => ?_
  exact mirrors.moved rfl (SimHost.view_bind reply).2

/-- Handing a device over keeps the catalog in step, also when the device is stranded. -/
theorem mirroring_handOver (a : PciAddress) (target : String) :
    Mirroring (Binding.handOver a target).run := by
  intro c h mirrors
  rw [Binding.ensures_handOver]
  refine asks_orFails_read rfl (fun _ => mirrors) fun current read => ?_
  show if current = some target then _ else _
  by_cases already : current = some target
  · rw [if_pos already, mirrors.noteBinding_eq read]
    exact mirrors
  · rw [if_neg already]
    apply (mirroring_release a current mirrors).mono
    intro recorded c' h' mirrors'
    cases recorded with
    | error e => exact mirrors'
    | ok recorded => exact mirroring_attach a target current recorded mirrors'

theorem mirroring_reattach (a : PciAddress) (prior current : Option String) :
    Mirroring (Binding.reattach a prior current).run := by
  intro c h mirrors
  rw [Binding.ensures_reattach]
  cases prior with
  | none => exact mirrors
  | some driver =>
    refine asks_orFails (fun _ => mirrors) fun _ reply => ?_
    exact mirrors.moved rfl (SimHost.view_bind reply).2

/-- Bringing a device back keeps the catalog in step, however far that comes. -/
theorem mirroring_bringBack (a : PciAddress) (prior : Option String) :
    Mirroring (Binding.bringBack a prior).run := by
  intro c h mirrors
  rw [Binding.ensures_bringBack]
  refine asks_orFails_read rfl (fun _ => mirrors) fun current read => ?_
  show if current = prior then _ else _
  by_cases back : current = prior
  · rw [if_pos back, mirrors.noteBinding_eq (back ▸ read)]
    exact mirrors
  · rw [if_neg back]
    cases current with
    | none => exact mirroring_reattach a prior none mirrors
    | some driver =>
      apply (mirroring_detach a driver false mirrors).mono
      intro result c' h' mirrors'
      cases result with
      | error e => exact mirrors'
      | ok _ => exact mirroring_reattach a prior (some driver) mirrors'

/-- Restoring a device keeps the catalog in step. -/
theorem mirroring_restore (a : PciAddress) : Mirroring (Binding.restore a).run := by
  refine .andThen (mirroring_homeDriver a) fun home => ?_
  cases home with
  | none => exact fun _ _ mirrors => mirrors
  | some driver => exact .andThen (mirroring_bringBack a (some driver)) fun _ => mirroring_discard a

/-! ## Setups -/

/-- Making a step keeps the catalog a mirror. -/
theorem mirroring_apply (step : Step) : Mirroring (Setup.apply step).run := by
  have shared {p : HostM (Option Change)} {Q : Except Error (Option Change) → Prop}
      (contract : ∀ h, HostProg.Ensures (orFails SimHost.answer) (within Resource.IsShared) p.run h
        fun result _ => Q result) :
      Mirroring (liftM (liftM p : CatalogM (Option Change)) : Binding.MoveM (Option Change)).run :=
    .move (mirroring_shared fun h => (contract h).mono fun _ _ _ => trivial)
  cases step with
  | loadModule m => exact shared fun h => Loading.within_require m nofun
  | mount r => exact shared fun h => Reserving.within_mount r nofun
  | reserve r => exact shared fun h => Reserving.within_reserve r nofun
  | rebind a driver => exact mirroring_handOver a driver
  | restore a driver => exact .andThen (.move (mirroring_restore a)) fun _ => .done _

/-- Undoing a change keeps the catalog a mirror. -/
theorem mirroring_undo (ch : Change) : Mirroring (Setup.undo ch).run := by
  have shared {call : StoreCall} {r : Resource} (about : call.resource? = some r)
      (other : r.IsShared) : Mirroring (liftM (HostM.ask call) : CatalogM call.Value).run := by
    refine mirroring_shared fun h => ?_
    show Asks (orFails SimHost.answer) (within Resource.IsShared) call h _
    exact asks_within about other fun _ _ _ => trivial
  have moved (a : PciAddress) (prior : Option String) (recorded : Bool) :
      Mirroring (Setup.undo (.rebound a prior recorded)).run := by
    refine .andThen (mirroring_bringBack a prior) fun _ => ?_
    cases recorded with
    | false => exact .done _
    | true => exact mirroring_forgetHome a
  cases ch with
  | moduleLoaded name => exact shared rfl nofun
  | mounted path pageKb => exact shared rfl nofun
  | reserved pool previous => exact shared rfl nofun
  | rebound a prior recorded => exact moved a prior recorded
  | stranded a prior recorded => exact moved a prior recorded

/-- A setup keeps the catalog in step, whether it is rolled back or not. -/
theorem mirroring_setup (policy : Policy) (g : SetupGoal) : Mirroring (Setup.run policy g) := by
  intro c h mirrors
  rw [Setup.ensures_run]
  apply (inspecting_mirrors.plan policy.filter (.setup g) mirrors).mono
  intro result c' h' mirrors'
  cases result with
  | error e => exact mirrors'
  | ok steps => exact Setup.maintains_applyFrom mirroring_apply mirroring_undo _ _ _ _ _ mirrors'

/-! ## Teardowns -/

/-- One device of a teardown keeps the catalog in step. -/
theorem mirroring_restoreOne (a : PciAddress) : Mirroring (Teardown.restoreOne a) := by
  intro c h mirrors
  rw [Teardown.ensures_restoreOne]
  apply (mirroring_homeDriver a mirrors).mono
  intro home c' h' mirrors'
  rcases home with e | _ | driver
  · exact mirrors'
  · exact mirrors'
  · apply (mirroring_restore a mirrors').mono
    intro result c'' h'' mirrors''
    cases result <;> exact mirrors''

/-- A teardown keeps the catalog in step. -/
theorem mirroring_teardown (policy : Policy) (devices : SortedSet PciAddress) :
    Mirroring (Teardown.run policy devices) :=
  Teardown.maintains_run (mirroring_enumerate policy.filter) mirroring_adoptRecorded fun a _ =>
    mirroring_restoreOne a

/-! ## Sessions -/

/-- What an engine can be asked to do. -/
inductive Operation
  | run (goal : Goal)
  | plan (goal : Goal)
  | status (r : Reservation) (ms : List ModuleRequest)
  | eligibleDevices
  | recordedDevices

/-- Carries out an operation, whatever comes of it. -/
def Operation.perform (policy : Policy) : Operation → CatalogProg Unit
  | .run goal => do let _ ← Engine.run policy goal
  | .plan goal => do let _ ← (Provision.plan policy.filter goal).run
  | .status r ms => do let _ ← (Engine.status policy r ms).run
  | .eligibleDevices => do let _ ← (Engine.eligibleDevices policy).run
  | .recordedDevices => do let _ ← (Engine.recordedDevices policy).run

/-- Carries out operations one after the other on one catalog. -/
def Session.run (policy : Policy) : List Operation → CatalogProg Unit
  | [] => pure ()
  | operation :: later => do
    operation.perform policy
    run policy later

/-- A single operation keeps the catalog in step. -/
theorem mirroring_operation (policy : Policy) (operation : Operation) :
    Mirroring (operation.perform policy) := by
  cases operation with
  | run goal =>
    cases goal with
    | setup g => exact .bind (mirroring_setup policy g) fun _ => .pure _
    | teardown devices => exact .bind (mirroring_teardown policy devices) fun _ => .pure _
  | plan goal => exact .bind (inspecting_mirrors.plan policy.filter goal) fun _ => .pure _
  | status r ms => exact .bind (inspecting_mirrors.status policy r ms) fun _ => .pure _
  | eligibleDevices => exact .bind (inspecting_mirrors.eligibleDevices policy) fun _ => .pure _
  | recordedDevices => exact .bind (inspecting_mirrors.recordedDevices policy) fun _ => .pure _

/-- So do operations one after the other, by induction over them. -/
theorem mirroring_session (policy : Policy) (operations : List Operation) :
    Mirroring (Session.run policy operations) := by
  induction operations with
  | nil => exact .pure _
  | cons operation later ih => exact .bind (mirroring_operation policy operation) fun _ => ih

/-- The catalog never drifts from the host: after any operations that begin with a fresh catalog,
on a host on which calls fail without effect at any places, every known device is noted with the
driver that it is bound to and with its durable record. -/
theorem Catalog.never_drifts (policy : Policy) (operations : List Operation)
    (fails : Nat → Option Error) (clock : Nat → Nat) (w : World (SimHost × Nat))
    (distinct : (w.host.1.devices.map (·.address)).Nodup) :
    ∀ d ∈ (runOn (SimHost.answer.unreliable fails) clock (Session.run policy operations)
        policy.freshCatalog w).1.2.devices,
      d.Mirrors (runOn (SimHost.answer.unreliable fails) clock (Session.run policy operations)
        policy.freshCatalog w).2.host.1 := by
  intro d known
  have start : policy.freshCatalog.Mirrors w.host.1 := mirrors_new _ _ distinct
  have ends := (mirroring_session policy operations start).of_run
    (SimHost.answer.unreliable fails) clock w Prod.fst
    fun call s => StoreHandler.answer_unreliable SimHost.answer fails call s
  exact ends.2.of_mem known

/-- A setup fails to bind a controller to the new driver and then to the old one.  The catalog
shows it as it is left: unbound, with its home driver on record. -/
theorem stranded_nic_shown :
    let store := SimHost.answer.unreliable fun place =>
      if place ∈ [27, 29] then some (.noDevice Topology.dataNic) else none
    let ending := runOn store (fun _ => 0)
      (Session.run {} [.eligibleDevices, .run (.setup (Topology.handOver [Topology.dataNic]))])
      (Policy.freshCatalog {}) { host := (Topology.twoNics, 0) }
    (ending.1.2.device? Topology.dataNic).map (fun d => (d.currentDriver, d.homeDriver)) =
        some (none, some "e1000") ∧
      ∀ d ∈ ending.1.2.devices, d.Mirrors ending.2.host.1 := by
  intro store ending
  refine ⟨by decide +kernel, ?_⟩
  exact Catalog.never_drifts {} _ _ (fun _ => 0) { host := (Topology.twoNics, 0) } (by decide)

end Provision
