import Provision.Proofs.Bookkeeping
import Provision.Proofs.HomeDriver

/-!
# What becomes of one device

A teardown decides what becomes of a device from four things only: what fails on the
host, whether the host lists the device, what the device is bound to, and its record.
The settlement says what comes of it; restoring the device brings it about and leaves
the other devices, their records and what the catalog knows of them alone.

Main results:

- `SimHost.moveDevice_comm`: devices are moved independently of one another.
- `Teardown.settles_bringBack`: bringing a device back settles its binding.
- `Teardown.settles_restoreOne`: restoring a device settles it.
-/

namespace Provision

open StoreTerms CatalogProg

/-! ## Moving devices -/

namespace SimHost

variable {a b : PciAddress} {driver : String} {h : SimHost}

/-- Moving a device to the driver that it is bound to changes nothing. -/
theorem moveDevice_driverOf (a : PciAddress) (ds : List Descriptor) :
    moveDevice a ((ds.find? (·.address == a)).bind (·.driver)) ds = ds := by
  induction ds with
  | nil => rfl
  | cons d ds ih =>
    by_cases here : d.address = a
    · subst here
      simp [moveDevice]
    · simp [moveDevice, here, ih]

/-- Of two moves of a device the later one counts. -/
theorem moveDevice_moveDevice (a : PciAddress) (x y : Option String) (ds : List Descriptor) :
    moveDevice a y (moveDevice a x ds) = moveDevice a y ds := by
  induction ds with
  | nil => rfl
  | cons d ds ih =>
    by_cases here : d.address = a
    · simp [moveDevice, here]
    · simp [moveDevice, here, ih]

/-- Devices are moved independently of one another. -/
theorem moveDevice_comm (ne : a ≠ b) (x y : Option String) (ds : List Descriptor) :
    moveDevice b y (moveDevice a x ds) = moveDevice a x (moveDevice b y ds) := by
  induction ds with
  | nil => rfl
  | cons d ds ih =>
    by_cases here : d.address = a
    · simp [moveDevice, here, ne]
    · by_cases there : d.address = b
      · have ne' : b ≠ a := ne.symm
        simp [moveDevice, there, ne']
      · simp [moveDevice, here, there, ih]

/-- The driver of a device cannot be read where the device is not there. -/
theorem readDriver_eq_error_iff {e : Error} :
    h.readDriver a = .error e ↔ h.find? a = none ∧ e = .noDevice a := by
  unfold readDriver
  cases h.find? a with
  | none => simp [eq_comm]
  | some d => simp

/-- A device that was moved is bound to the driver that it was moved to. -/
theorem readDriver_setDriver {current : Option String} (driver : Option String) (call : StoreCall)
    (there : h.readDriver a = .ok current) :
    ((h.setDriver a driver).note call).readDriver a = .ok driver := by
  obtain ⟨d, found, _⟩ := Option.map_eq_some_iff.1 (readDriver_eq_ok_iff.1 there)
  rw [readDriver_eq_ok_iff, view_note, view_setDriver found, Function.update_self]

/-- A device that is bound is unbound, unless that fails. -/
theorem answer_unbind (bound : h.readDriver a = .ok (some driver)) :
    answer (.unbind a driver) h =
      if h.faults.unbind.contains a then
        (.error (.store "unbind" (toString a) "Device or resource busy"), h)
      else (.ok (), (h.setDriver a none).note (.unbind a driver)) := by
  obtain ⟨d, found, same⟩ := Option.map_eq_some_iff.1 (readDriver_eq_ok_iff.1 bound)
  simp only [answer, unbind, found, same, if_true]

/-- A device that is not bound is bound, unless that fails. -/
theorem answer_bind (unbound : h.readDriver a = .ok none) :
    answer (.bind a driver) h =
      if h.faults.bind.contains (a, driver) then
        (.error (.store "bind" (toString a) "No such device"), h)
      else (.ok (), (h.setDriver a (some driver)).note (.bind a driver)) := by
  obtain ⟨d, found, same⟩ := Option.map_eq_some_iff.1 (readDriver_eq_ok_iff.1 unbound)
  simp only [answer, bind, found, same, Option.isSome_none, Bool.false_eq_true, if_false,
    List.contains_iff_mem]

end SimHost

namespace Teardown

/-! ## Settlements -/

/-- What becomes of a device: its fate, the driver that it is bound to afterwards, and the record
that stays. -/
structure Settlement where
  fate : Fate
  driver : Option String
  record : Option String
  deriving DecidableEq

/-- Why a device cannot be unbound, if it cannot. -/
def unbindError? (faults : SimFaults) (a : PciAddress) : Option String → Option Error
  | none => none
  | some driver =>
    if faults.unbind.contains a then
      some (.unbindFailed (toString a) driver
        (Error.store "unbind" (toString a) "Device or resource busy").message)
    else none

/-- Whether a device that is not bound gets to a driver, and what it is bound to in the end; it was
bound to `current` before. -/
def bindTo (faults : SimFaults) (a : PciAddress) (driver : String) (current : Option String) :
    Except Error Unit × Option String :=
  if faults.bind.contains (a, driver) then
    (.error (.bindFailed (toString a) driver current
      (Error.store "bind" (toString a) "No such device").message), none)
  else (.ok (), some driver)

/-- Whether a device gets to a driver from what it is bound to, if it is there, and what it is
bound to in the end. -/
def moveTo (faults : SimFaults) (a : PciAddress) (driver : String) :
    Option (Option String) → Except Error Unit × Option String
  | none => (.error (.noDevice a), none)
  | some current =>
    if current = some driver then (.ok (), current)
    else
      match unbindError? faults a current with
      | some e => (.error e, current)
      | none => bindTo faults a driver current

/-- What becomes of a device with a record that was to get to its home driver: it keeps the record
when it did not get there. -/
def returned (home : String) : Except Error Unit × Option String → Settlement
  | (.ok _, driver) => ⟨.restored, driver, none⟩
  | (.error e, driver) => ⟨.unrestored e, driver, some home⟩

/-- What becomes of a device of a host.  Without a record it is left alone, if it is listed. -/
def settlement (h : SimHost) (listed : Bool) (a : PciAddress) : Settlement :=
  match h.homes.get? a with
  | none => ⟨if listed then .skipped else .unrestored (.noDevice a), h.driverOf a, none⟩
  | some home => returned home (moveTo h.faults a home ((h.find? a).map (·.driver)))

variable {a b : PciAddress} {c c' c'' : Catalog} {h h' h'' : SimHost} {listed : Bool}
  {driver driver' record record' : Option String}

theorem settlement_of_unrecorded (unrecorded : h.homes.get? a = none) :
    settlement h listed a =
      ⟨if listed then .skipped else .unrestored (.noDevice a), h.driverOf a, none⟩ := by
  rw [settlement, unrecorded]

theorem settlement_of_recorded {home : String} (recorded : h.homes.get? a = some home) :
    settlement h listed a =
      returned home (moveTo h.faults a home ((h.find? a).map (·.driver))) := by
  rw [settlement, recorded]

/-- What becomes of a device does not depend on the other devices. -/
theorem settlement_congr (faults : h'.faults = h.faults)
    (same : h'.view (.device a) = h.view (.device a)) :
    settlement h' listed a = settlement h listed a := by
  have bound : (h'.find? a).map (·.driver) = (h.find? a).map (·.driver) := congrArg Prod.fst same
  have record : h'.homes.get? a = h.homes.get? a := congrArg Prod.snd same
  have driver : h'.driverOf a = h.driverOf a := by
    rw [SimHost.driverOf_eq_view, same, SimHost.driverOf_eq_view]
  rw [settlement, faults, bound, record, driver, settlement]

/-- What stands at a device of a host once it was settled. -/
def settledView (h : SimHost) (listed : Bool) (a : PciAddress) : (Resource.device a).Value :=
  ((h.view (.device a)).1.map fun _ => (settlement h listed a).driver,
    (settlement h listed a).record)

/-- What stands at a device in the end does not depend on whether it is listed. -/
theorem settledView_listed (h : SimHost) (listed listed' : Bool) (a : PciAddress) :
    settledView h listed' a = settledView h listed a := by
  unfold settledView
  cases record : h.homes.get? a with
  | none => rw [settlement_of_unrecorded record, settlement_of_unrecorded record]
  | some home => rw [settlement_of_recorded record, settlement_of_recorded record]

/-! ## What a device leaves -/

/-- A host and a catalog in which a device is bound to a driver and has a record, and nothing else
is changed. -/
structure Leaves (a : PciAddress) (driver record : Option String) (c c' : Catalog)
    (h h' : SimHost) : Prop where
  devices : h'.devices = SimHost.moveDevice a driver h.devices
  homes : ∀ b, h'.homes.get? b = if b = a then record else h.homes.get? b
  faults : h'.faults = h.faults
  catalog : ∀ b, b ≠ a → c'.device? b = c.device? b

/-- The record of a device may stay as it is. -/
theorem homes_self (h : SimHost) (a b : PciAddress) :
    h.homes.get? b = if b = a then h.homes.get? a else h.homes.get? b := by
  by_cases same : b = a
  · rw [if_pos same, same]
  · rw [if_neg same]

/-- A device may stay as it is, whatever is noted of it. -/
theorem leaves_self (h : SimHost) (catalog : ∀ b, b ≠ a → c'.device? b = c.device? b) :
    Leaves a (h.driverOf a) (h.homes.get? a) c c' h h :=
  ⟨(SimHost.moveDevice_driverOf a h.devices).symm, homes_self h a, rfl, catalog⟩

/-- A device that is moved keeps its record. -/
theorem leaves_setDriver (driver : Option String) (call : StoreCall) (h : SimHost)
    (catalog : ∀ b, b ≠ a → c'.device? b = c.device? b) :
    Leaves a driver (h.homes.get? a) c c' h ((h.setDriver a driver).note call) :=
  ⟨rfl, homes_self h a, rfl, catalog⟩

/-- Of what a device leaves twice the later counts. -/
theorem Leaves.trans (first : Leaves a driver record c c' h h')
    (second : Leaves a driver' record' c' c'' h' h'') :
    Leaves a driver' record' c c'' h h'' where
  devices := by rw [second.devices, first.devices, SimHost.moveDevice_moveDevice]
  homes b := by
    rw [second.homes, first.homes]
    by_cases same : b = a
    · rw [if_pos same, if_pos same]
    · rw [if_neg same, if_neg same, if_neg same]
  faults := second.faults.trans first.faults
  catalog b ne := (second.catalog b ne).trans (first.catalog b ne)

/-- A device that is forgotten has no record. -/
theorem Leaves.forget (leaves : Leaves a driver record c c' h h') :
    Leaves a driver none c (c'.drop a) h (SimHost.answer (.clearHome a) h').2 where
  devices := leaves.devices
  homes b := by
    rw [SimHost.homes_clearHome, leaves.homes]
    by_cases same : b = a
    · rw [if_pos same, if_pos same]
    · rw [if_neg same, if_neg same, if_neg same]
  faults := leaves.faults
  catalog b ne := (SortedMap.get?_erase_of_ne _ ne).trans (leaves.catalog b ne)

/-- Nothing else stands at another device. -/
theorem Leaves.view (leaves : Leaves a driver record c c' h h') (ne : b ≠ a) :
    h'.view (.device b) = h.view (.device b) := by
  have found : h'.find? b = h.find? b := by
    show h'.devices.find? _ = _
    rw [leaves.devices]
    exact SimHost.find?_moveDevice_of_ne driver h.devices ne
  have record : h'.homes.get? b = h.homes.get? b := (leaves.homes b).trans (if_neg ne)
  show ((h'.find? b).map _, h'.homes.get? b) = _
  rw [found, record]
  rfl

/-- The device itself, if it is there, is bound to its driver and has its record. -/
theorem Leaves.view_self (leaves : Leaves a driver record c c' h h') :
    h'.view (.device a) = ((h.view (.device a)).1.map fun _ => driver, record) := by
  have found : h'.find? a = (h.find? a).map fun d => { d with driver := driver } := by
    show h'.devices.find? _ = _
    rw [leaves.devices]
    exact SimHost.find?_moveDevice_self a driver h.devices
  show ((h'.find? a).map (·.driver), h'.homes.get? a) =
    (((h.find? a).map (·.driver)).map fun _ => driver, record)
  rw [found, Option.map_map, Option.map_map, leaves.homes, if_pos rfl]
  rfl

/-! ## Bringing a device back -/

theorem device?_noteBinding_of_ne (driver : Option String) (ne : b ≠ a) :
    (c.noteBinding a driver).device? b = c.device? b := by
  rw [Catalog.device?_noteBinding, if_neg ne]

/-- A device that is not bound is bound to its home driver, unless that fails. -/
theorem settles_reattach (home : String) (current : Option String)
    (unbound : h.readDriver a = .ok none) :
    Ensures (of SimHost.answer) free (Binding.reattach a (some home) current).run c h
      fun result c' h' =>
        result = (bindTo h.faults a home current).1 ∧
          Leaves a (bindTo h.faults a home current).2 (h.homes.get? a) c c' h h' := by
  rw [Binding.ensures_reattach]
  refine asks_of.2 ⟨trivial, ?_⟩
  rw [SimHost.answer_bind unbound]
  unfold bindTo
  by_cases fails : h.faults.bind.contains (a, home)
  · simp only [if_pos fails]
    have free : h.driverOf a = none := SimHost.driverOf_of_read unbound
    exact ⟨trivial, free ▸ leaves_self h fun _ _ => rfl⟩
  · simp only [if_neg fails]
    exact ⟨trivial, leaves_setDriver _ _ h fun _ ne => device?_noteBinding_of_ne _ ne⟩

/-- A device that is bound is unbound, unless that fails. -/
theorem settles_detach (current : String) (bound : h.readDriver a = .ok (some current)) :
    Ensures (of SimHost.answer) free (Binding.detach a current false).run c h fun result c' h' =>
      match unbindError? h.faults a (some current) with
      | some e => result = .error e ∧ Leaves a (some current) (h.homes.get? a) c c' h h'
      | none => result = .ok () ∧ Leaves a none (h.homes.get? a) c c' h h' ∧
          h'.readDriver a = .ok none := by
  rw [Binding.ensures_detach]
  refine asks_of.2 ⟨trivial, ?_⟩
  rw [SimHost.answer_unbind bound]
  unfold unbindError?
  by_cases fails : h.faults.unbind.contains a
  · simp only [if_pos fails]
    have free : h.driverOf a = some current := SimHost.driverOf_of_read bound
    exact ⟨trivial, free ▸ leaves_self h fun _ _ => rfl⟩
  · simp only [if_neg fails]
    exact ⟨trivial, leaves_setDriver _ _ h fun _ ne => device?_noteBinding_of_ne _ ne,
      SimHost.readDriver_setDriver _ _ bound⟩

/-- Bringing a device back moves it to its home driver, as far as its faults let it. -/
theorem settles_bringBack (a : PciAddress) (home : String) :
    Ensures (of SimHost.answer) free (Binding.bringBack a (some home)).run c h fun result c' h' =>
      let reached := moveTo h.faults a home ((h.find? a).map (·.driver))
      result = reached.1 ∧ Leaves a reached.2 (h.homes.get? a) c c' h h' := by
  rw [Binding.ensures_bringBack, SimHost.asks_of_read rfl]
  cases read : (SimHost.answer (.boundDriver a) h).1 with
  | error e =>
    obtain ⟨missing, rfl⟩ := SimHost.readDriver_eq_error_iff.1 read
    have driver : h.driverOf a = none := by
      rw [SimHost.driverOf, missing]
      rfl
    simp only [missing, Option.map_none, moveTo]
    exact ⟨trivial, driver ▸ leaves_self h fun _ _ => rfl⟩
  | ok current =>
    have bound : (h.find? a).map (·.driver) = some current := SimHost.readDriver_eq_ok_iff.1 read
    have driver : h.driverOf a = current := SimHost.driverOf_of_read read
    simp only [bound, moveTo]
    by_cases back : current = some home
    · rw [if_pos back, if_pos back]
      exact ⟨rfl, driver ▸ leaves_self h fun _ ne => device?_noteBinding_of_ne _ ne⟩
    · rw [if_neg back, if_neg back]
      cases current with
      | none => exact settles_reattach home none read
      | some other =>
        apply (settles_detach other read).mono
        intro result c' h' unbound
        cases fails : unbindError? h.faults a (some other) with
        | some e =>
          rw [fails] at unbound
          obtain ⟨rfl, leaves⟩ := unbound
          exact ⟨rfl, leaves⟩
        | none =>
          rw [fails] at unbound
          obtain ⟨rfl, unbinding, free⟩ := unbound
          rw [skipOnError_ok]
          apply (settles_reattach home (some other) free).mono
          intro result c'' h'' bound'
          obtain ⟨rfl, binding⟩ := bound'
          rw [unbinding.faults, (unbinding.homes a).trans (if_pos rfl)] at binding
          rw [unbinding.faults]
          exact ⟨rfl, unbinding.trans binding⟩

/-! ## Restoring a device -/

/-- What the catalog knows of a device is what the host holds: its record if it has one, and
otherwise whether it is listed. -/
structure InStep (listed : Bool) (a : PciAddress) (c : Catalog) (h : SimHost) : Prop where
  home : ∀ driver, c.home? a = some driver → h.homes.get? a = some driver
  known : h.homes.get? a = none → (c.device? a).isSome = listed

/-- The catalog is in step with a device as long as it and the record of the device stay. -/
theorem InStep.congr (inStep : InStep listed a c h) (known : c'.device? a = c.device? a)
    (record : h'.homes.get? a = h.homes.get? a) : InStep listed a c' h' := by
  refine ⟨fun driver home => record.trans (inStep.home driver ?_), fun none => ?_⟩
  · rwa [Catalog.home?, known] at home
  · rw [known]
    exact inStep.known (record.symm.trans none)

/-- What becomes of a device keeps the catalog in step with the others. -/
theorem InStep.leaves (inStep : InStep listed b c h) (leaves : Leaves a driver record c c' h h')
    (ne : b ≠ a) : InStep listed b c' h' :=
  inStep.congr (leaves.catalog b ne) ((leaves.homes b).trans (if_neg ne))

/-- The home driver that is found is the one on record. -/
theorem reads_homeDriver (inStep : InStep listed a c h) :
    Ensures (of SimHost.answer) free (Catalog.homeDriver a).run c h fun result c' h' =>
      result = .ok (h.homes.get? a) ∧ c' = c ∧ h' = h := by
  rw [Catalog.ensures_homeDriver]
  cases known : c.home? a with
  | some driver => exact ⟨by rw [inStep.home driver known], rfl, rfl⟩
  | none =>
    rw [SimHost.asks_of_read rfl]
    exact ⟨rfl, rfl, rfl⟩

/-- Restoring a device settles it. -/
theorem settles_restoreOne (inStep : InStep listed a c h) :
    Ensures (of SimHost.answer) free (restoreOne a) c h fun fate c' h' =>
      fate = (settlement h listed a).fate ∧
        Leaves a (settlement h listed a).driver (settlement h listed a).record c c' h h' := by
  rw [ensures_restoreOne]
  apply (reads_homeDriver inStep).mono
  intro result c₁ h₁ read
  obtain ⟨rfl, rfl, rfl⟩ := read
  cases record : h₁.homes.get? a with
  | none =>
    rw [settlement_of_unrecorded record]
    refine ⟨?_, record ▸ leaves_self h₁ fun _ _ => rfl⟩
    have known := inStep.known record
    subst known
    cases c₁.device? a <;> rfl
  | some home =>
    show Ensures _ _ (Binding.restore a).run c₁ h₁ _
    rw [Binding.ensures_restore]
    apply (reads_homeDriver inStep).mono
    intro result c₂ h₂ read
    obtain ⟨rfl, rfl, rfl⟩ := read
    rw [record, skipOnError_ok, settlement_of_recorded record]
    apply (settles_bringBack a home).mono
    intro result c₃ h₃ brought
    obtain ⟨rfl, leaves⟩ := brought
    rw [record] at leaves
    show skipOnError _ _ _ c₃ h₃
    generalize moveTo h₂.faults a home ((h₂.find? a).map (·.driver)) = moved at leaves ⊢
    obtain ⟨e | _, driver⟩ := moved
    · exact ⟨rfl, leaves⟩
    · rw [skipOnError_ok, Catalog.ensures_discard]
      exact asks_of.2 ⟨trivial, rfl, leaves.forget⟩

end Teardown

end Provision
