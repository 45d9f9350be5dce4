import Provision.Proofs.Contract.Invariant

/-!
# Bookkeeping about devices

To move a device, or to bring it back, only calls about that device are made, and only
that device is noted in the catalog: what it is bound to, its record, or that it is
forgotten.  How the calls are answered does not matter, so an invariant of the catalog
that these three notes keep is kept whatever fails on the host.

Main results:

- `notesKeep_others`, `notesKeep_unknown`: what is known of the other devices, and that a
  device is not known.
- `Binding.keeps_handOver`, `Binding.keeps_bringBack`, `Binding.keeps_restore`: moving a
  device, and bringing it back.
- `Setup.keeps_applyFrom`, `Teardown.keeps_restoreOne`: setups, and one device of a
  teardown.
-/

namespace Provision

open StoreTerms CatalogProg

/-! ## Calls about a device -/

/-- The device that a call is about, whether the call reads or changes it. -/
def StoreCall.device? : StoreCall → Option PciAddress
  | .boundDriver a | .unbind a _ | .bind a _ | .homeDriver a | .setHome a _ | .clearHome a => some a
  | .isMounted _ | .mount _ _ | .unmount _ | .pageCount _ | .setPageCount _ _ | .moduleState _
  | .loadModule _ | .unloadModule _ | .listDevices _ | .recordedDevices => none

variable {σ : Type} {A : StoreTerms σ} {I : Catalog → Prop} {a b : PciAddress} {c : Catalog}
  {s : σ}

/-- The terms of making no call but about one device. -/
def StoreTerms.about (a : PciAddress) : StoreTerms σ := fun call _ _ _ => call.device? = some a

/-- A call about the device may be made, whatever it is answered. -/
theorem StoreTerms.asks_about {call : StoreCall} {Q : call.Reply → σ → Prop}
    (here : call.device? = some a) (next : ∀ r s', Q r s') : Asks A (about a) call s Q :=
  fun r s' _ => ⟨here, next r s'⟩

/-! ## Notes -/

namespace Catalog

/-- A note about a binding changes what is known of its device, if it is known. -/
theorem device?_noteBinding (driver : Option String) :
    (c.noteBinding b driver).device? a =
      if a = b then (c.device? b).map fun d => { d with currentDriver := driver }
      else c.device? a :=
  SortedMap.get?_modify ..

/-- A note about a record changes what is known of its device, if it is known. -/
theorem device?_noteHome (driver : Option String) :
    (c.noteHome b driver).device? a =
      if a = b then (c.device? b).map fun d => { d with homeDriver := driver }
      else c.device? a :=
  SortedMap.get?_modify ..

/-- A device that is forgotten is not known, and the others are known as before. -/
theorem device?_drop : (c.drop b).device? a = if a = b then none else c.device? a :=
  SortedMap.get?_erase ..

end Catalog

/-- What is noted of a device keeps an invariant of the catalog. -/
structure NotesKeep (a : PciAddress) (I : Catalog → Prop) : Prop where
  binding : ∀ c driver, I c → I (c.noteBinding a driver)
  home : ∀ c driver, I c → I (c.noteHome a driver)
  drop : ∀ c, I c → I (c.drop a)

theorem notesKeep_true (a : PciAddress) : NotesKeep a fun _ => True :=
  ⟨fun _ _ => id, fun _ _ => id, fun _ => id⟩

/-- What is noted of a device leaves what is known of another one as it is. -/
theorem notesKeep_others (ne : b ≠ a) (known : Option TrackedDevice) :
    NotesKeep a fun c => c.device? b = known where
  binding c driver same := by rw [Catalog.device?_noteBinding, if_neg ne, same]
  home c driver same := by rw [Catalog.device?_noteHome, if_neg ne, same]
  drop c same := by rw [Catalog.device?_drop, if_neg ne, same]

/-- A note makes no device known. -/
theorem notesKeep_unknown (a b : PciAddress) : NotesKeep a fun c => c.device? b = none := by
  by_cases here : b = a
  · subst here
    refine ⟨fun c driver none => ?_, fun c driver none => ?_, fun c none => ?_⟩
    · rw [Catalog.device?_noteBinding, none, Option.map_none, ite_self]
    · rw [Catalog.device?_noteHome, none, Option.map_none, ite_self]
    · rw [Catalog.device?_drop, none, ite_self]
  · exact notesKeep_others here none

/-- Programs that make no call but about one device and keep an invariant of the catalog. -/
abbrev Keeps {α : Type} (A : StoreTerms σ) (a : PciAddress) (I : Catalog → Prop)
    (p : CatalogProg α) : Prop :=
  Maintains A (about a) (fun c _ => I c) p

/-! ## Home drivers -/

namespace Catalog

/-- Asking for the home driver of a device concerns no other device. -/
theorem keeps_homeDriver (a : PciAddress) : Keeps A a I (homeDriver a).run := by
  intro c s holds
  rw [ensures_homeDriver]
  cases c.home? a with
  | some driver => exact holds
  | none => exact asks_about rfl fun _ _ => holds

/-- Putting its home driver on record is noted of the device only. -/
theorem keeps_recordHome (notes : NotesKeep a I) (driver : String) :
    Keeps A a I (recordHome a driver).run := by
  intro c s holds
  rw [ensures_recordHome]
  by_cases passthrough : c.isPassthrough driver
  · rw [if_pos passthrough]
    exact holds
  · rw [if_neg passthrough]
    apply (keeps_homeDriver a holds).mono
    intro home c' s' holds'
    rcases home with e | _ | known
    · exact holds'
    · refine asks_about rfl fun r _ => ?_
      cases r with
      | error e => exact holds'
      | ok _ => exact notes.home c' _ holds'
    · exact holds'

/-- That its record was taken back is noted of the device only. -/
theorem keeps_forgetHome (notes : NotesKeep a I) : Keeps A a I (forgetHome a).run := by
  intro c s holds
  rw [ensures_forgetHome]
  refine asks_about rfl fun r _ => ?_
  cases r with
  | error e => exact holds
  | ok _ => exact notes.home c _ holds

/-- Only the device itself is forgotten with its record. -/
theorem keeps_discard (notes : NotesKeep a I) : Keeps A a I (discard a).run := by
  intro c s holds
  rw [ensures_discard]
  refine asks_about rfl fun r _ => ?_
  cases r with
  | error e => exact holds
  | ok _ => exact notes.drop c holds

end Catalog

/-! ## Moving devices -/

namespace Binding

/-- That it was unbound is noted of the device only, as is its record. -/
theorem keeps_detach (notes : NotesKeep a I) (driver : String) (recorded : Bool) :
    Keeps A a I (detach a driver recorded).run := by
  intro c s holds
  rw [ensures_detach]
  refine asks_about rfl fun r _ => ?_
  cases r with
  | ok _ => exact notes.binding c _ holds
  | error e =>
    cases recorded with
    | false => exact holds
    | true =>
      refine asks_about rfl fun r _ => ?_
      cases r with
      | error e => exact holds
      | ok _ => exact notes.home c _ holds

/-- Putting a device on record and unbinding it concerns no other device. -/
theorem keeps_release (notes : NotesKeep a I) (current : Option String) :
    Keeps A a I (release a current).run := by
  cases current with
  | none => exact .done _
  | some driver =>
    refine .andThen (Catalog.keeps_recordHome notes driver) fun recorded => ?_
    exact .andThen (keeps_detach notes driver recorded) fun _ => .done _

/-- What it is bound to is noted of the device only. -/
theorem keeps_attach (notes : NotesKeep a I) (target : String) (prior : Option String)
    (recorded : Bool) : Keeps A a I (attach a target prior recorded).run := by
  intro c s holds
  rw [ensures_attach]
  refine asks_about rfl fun r _ => ?_
  cases r with
  | error e => exact holds
  | ok _ => exact notes.binding c _ holds

/-- Handing a device over concerns no other device. -/
theorem keeps_handOver (notes : NotesKeep a I) (target : String) :
    Keeps A a I (handOver a target).run := by
  intro c s holds
  rw [ensures_handOver]
  refine asks_about rfl fun r s' => ?_
  cases r with
  | error e => exact holds
  | ok current =>
    show if current = some target then _ else _
    by_cases already : current = some target
    · rw [if_pos already]
      exact notes.binding c _ holds
    · rw [if_neg already]
      apply (keeps_release notes current holds).mono
      intro recorded c' s'' holds'
      cases recorded with
      | error e => exact holds'
      | ok recorded => exact keeps_attach notes target current recorded holds'

/-- Binding a device to the driver that it had before concerns no other device. -/
theorem keeps_reattach (notes : NotesKeep a I) (prior current : Option String) :
    Keeps A a I (reattach a prior current).run := by
  intro c s holds
  rw [ensures_reattach]
  cases prior with
  | none => exact holds
  | some driver =>
    refine asks_about rfl fun r _ => ?_
    cases r with
    | error e => exact holds
    | ok _ => exact notes.binding c _ holds

/-- Bringing a device back concerns no other device. -/
theorem keeps_bringBack (notes : NotesKeep a I) (prior : Option String) :
    Keeps A a I (bringBack a prior).run := by
  intro c s holds
  rw [ensures_bringBack]
  refine asks_about rfl fun r s' => ?_
  cases r with
  | error e => exact holds
  | ok current =>
    show if current = prior then _ else _
    by_cases back : current = prior
    · rw [if_pos back]
      exact notes.binding c _ holds
    · rw [if_neg back]
      cases current with
      | none => exact keeps_reattach notes prior none holds
      | some driver =>
        apply (keeps_detach notes driver false holds).mono
        intro result c' s'' holds'
        cases result with
        | error e => exact holds'
        | ok _ => exact keeps_reattach notes prior (some driver) holds'

/-- Restoring a device concerns no other device. -/
theorem keeps_restore (notes : NotesKeep a I) : Keeps A a I (restore a).run := by
  refine .andThen (Catalog.keeps_homeDriver a) fun home => ?_
  cases home with
  | none => exact fun _ _ holds => holds
  | some driver =>
    exact .andThen (keeps_bringBack notes (some driver)) fun _ => Catalog.keeps_discard notes

end Binding

/-- Bringing one device back in a teardown concerns no other device. -/
theorem Teardown.keeps_restoreOne (notes : NotesKeep a I) : Keeps A a I (restoreOne a) := by
  intro c s holds
  rw [ensures_restoreOne]
  apply (Catalog.keeps_homeDriver a holds).mono
  intro home c' s' holds'
  rcases home with e | _ | driver
  · exact holds'
  · exact holds'
  · apply (Binding.keeps_restore notes holds').mono
    intro result c'' s'' holds''
    cases result <;> exact holds''

/-! ## Setups -/

namespace Setup

variable (notes : ∀ a, NotesKeep a I)

/-- What is done without the catalog keeps every invariant of it. -/
theorem keeps_apart {α : Type} (p : HostProg α) :
    Maintains A free (fun c _ => I c) (liftM p : CatalogProg α) := by
  intro c s holds
  rw [ensures_lift]
  exact (HostProg.ensures_true p).mono fun _ _ _ => holds

include notes

/-- Making a step notes nothing but what it does to its device, if it has one. -/
theorem keeps_apply (step : Step) : Maintains A free (fun c _ => I c) (apply step).run := by
  cases step with
  | loadModule m => exact .move (keeps_apart _)
  | mount r => exact .move (keeps_apart _)
  | reserve r => exact .move (keeps_apart _)
  | rebind a driver => exact fun _ _ holds => (Binding.keeps_handOver (notes a) driver holds).forget
  | restore a driver =>
    refine .andThen (.move fun _ _ holds => ?_) fun _ => .done _
    exact (Binding.keeps_restore (notes a) holds).forget

/-- Undoing a change notes nothing but what it does to its device, if it has one. -/
theorem keeps_undo (ch : Change) : Maintains A free (fun c _ => I c) (undo ch).run := by
  have moved (a : PciAddress) (prior : Option String) (recorded : Bool) :
      Maintains A free (fun c _ => I c) (undo (.rebound a prior recorded)).run := by
    refine .andThen (fun _ _ holds => (Binding.keeps_bringBack (notes a) prior holds).forget) ?_
    intro _
    cases recorded with
    | false => exact .done _
    | true => exact fun _ _ holds => (Catalog.keeps_forgetHome (notes a) holds).forget
  cases ch with
  | moduleLoaded name => exact keeps_apart _
  | mounted path pageKb => exact keeps_apart _
  | reserved pool previous => exact keeps_apart _
  | rebound a prior recorded => exact moved a prior recorded
  | stranded a prior recorded => exact moved a prior recorded

/-- A setup, once planned, notes nothing but what it does to devices. -/
theorem keeps_applyFrom (timeout : Option Nat) (total index : Nat) (steps : List PlannedStep)
    (p : Progress) :
    Maintains A free (fun c _ => I c) (applyFrom timeout total index steps p) :=
  maintains_applyFrom (keeps_apply notes) (keeps_undo notes) timeout total index steps p

end Setup

end Provision
