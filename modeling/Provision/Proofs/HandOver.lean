import Provision.Proofs.Changes
import Provision.Proofs.Contract.Log
import Provision.Proofs.Histories

/-!
# Handing a device over

A device is handed over in up to five calls, any of which may fail.  What is told of it
in the end is what became of it, and it is enough to take the change back: its binding,
and its durable record.

The home driver is on record before the device is unbound, as long as the catalog does
not remember a record that was removed without it.  The catalog takes itself for the only
one to write records, and does not look up one that it knows.

Main results:

- `Catalog.unreliable_recordHome`: when a record is made, and when none is.
- `Binding.unreliable_handOver`: what is told of a device, and what became of it.
- `Binding.taken_back`: a change that was told can be taken back.
- `Binding.handOver_tells`: both, of a run on a host on which calls fail.
- `Binding.recorded_before_unbinding`: what is on record when a device is unbound.
-/

namespace Provision

open StoreTerms CatalogProg

variable {c : Catalog} {h h' : SimHost} {a : PciAddress} {driver : String}

/-- The driver of a device is read from what stands there. -/
theorem SimHost.readDriver_eq_of_view
    (same : (h'.view (.device a)).1 = (h.view (.device a)).1) :
    h'.readDriver a = h.readDriver a := by
  have fromView (h : SimHost) : h.readDriver a =
      match (h.view (.device a)).1 with
      | some driver => .ok driver
      | none => .error (.noDevice a) := by
    show h.readDriver a = match (h.find? a).map (·.driver) with | some driver => _ | none => _
    unfold SimHost.readDriver
    cases h.find? a <;> rfl
  rw [fromView h', fromView h, same]

/-! ## Records -/

namespace Catalog

/-- The catalog remembers a record that is there no more. -/
def Outdated (c : Catalog) (a : PciAddress) (h : SimHost) : Prop :=
  (c.home? a).isSome ∧ h.homes.get? a = none

/-- The terms of unbinding nothing. -/
def unbindsNothing : StoreTerms SimHost := fun call _ _ _ => ∀ b driver, call ≠ .unbind b driver

/-- What was done about the record of a device, as the result says: one was made where neither the
catalog nor the host had one, and otherwise nothing was changed. -/
def Attended (c : Catalog) (a : PciAddress) (driver : String) (before after : SimHost) :
    Except Error Bool → Prop
  | .error _ => after = before
  | .ok true => c.home? a = none ∧ before.homes.get? a = none ∧
      after = (SimHost.answer (.setHome a driver) before).2
  | .ok false => after = before ∧
      (c.isPassthrough driver ∨ (c.home? a).isSome ∨ (before.homes.get? a).isSome)

/-- Seeing to a record makes one or changes nothing, whichever call fails. -/
theorem unreliable_recordHome (c : Catalog) (h : SimHost) (a : PciAddress) (driver : String) :
    Ensures (orFails SimHost.answer) unbindsNothing (recordHome a driver).run c h
      fun result _ h' => c.Attended a driver h h' result := by
  rw [ensures_recordHome]
  by_cases passthrough : c.isPassthrough driver
  · rw [if_pos passthrough]
    exact ⟨rfl, .inl passthrough⟩
  · rw [if_neg passthrough, ensures_homeDriver]
    cases cached : c.home? a with
    | some home => exact ⟨rfl, .inr (.inl (cached ▸ rfl))⟩
    | none =>
      refine SimHost.asks_unreliable (fun e => ⟨nofun, rfl⟩) fun record read => ⟨nofun, ?_⟩
      obtain rfl : h.homes.get? a = record := Except.ok.inj read
      show skipOnError _ _ (.ok (h.homes.get? a)) c h
      rw [skipOnError_ok]
      cases recorded : h.homes.get? a with
      | some known => exact ⟨rfl, .inr (.inr (recorded ▸ rfl))⟩
      | none =>
        refine SimHost.asks_unreliable (fun e => ⟨nofun, rfl⟩) fun _ _ => ⟨nofun, ?_⟩
        exact ⟨cached, recorded, rfl⟩

/-- Once a record was seen to, there is one, unless the catalog remembers one that is there no
more. -/
theorem Attended.isSome_home_iff {recorded : Bool}
    (attended : c.Attended a driver h h' (.ok recorded)) (native : c.isPassthrough driver = false) :
    (h'.homes.get? a).isSome ↔ ¬ c.Outdated a h := by
  cases recorded with
  | true =>
    obtain ⟨unknown, _, rfl⟩ := attended
    have there : (SimHost.answer (.setHome a driver) h).2.homes.get? a = some driver :=
      SortedMap.get?_insert_self ..
    simp [Outdated, unknown, there]
  | false =>
    obtain ⟨rfl, known⟩ := attended
    have somewhere : (c.home? a).isSome ∨ (h'.homes.get? a).isSome :=
      known.resolve_left (by simp [native])
    cases record : h'.homes.get? a with
    | some home => simp [Outdated, record]
    | none => simpa [Outdated, record, Option.isSome_iff_ne_none] using somewhere

/-- Seeing to a record moves no device. -/
theorem Attended.driver_eq {result : Except Error Bool}
    (attended : c.Attended a driver h h' result) :
    (h'.view (.device a)).1 = (h.view (.device a)).1 := by
  rcases result with e | recorded | recorded
  · exact congrArg (fun h : SimHost => (h.view (.device a)).1) attended
  · rw [attended.1]
  · rw [attended.2.2, SimHost.view_setHome, Function.update_self]
    rfl

/-- What is told of a record is enough to restore it. -/
theorem Attended.record {recorded : Bool} (attended : c.Attended a driver h h' (.ok recorded)) :
    if recorded then h.homes.get? a = none else h'.homes.get? a = h.homes.get? a := by
  cases recorded with
  | true => exact attended.2.1
  | false => rw [attended.1]; rfl

end Catalog

/-! ## Moving a device -/

namespace Binding

open Catalog (Outdated unbindsNothing)

/-- The terms of unbinding only the device, from the driver that it is bound to, and with a record
unless the catalog remembered one that was there no more. -/
def recordedFirst (c : Catalog) (a : PciAddress) (start : SimHost) : StoreTerms SimHost :=
  fun call h _ _ => ∀ b driver, call = .unbind b driver →
    b = a ∧ h.readDriver a = .ok (some driver) ∧
      (c.isPassthrough driver = false → ((h.homes.get? a).isSome ↔ ¬ c.Outdated a start))

/-- A device is unbound once its record was seen to; when it cannot be unbound, it stays bound. -/
theorem unreliable_release (current : Option String)
    (was : (h.view (.device a)).1 = some current) :
    Ensures (orFails SimHost.answer) (recordedFirst c a h) (release a current).run c h
      fun result _ h' =>
        match result with
        | .error _ => (h'.view (.device a)).1 = (h.view (.device a)).1
        | .ok recorded => (h'.view (.device a)).1 = some none ∧
            if recorded then h.homes.get? a = none else h'.homes.get? a = h.homes.get? a := by
  rw [ensures_release]
  cases current with
  | none => exact ⟨was, rfl⟩
  | some driver =>
    have attended : Ensures (orFails SimHost.answer) (recordedFirst c a h)
        (Catalog.recordHome a driver).run c h fun result _ h' => c.Attended a driver h h' result :=
      (Catalog.unreliable_recordHome c h a driver).weaken (fun _ _ _ _ answered => answered)
        fun _ _ _ _ _ spared b driver about => absurd about (spared b driver)
    apply attended.mono
    intro result c₁ h₁ attended
    cases result with
    | error e => exact attended.driver_eq
    | ok recorded =>
      rw [skipOnError_ok, ensures_detach]
      have bound : (h₁.view (.device a)).1 = some (some driver) := attended.driver_eq.trans was
      have first : ∀ r s', recordedFirst c a h (.unbind a driver) h₁ r s' := by
        rintro r s' _ _ ⟨⟩
        exact ⟨rfl, SimHost.readDriver_eq_ok_iff.2 bound, attended.isSome_home_iff⟩
      refine SimHost.asks_unreliable (fun e => ⟨first _ _, ?_⟩) fun _ replied => ⟨first _ _, ?_⟩
      · cases recorded with
        | false => exact attended.driver_eq
        | true =>
          refine SimHost.asks_unreliable (fun e => ⟨nofun, attended.driver_eq⟩)
            fun _ _ => ⟨nofun, ?_⟩
          show ((SimHost.answer (.clearHome a) h₁).2.view (.device a)).1 = _
          rw [SimHost.view_clearHome, Function.update_self]
          exact attended.driver_eq
      · have after := congrFun (SimHost.view_unbind replied).2 (.device a)
        rw [Function.update_self] at after
        refine ⟨congrArg Prod.fst after, ?_⟩
        have kept : (SimHost.answer (.unbind a driver) h₁).2.homes.get? a = h₁.homes.get? a :=
          congrArg Prod.snd after
        rw [kept]
        exact attended.record

/-- What is told of a device that was to be handed over, and what became of it. -/
def Told (a : PciAddress) (target : String) (before after : SimHost) :
    Except Failure (Option Change) → Prop
  | .ok none => before.readDriver a = .ok (some target) ∧ after = before
  | .ok (some ch) => ∃ prior recorded, ch = .rebound a prior recorded ∧
      before.readDriver a = .ok prior ∧ prior ≠ some target ∧ after.readDriver a = .ok (some target)
  | .error ⟨_, some ch⟩ => ∃ driver recorded, ch = .stranded a (some driver) recorded ∧
      before.readDriver a = .ok (some driver) ∧ after.readDriver a = .ok none
  | .error ⟨_, none⟩ => after.readDriver a = before.readDriver a

/-- What is told of a change is enough to take it back. -/
def Reversible (before after : SimHost) (result : Except Failure (Option Change)) : Prop :=
  ∀ ch, Failure.noted result = some ch →
    ch.Undoable (before.view ch.resource) (after.view ch.resource)

theorem reversible_of_noted_eq_none {result : Except Failure (Option Change)}
    (none : Failure.noted result = none) : Reversible h h' result := by
  intro ch noted
  rw [none] at noted
  cases noted

/-- Whichever calls fail, a device that is handed over is told of as it is. -/
theorem unreliable_handOver (c : Catalog) (h : SimHost) (a : PciAddress) (target : String) :
    Ensures (orFails SimHost.answer) (recordedFirst c a h) (handOver a target).run c h
      fun result _ h' => Told a target h h' result ∧ Reversible h h' result := by
  rw [ensures_handOver]
  refine SimHost.asks_unreliable (fun e => ⟨nofun, rfl, reversible_of_noted_eq_none rfl⟩)
    fun current read => ⟨nofun, ?_⟩
  have was : (h.view (.device a)).1 = some current := SimHost.readDriver_eq_ok_iff.1 read
  show if current = some target then _ else _
  by_cases already : current = some target
  · rw [if_pos already]
    exact ⟨⟨already ▸ read, rfl⟩, reversible_of_noted_eq_none rfl⟩
  · rw [if_neg already]
    apply (unreliable_release current was).mono
    intro result c₁ h₁ released
    cases result with
    | error e => exact ⟨SimHost.readDriver_eq_of_view released, reversible_of_noted_eq_none rfl⟩
    | ok recorded =>
      obtain ⟨unbound, record⟩ := released
      have undoable (h' : SimHost) (same : h'.homes.get? a = h₁.homes.get? a) :
          (h.view (.device a)).1 = some current ∧
            if recorded then h.homes.get? a = none else h'.homes.get? a = h.homes.get? a :=
        ⟨was, same ▸ record⟩
      refine (ensures_attach a target current recorded).2 ?_
      refine SimHost.asks_unreliable (fun e => ⟨nofun, ?_⟩) fun _ replied => ⟨nofun, ?_⟩
      · cases current with
        | none =>
          exact ⟨SimHost.readDriver_eq_of_view (unbound.trans was.symm),
            reversible_of_noted_eq_none rfl⟩
        | some driver =>
          refine ⟨⟨driver, recorded, rfl, read, SimHost.readDriver_eq_ok_iff.2 unbound⟩, ?_⟩
          rintro _ ⟨⟩
          exact undoable h₁ rfl
      · have after := congrFun (SimHost.view_bind replied).2 (.device a)
        rw [Function.update_self] at after
        have bound := SimHost.readDriver_eq_ok_iff.2 (congrArg Prod.fst after)
        refine ⟨⟨current, recorded, rfl, read, already, bound⟩, ?_⟩
        rintro _ ⟨⟩
        exact undoable _ (congrArg Prod.snd after)

/-! ## Devices that are bound to the driver already -/

/-- When a device is found to be bound to the driver, that is all that is asked. -/
theorem logged_handOver (a : PciAddress) (target : String) (c : Catalog) (log : CallLog) :
    Ensures .logged free (handOver a target).run c log fun result _ log' =>
      result = .ok none → log' = log ++ [(.boundDriver a, true)] := by
  rw [ensures_handOver, asks_logged]
  intro reply
  cases reply with
  | error e => exact nofun
  | ok current =>
    show if current = some target then _ else _
    by_cases already : current = some target
    · rw [if_pos already]
      exact fun _ => rfl
    · rw [if_neg already]
      -- what follows ends with a change or fails, however its calls are answered
      refine (HostProg.ensures_true _).mono ?_
      rintro ⟨e | recorded, c'⟩ log' -
      · exact nofun
      · refine (HostProg.ensures_true _).mono ?_
        rintro ⟨e | ch, c''⟩ log'' -
        · exact nofun
        · exact nofun

end Binding

/-! ## Taking a change back -/

/-- A call that succeeds on a host on which calls fail is answered by the host alone. -/
theorem StoreHandler.unfailing_of_isOk {σ : Type} {store : StoreHandler σ}
    {fails : Nat → Option Error} {e : StoreEvent (σ × Nat)}
    (answered : store.unreliable fails e.call e.before = (e.reply, e.after))
    (fine : e.reply.isOk = true) : unfailing store e.call e.before.1 e.reply e.after.1 := by
  have either := store.answer_unreliable fails e.call e.before
  rw [answered] at either
  cases replied : e.reply with
  | error failure =>
    rw [replied] at fine
    cases fine
  | ok v =>
    rcases either with alone | ⟨failure, failed, _⟩
    · exact ⟨replied ▸ alone, v, rfl⟩
    · rw [replied] at failed
      cases failed

/-- When no call fails, a device that was moved is moved back. -/
theorem Setup.undo_rebound_succeeds {σ : Type} {s : σ} (a : PciAddress) (prior : Option String)
    (recorded : Bool) :
    Ensures succeeding free (undo (.rebound a prior recorded)).run c s fun result _ _ =>
      result = .ok () := by
  rw [ensures_undo_rebound]
  apply (Binding.bringBack_succeeds a prior).mono
  rintro _ c' s' rfl
  rw [skipOnError_ok]
  cases recorded with
  | false => rfl
  | true =>
    rw [if_pos rfl, Catalog.ensures_forgetHome]
    rintro _ s'' ⟨v, rfl⟩
    exact ⟨trivial, rfl⟩

namespace Binding

/-- When no call fails, a change that can be taken back is taken back. -/
theorem unfailing_undo {a : PciAddress} {prior : Option String} {recorded : Bool}
    {before : SimHost}
    (undoable : Change.Undoable (.rebound a prior recorded) (before.view (.device a))
      (h.view (.device a))) :
    Ensures (unfailing SimHost.answer) free (Setup.undo (.rebound a prior recorded)).run c h
      fun result _ h' => result = .ok () ∧ h'.view (.device a) = before.view (.device a) := by
  have back : Ensures (unfailing SimHost.answer) free (Setup.undo (.rebound a prior recorded)).run
      c h fun result _ h' => result = .ok () → h'.view (.device a) = before.view (.device a) :=
    (Setup.undo_rebound_view rfl undoable).weaken (fun _ _ _ _ answered => answered.1)
      fun _ _ _ _ _ kept => kept
  have succeeds : Ensures (unfailing SimHost.answer) free
      (Setup.undo (.rebound a prior recorded)).run c h fun result _ _ => result = .ok () :=
    (Setup.undo_rebound_succeeds a prior recorded).weaken (fun _ _ _ _ answered => answered.2)
      fun _ _ _ _ _ kept => kept
  exact (succeeds.also back).mono fun _ _ _ both => ⟨both.1, both.2 both.1⟩

/-- A change that is told of is about the device. -/
theorem Told.about {target : String} {result : Except Failure (Option Change)}
    (told : Told a target h h' result) {ch : Change} (noted : Failure.noted result = some ch) :
    ∃ prior recorded, ch = .rebound a prior recorded ∨ ch = .stranded a prior recorded := by
  rcases result with ⟨e, _ | ch⟩ | _ | ch <;> cases noted
  · obtain ⟨driver, recorded, rfl, _⟩ := told
    exact ⟨some driver, recorded, .inr rfl⟩
  · obtain ⟨prior, recorded, rfl, _⟩ := told
    exact ⟨prior, recorded, .inl rfl⟩

/-- A change that can be taken back is taken back by a run in which no call fails. -/
theorem taken_back {ch : Change} {prior : Option String} {recorded : Bool} {before : SimHost}
    (about : ch = .rebound a prior recorded ∨ ch = .stranded a prior recorded)
    (undoable : ch.Undoable (before.view ch.resource) (h.view ch.resource)) (c : Catalog)
    (clock : Nat → Nat) (fails : Nat → Option Error) (w : World (SimHost × Nat))
    (here : w.host.1 = h)
    (noneFails : ∀ e ∈ storeCalls (SimHost.answer.unreliable fails) clock (Setup.undo ch).run c w,
      e.reply.isOk = true) :
    let ending := runOn (SimHost.answer.unreliable fails) clock (Setup.undo ch).run c w
    ending.1.1 = .ok () ∧ ending.2.host.1.view (.device a) = before.view (.device a) := by
  subst here
  have contract : Ensures (unfailing SimHost.answer) free (Setup.undo ch).run c w.host.1
      fun result _ h' => result = .ok () ∧ h'.view (.device a) = before.view (.device a) := by
    rcases about with rfl | rfl <;> exact unfailing_undo undoable
  exact (contract.of_storeCalls w Prod.fst fun e he =>
    StoreHandler.unfailing_of_isOk (answer_of_mem_storeCalls he) (noneFails e he)).2

/-! ## Runs on a host on which calls fail -/

/-- Handing a device over tells what it did, whichever calls fail: that it was bound to the driver
already, in which case nothing was written; that it was bound to another driver, or to none, and
is bound to the new one; or that it was unbound and is stranded; and otherwise its binding is as
it was.  The change that is told, if there is one, is taken back as soon as no call fails: the
device is bound as before, and has the record that it had before. -/
theorem handOver_tells (a : PciAddress) (target : String) (c : Catalog) (clock : Nat → Nat)
    (fails : Nat → Option Error) (w : World (SimHost × Nat)) :
    let store := SimHost.answer.unreliable fails
    let ending := runOn store clock (handOver a target).run c w
    Told a target w.host.1 ending.2.host.1 ending.1.1 ∧
      (ending.1.1 = .ok none →
        ∀ e ∈ storeCalls store clock (handOver a target).run c w, e.call.writes = false) ∧
      ∀ ch, Failure.noted ending.1.1 = some ch →
        ∀ (c' : Catalog) (clock' : Nat → Nat) (fails' : Nat → Option Error)
          (w' : World (SimHost × Nat)), w'.host.1 = ending.2.host.1 →
          (∀ e ∈ storeCalls (SimHost.answer.unreliable fails') clock' (Setup.undo ch).run c' w',
            e.reply.isOk = true) →
          let undone := runOn (SimHost.answer.unreliable fails') clock' (Setup.undo ch).run c' w'
          undone.1.1 = .ok () ∧ undone.2.host.1.readDriver a = w.host.1.readDriver a ∧
            undone.2.host.1.homes.get? a = w.host.1.homes.get? a := by
  intro store ending
  have concluded := (unreliable_handOver c w.host.1 a target).of_run store clock w Prod.fst
    (SimHost.answer.answer_unreliable fails)
  obtain ⟨told, reversible⟩ := concluded.2
  refine ⟨told, fun found e he => ?_, fun ch noted c' clock' fails' w' here noneFails => ?_⟩
  · have logged : Runs store clock (handOver a target).run c w fun trace result _ _ =>
        result = .ok none → World.log (World.storeEvents trace) = [(.boundDriver a, true)] :=
      (logged_handOver a target c []).runs_logged
    have made : (e.call, e.reply.isOk) ∈ World.log (storeCalls store clock (handOver a target).run
        c w) := List.mem_map_of_mem he
    rw [show World.log (storeCalls store clock (handOver a target).run c w) = _ from logged found]
      at made
    have asked : e.call = .boundDriver a := congrArg Prod.fst (List.mem_singleton.1 made)
    rw [asked]
    rfl
  · obtain ⟨prior, recorded, about⟩ := told.about noted
    have back := taken_back about (reversible ch noted) c' clock' fails' w' here noneFails
    exact ⟨back.1, SimHost.readDriver_eq_of_view (congrArg Prod.fst back.2),
      congrArg Prod.snd back.2⟩

/-- A controller is put on record, unbound and cannot be bound to the new driver.  Once no call
fails, it is bound as before, and there is no record. -/
theorem twoNics_stranded_and_back :
    let store := SimHost.answer.unreliable fun place =>
      if place = 4 then some (.noDevice Topology.dataNic) else none
    let start : World (SimHost × Nat) := { host := (Topology.twoNics, 0) }
    let ending := runOn store (fun _ => 0) (handOver Topology.dataNic "vfio-pci").run
      (Policy.freshCatalog {}) start
    Failure.noted ending.1.1 = some (.stranded Topology.dataNic (some "e1000") true) ∧
      ending.2.host.1.homes.get? Topology.dataNic = some "e1000" ∧
      let undone := runOn store (fun _ => 0)
        (Setup.undo (.stranded Topology.dataNic (some "e1000") true)).run ending.1.2 ending.2
      undone.1.1 = .ok () ∧
        undone.2.host.1.readDriver Topology.dataNic =
          Topology.twoNics.readDriver Topology.dataNic ∧
        undone.2.host.1.homes.get? Topology.dataNic = none := by
  intro store start ending
  have told := handOver_tells Topology.dataNic "vfio-pci" (Policy.freshCatalog {}) (fun _ => 0)
    (fun place => if place = 4 then some (.noDevice Topology.dataNic) else none) start
  refine ⟨by decide +kernel, by decide +kernel, ?_⟩
  exact told.2.2 _ (by decide +kernel) ending.1.2 (fun _ => 0)
    (fun place => if place = 4 then some (.noDevice Topology.dataNic) else none) ending.2 rfl
    (by decide +kernel)

/-- Whichever calls fail, only the device is unbound, and from the driver that it is bound to.
When that driver keeps devices on the host, there is a durable record at that moment exactly
unless the catalog remembered one that was there no more; and so there is once the record was
seen to. -/
theorem recorded_before_unbinding (a : PciAddress) (target : String) (c : Catalog)
    (clock : Nat → Nat) (fails : Nat → Option Error) (w : World (SimHost × Nat)) :
    let store := SimHost.answer.unreliable fails
    (∀ e ∈ storeCalls store clock (handOver a target).run c w, ∀ b driver,
      e.call = .unbind b driver →
        b = a ∧ e.before.1.readDriver a = .ok (some driver) ∧
          (c.isPassthrough driver = false →
            ((e.before.1.homes.get? a).isSome ↔ ¬ c.Outdated a w.host.1))) ∧
      ∀ driver, c.isPassthrough driver = false →
        ∀ recorded, (runOn store clock (Catalog.recordHome a driver).run c w).1.1 = .ok recorded →
          (((runOn store clock (Catalog.recordHome a driver).run c w).2.host.1.homes.get?
            a).isSome ↔ ¬ c.Outdated a w.host.1) := by
  intro store
  refine ⟨?_, fun driver native recorded ended => ?_⟩
  · exact ((unreliable_handOver c w.host.1 a target).of_run store clock w Prod.fst
      (SimHost.answer.answer_unreliable fails)).1
  · have attended := ((Catalog.unreliable_recordHome c w.host.1 a driver).of_run store clock w
      Prod.fst (SimHost.answer.answer_unreliable fails)).2
    rw [ended] at attended
    exact attended.isSome_home_iff native

/-- A fresh catalog remembers nothing, so a controller is on record when it is unbound. -/
theorem twoNics_recorded_before_unbinding :
    ∃ e ∈ storeCalls (SimHost.answer.unreliable fun _ => none) (fun _ => 0)
        (handOver Topology.dataNic "vfio-pci").run (Policy.freshCatalog {})
        { host := (Topology.twoNics, 0) },
      e.call = .unbind Topology.dataNic "e1000" ∧
        (e.before.1.homes.get? Topology.dataNic).isSome := by
  let calls := storeCalls (SimHost.answer.unreliable fun _ => none) (fun _ => 0)
    (handOver Topology.dataNic "vfio-pci").run (Policy.freshCatalog {})
    { host := (Topology.twoNics, 0) }
  have unbinds : ∃ e ∈ calls, e.call = .unbind Topology.dataNic "e1000" := by decide +kernel
  obtain ⟨e, he, about⟩ := unbinds
  have first := (recorded_before_unbinding Topology.dataNic "vfio-pci" (Policy.freshCatalog {})
    (fun _ => 0) (fun _ => none) { host := (Topology.twoNics, 0) }).1 e he _ _ about
  exact ⟨e, he, about, (first.2.2 (by decide)).2 fun outdated => absurd outdated.1 (by decide)⟩

/-- A catalog is filled while there is a record, and another one removes it.  The controller is
then unbound without a record, and none was made. -/
theorem twoNics_outdated :
    let recorded := Topology.twoNics.addHome Topology.dataNic "e1000"
    let filled := (runOn SimHost.answer (fun _ => 0) (Catalog.enumerate (Policy.filter {})).run
      (Policy.freshCatalog {}) { host := recorded }).1.2
    let cleared := (SimHost.answer (.clearHome Topology.dataNic) recorded).2
    filled.isPassthrough "e1000" = false ∧
      (∃ e ∈ storeCalls SimHost.answer (fun _ => 0) (handOver Topology.dataNic "vfio-pci").run
          filled { host := cleared },
        e.call = .unbind Topology.dataNic "e1000" ∧
          e.before.homes.get? Topology.dataNic = none) ∧
      (runOn SimHost.answer (fun _ => 0) (Catalog.recordHome Topology.dataNic "e1000").run filled
          { host := cleared }).1.1 = .ok false ∧
      (runOn SimHost.answer (fun _ => 0) (Catalog.recordHome Topology.dataNic "e1000").run filled
          { host := cleared }).2.host.homes.get? Topology.dataNic = none := by
  intro recorded filled cleared
  exact ⟨by decide +kernel, by decide +kernel, rfl, by decide +kernel⟩

end Binding

end Provision
