import Provision.Proofs.Simulation.Frame

/-!
# Home drivers are never lost

A device that was bound to its home driver before the first run can be brought back
at every moment: it is bound to its home driver, or the durable record names it.
This holds after every single call, so also where a run ends in the middle, and
however many calls fail.  Three things carry it through a history of runs: the
catalog never knows of a record that is not there, a record is only ever made of the
home driver, and a journal that is still to be undone never leads a device away from
its home driver without a record.

Main results:

- `HomeDriver.kept_handOver`, `HomeDriver.kept_bringBack`: moving a device to
  another driver, and back.
- `HomeDriver.kept_apply`, `HomeDriver.kept_undoAll`: making a step, and undoing a
  journal.
-/

namespace Provision

open StoreTerms CatalogProg

/-! ## What the catalog knows of records -/

namespace Catalog

variable {c : Catalog} {a b : PciAddress}

@[simp]
theorem home?_noteBinding (driver : Option String) :
    (c.noteBinding b driver).home? a = c.home? a := by
  unfold home? device? noteBinding
  rw [SortedMap.get?_modify]
  by_cases same : a = b
  · rw [if_pos same, same]
    cases c.records.get? b <;> rfl
  · rw [if_neg same]

theorem home?_noteHome (driver : Option String) :
    (c.noteHome b driver).home? a =
      if a = b then (c.device? b).bind fun _ => driver else c.home? a := by
  unfold home? device? noteHome
  rw [SortedMap.get?_modify]
  by_cases same : a = b
  · rw [if_pos same, if_pos same]
    cases c.records.get? b <;> rfl
  · rw [if_neg same, if_neg same]

theorem home?_drop : (c.drop b).home? a = if a = b then none else c.home? a := by
  unfold home? device? drop
  rw [SortedMap.get?_erase]
  by_cases same : a = b
  · rw [if_pos same, if_pos same]
    rfl
  · rw [if_neg same, if_neg same]

theorem home?_enlist (index : Nat) (d : TrackedDevice) :
    (c.enlist index d).home? a = if a = d.address then d.homeDriver else c.home? a := by
  unfold home? device? enlist
  rw [SortedMap.get?_insert]
  by_cases same : a = d.address
  · rw [if_pos same, if_pos same]
    rfl
  · rw [if_neg same, if_neg same]

theorem home?_adopted (current : Option String) (home : String) :
    ({ c with records := c.records.insert b (adopted b current home) } : Catalog).home? a =
      if a = b then some home else c.home? a := by
  unfold home? device?
  rw [SortedMap.get?_insert]
  by_cases same : a = b
  · rw [if_pos same, if_pos same]
    rfl
  · rw [if_neg same, if_neg same]

end Catalog

/-! ## Calls on a device -/

namespace SimHost

variable {h : SimHost} {a b : PciAddress} {driver : String}

/-- A device that is moved gets another driver; no other device does, and no record changes. -/
theorem devices_of_moved {h' : SimHost} {x : Option String}
    (after : h'.view = Function.update h.view (.device b) (some x, h.homes.get? b)) :
    (h'.driverOf a = if a = b then x else h.driverOf a) ∧
      h'.homes.get? a = h.homes.get? a := by
  have here := congrFun after (.device a)
  by_cases same : a = b
  · subst same
    rw [Function.update_self] at here
    rw [if_pos rfl, driverOf_eq_view, here]
    exact ⟨rfl, congrArg Prod.snd here⟩
  · have other : Resource.device a ≠ .device b := fun e => same (Resource.device.inj e)
    rw [Function.update_of_ne other] at here
    rw [if_neg same, driverOf_eq_view, here, driverOf_eq_view]
    exact ⟨rfl, congrArg Prod.snd here⟩

theorem homes_setHome (h : SimHost) (a b : PciAddress) (driver : String) :
    (answer (.setHome b driver) h).2.homes.get? a =
    if a = b then some driver else h.homes.get? a :=
  SortedMap.get?_insert ..

theorem homes_clearHome (h : SimHost) (a b : PciAddress) :
    (answer (.clearHome b) h).2.homes.get? a =
    if a = b then none else h.homes.get? a :=
  SortedMap.get?_erase ..

end SimHost

namespace HomeDriver

variable {a b : PciAddress} {home : String} {c c' : Catalog} {h h' : SimHost}

/-! ## Safety -/

/-- The home driver of a device is not lost: the device is bound to it, or it is on record; and no
other driver is on record. -/
structure Safe (a : PciAddress) (home : String) (h : SimHost) : Prop where
  held : h.driverOf a = some home ∨ h.homes.get? a = some home
  only : ∀ driver, h.homes.get? a = some driver → driver = home

/-- A device that is bound to no driver or to another one has its home driver on record. -/
theorem Safe.recorded (safe : Safe a home h) (away : h.driverOf a ≠ some home) :
    h.homes.get? a = some home :=
  safe.held.resolve_left away

/-- A device without a record is bound to its home driver. -/
theorem Safe.bound (safe : Safe a home h) (unrecorded : h.homes.get? a = none) :
    h.driverOf a = some home := by
  apply safe.held.resolve_right
  intro recorded
  rw [unrecorded] at recorded
  cases recorded

theorem Safe.congr (safe : Safe a home h) (driver : h'.driverOf a = h.driverOf a)
    (record : h'.homes.get? a = h.homes.get? a) : Safe a home h' :=
  ⟨driver ▸ record ▸ safe.held, record ▸ safe.only⟩

/-- The catalog and the host are in step: the home driver is not lost, the catalog knows of no
record that is not there, and the home driver hands no device to user space. -/
structure Kept (a : PciAddress) (home : String) (c : Catalog) (h : SimHost) : Prop where
  safe : Safe a home h
  known : ∀ driver, c.home? a = some driver → h.homes.get? a = some driver
  native : c.isPassthrough home = false

/-- The terms of not losing the home driver of a device at any call. -/
def safely (a : PciAddress) (home : String) : StoreTerms SimHost := fun _ _ _ h' => Safe a home h'

/-- The contract of keeping the home driver of a device, on a host on which calls fail. -/
abbrev Keeps {α : Type} (a : PciAddress) (home : String) (p : CatalogProg α) (c : Catalog)
    (h : SimHost) (Q : α → Catalog → SimHost → Prop) : Prop :=
  Ensures (orFails SimHost.answer) (safely a home) p c h Q

/-! ## Calls -/

/-- A call that fails loses nothing. -/
theorem asks {call : StoreCall} {Q : call.Reply → SimHost → Prop} (safe : Safe a home h)
    (fails : ∀ e, Q (.error e) h)
    (succeeds : ∀ v, (SimHost.answer call h).1 = .ok v →
      Safe a home (SimHost.answer call h).2 ∧ Q (.ok v) (SimHost.answer call h).2) :
    Asks (orFails SimHost.answer) (safely a home) call h Q :=
  SimHost.asks_unreliable (fun e => ⟨safe, fails e⟩) succeeds

/-- A call that reads loses nothing. -/
theorem asks_read {call : StoreCall} {Q : call.Reply → SimHost → Prop}
    (reads : call.writes = false) (safe : Safe a home h) (fails : ∀ e, Q (.error e) h)
    (succeeds : ∀ v, (SimHost.answer call h).1 = .ok v → Q (.ok v) h) :
    Asks (orFails SimHost.answer) (safely a home) call h Q := by
  apply asks safe fails
  intro v reply
  rw [SimHost.answer_of_read reads]
  exact ⟨safe, succeeds v reply⟩

/-- A device that is bound to a driver was unbound, so its home driver is on record. -/
theorem Safe.bind {driver : String} (safe : Safe a home h)
    (ok : (SimHost.answer (.bind b driver) h).1 = .ok ()) :
    Safe a home (SimHost.answer (.bind b driver) h).2 := by
  obtain ⟨read, after⟩ := SimHost.view_bind ok
  obtain ⟨moved, record⟩ := SimHost.devices_of_moved (a := a) after
  by_cases same : a = b
  · subst same
    have free : h.driverOf a = none := SimHost.driverOf_of_read read
    have recorded : h.homes.get? a = some home := safe.recorded (by rw [free]; exact nofun)
    exact ⟨.inr (record.trans recorded), fun driver there => safe.only driver (record ▸ there)⟩
  · rw [if_neg same] at moved
    exact safe.congr moved record

/-- A device is unbound safely when its home driver is on record. -/
theorem Safe.unbind {driver : String} (safe : Safe a home h)
    (recorded : b = a → h.homes.get? a = some home)
    (ok : (SimHost.answer (.unbind b driver) h).1 = .ok ()) :
    Safe a home (SimHost.answer (.unbind b driver) h).2 := by
  obtain ⟨moved, record⟩ := SimHost.devices_of_moved (a := a) (SimHost.view_unbind ok).2
  by_cases same : a = b
  · exact ⟨.inr (record.trans (recorded same.symm)), fun driver there =>
      safe.only driver (record ▸ there)⟩
  · rw [if_neg same] at moved
    exact safe.congr moved record

/-- The home driver is put on record. -/
theorem Safe.setHome {driver : String} (safe : Safe a home h) (isHome : b = a → driver = home) :
    Safe a home (SimHost.answer (.setHome b driver) h).2 := by
  have record := h.homes_setHome a b driver
  by_cases same : a = b
  · obtain rfl := isHome same.symm
    rw [if_pos same] at record
    refine ⟨.inr record, fun other there => ?_⟩
    exact (Option.some.inj (record.symm.trans there)).symm
  · rw [if_neg same] at record
    exact safe.congr rfl record

/-- A record is cleared safely when the device is bound to its home driver. -/
theorem Safe.clearHome (safe : Safe a home h) (back : b = a → h.driverOf a = some home) :
    Safe a home (SimHost.answer (.clearHome b) h).2 := by
  have record := h.homes_clearHome a b
  by_cases same : a = b
  · rw [if_pos same] at record
    refine ⟨.inl (back same.symm), fun other there => ?_⟩
    rw [record] at there
    cases there
  · rw [if_neg same] at record
    exact safe.congr rfl record

theorem Kept.noteBinding (kept : Kept a home c h) (driver : Option String) :
    Kept a home (c.noteBinding b driver) h :=
  ⟨kept.safe, fun d known => kept.known d (by rwa [Catalog.home?_noteBinding] at known),
    kept.native⟩

/-- The catalog stays in step with a host on which the records stay as they are. -/
theorem Kept.move (kept : Kept a home c h) (safe : Safe a home h')
    (record : h'.homes.get? a = h.homes.get? a) : Kept a home c h' :=
  ⟨safe, fun driver known => record.trans (kept.known driver known), kept.native⟩

/-- A record that was cleared is forgotten. -/
theorem Kept.clear (kept : Kept a home c h) (back : b = a → h.driverOf a = some home)
    (forgotten : ∀ x, c'.home? x = none ∨ x ≠ b ∧ c'.home? x = c.home? x)
    (native : c'.passthrough = c.passthrough) :
    Kept a home c' (SimHost.answer (.clearHome b) h).2 := by
  refine ⟨kept.safe.clearHome back, fun driver known => ?_, ?_⟩
  · rcases forgotten a with nothing | ⟨other, same⟩
    · rw [nothing] at known
      cases known
    · rw [SimHost.homes_clearHome, if_neg other]
      exact kept.known driver (same ▸ known)
  · unfold Catalog.isPassthrough
    rw [native]
    exact kept.native

/-! ## Records -/

/-- The home driver that the catalog or the durable record names is the one on record. -/
theorem kept_homeDriver (b : PciAddress) (kept : Kept a home c h) :
    Keeps a home (Catalog.homeDriver b).run c h fun result c' h' =>
      c' = c ∧ h' = h ∧ ∀ known, result = .ok known → b = a → known = h.homes.get? a := by
  rw [Keeps, Catalog.ensures_homeDriver]
  cases cached : c.home? b with
  | some driver =>
    refine ⟨rfl, rfl, fun known same about => ?_⟩
    subst about
    cases same
    exact (kept.known driver cached).symm
  | none =>
    apply asks_read rfl kept.safe (fun e => ⟨rfl, rfl, nofun⟩)
    intro v reply
    refine ⟨rfl, rfl, fun known same about => ?_⟩
    subst about
    cases same
    exact (Except.ok.inj reply).symm

/-- After a device's record was seen to, its home driver is on record. -/
theorem kept_recordHome {driver : String} (kept : Kept a home c h)
    (bound : b = a → h.driverOf a = some driver) :
    Keeps a home (Catalog.recordHome b driver).run c h fun result c' h' =>
      Kept a home c' h' ∧ h'.driverOf a = h.driverOf a ∧
        (h.homes.get? a = some home → h'.homes.get? a = some home) ∧
        ∀ recorded, result = .ok recorded → b = a → h'.homes.get? a = some home ∧
          (recorded = true → h.homes.get? a = none) := by
  rw [Keeps, Catalog.ensures_recordHome]
  by_cases passthrough : c.isPassthrough driver
  · rw [if_pos passthrough]
    refine ⟨kept, rfl, id, fun recorded same about => ⟨kept.safe.recorded fun held => ?_, ?_⟩⟩
    · rw [bound about] at held
      rw [Option.some.inj held, kept.native] at passthrough
      cases passthrough
    · cases same
      exact nofun
  · rw [if_neg passthrough]
    apply (kept_homeDriver b kept).mono
    intro result c' h' found
    obtain ⟨rfl, rfl, isRecord⟩ := found
    rcases result with e | _ | known
    · exact ⟨kept, rfl, id, nofun⟩
    · have unrecorded : b = a → h'.homes.get? a = none := fun about =>
        (isRecord none rfl about).symm
      have isHome : b = a → driver = home := fun about =>
        Option.some.inj ((bound about).symm.trans (kept.safe.bound (unrecorded about)))
      rw [skipOnError_ok]
      apply asks kept.safe (fun e => ⟨kept, rfl, id, nofun⟩)
      intro _ _
      have safe := kept.safe.setHome isHome
      have record := h'.homes_setHome a b driver
      refine ⟨safe, ⟨safe, fun x known => ?_, kept.native⟩, rfl, fun was => ?_, ?_⟩
      · rw [Catalog.home?_noteHome] at known
        rw [record]
        by_cases same : a = b
        · rw [if_pos same] at known
          rw [if_pos same]
          obtain ⟨_, _, there⟩ := Option.bind_eq_some_iff.1 known
          exact there
        · rw [if_neg same] at known
          rw [if_neg same]
          exact kept.known x known
      · rw [record]
        by_cases same : a = b
        · rw [if_pos same, isHome same.symm]
        · rw [if_neg same, was]
      · intro recorded _ about
        rw [record, if_pos about.symm, isHome about]
        exact ⟨rfl, fun _ => unrecorded about⟩
    · refine ⟨kept, rfl, id, fun recorded same about => ?_⟩
      have there : h'.homes.get? a = some known := (isRecord _ rfl about).symm
      cases same
      refine ⟨?_, nofun⟩
      rw [there, kept.safe.only known there]

/-- A record is taken back when the device is bound to its home driver. -/
theorem kept_forgetHome (kept : Kept a home c h) (back : b = a → h.driverOf a = some home) :
    Keeps a home (Catalog.forgetHome b).run c h fun _ c' h' =>
      Kept a home c' h' ∧ h'.driverOf a = h.driverOf a ∧
        (b ≠ a → h'.homes.get? a = h.homes.get? a) := by
  rw [Keeps, Catalog.ensures_forgetHome]
  apply asks kept.safe (fun e => ⟨kept, rfl, fun _ => rfl⟩)
  intro _ _
  refine ⟨kept.safe.clearHome back, kept.clear back (fun x => ?_) rfl, rfl, fun other => ?_⟩
  · rw [Catalog.home?_noteHome]
    by_cases same : x = b
    · rw [if_pos same]
      left
      cases c.device? b <;> rfl
    · rw [if_neg same]
      exact .inr ⟨same, rfl⟩
  · rw [SimHost.homes_clearHome, if_neg other.symm]

/-- A device is forgotten when it is bound to its home driver. -/
theorem kept_discard (kept : Kept a home c h) (back : b = a → h.driverOf a = some home) :
    Keeps a home (Catalog.discard b).run c h fun _ c' h' => Kept a home c' h' := by
  rw [Keeps, Catalog.ensures_discard]
  apply asks kept.safe (fun e => kept)
  intro _ _
  refine ⟨kept.safe.clearHome back, kept.clear back (fun x => ?_) rfl⟩
  rw [Catalog.home?_drop]
  by_cases same : x = b
  · rw [if_pos same]
    exact .inl rfl
  · rw [if_neg same]
    exact .inr ⟨same, rfl⟩

/-! ## Moving a device -/

/-- A device is unbound when its home driver is on record; a record that was made for it is taken
back only where it is still bound. -/
theorem kept_detach (driver : String) (recorded : Bool) (kept : Kept a home c h)
    (there : b = a → h.homes.get? a = some home)
    (back : recorded = true → b = a → h.driverOf a = some home) :
    Keeps a home (Binding.detach b driver recorded).run c h fun result c' h' =>
      Kept a home c' h' ∧
        (recorded = false ∨ b ≠ a ∨ result = .ok () → h'.homes.get? a = h.homes.get? a) ∧
        (result = .ok () → b = a → h'.driverOf a = none) := by
  rw [Keeps, Binding.ensures_detach]
  refine asks kept.safe (fun e => ?_) fun v reply => ?_
  · cases recorded with
    | false => exact ⟨kept, fun _ => rfl, nofun⟩
    | true =>
      show Asks _ _ (.clearHome b) h _
      have forgotten := kept_forgetHome kept (back rfl)
      rw [Keeps, Catalog.ensures_forgetHome] at forgotten
      apply StoreTerms.Asks.mono forgotten
      intro reply h' holds
      cases reply with
      | error e' => exact ⟨holds.1, fun h => holds.2.2 (by simpa using h), nofun⟩
      | ok _ => exact ⟨holds.1, fun h => holds.2.2 (by simpa using h), nofun⟩
  · obtain ⟨moved, record⟩ := SimHost.devices_of_moved (a := a) (SimHost.view_unbind reply).2
    have safe := kept.safe.unbind there reply
    refine ⟨safe, (kept.move safe record).noteBinding none, fun _ => record, fun _ about => ?_⟩
    rw [moved, if_pos about.symm]

/-- An unbound device is bound again. -/
theorem kept_reattach (prior current : Option String) (kept : Kept a home c h)
    (unbound : b = a → h.driverOf a = none) :
    Keeps a home (Binding.reattach b prior current).run c h fun result c' h' =>
      Kept a home c' h' ∧ h'.homes.get? a = h.homes.get? a ∧
        (result = .ok () → b = a → h'.driverOf a = prior) := by
  rw [Keeps, Binding.ensures_reattach]
  cases prior with
  | none => exact ⟨kept, rfl, fun _ => unbound⟩
  | some driver =>
    apply asks kept.safe (fun e => ⟨kept, rfl, nofun⟩)
    intro v reply
    obtain ⟨moved, record⟩ := SimHost.devices_of_moved (a := a) (SimHost.view_bind reply).2
    have safe := kept.safe.bind reply
    refine ⟨safe, (kept.move safe record).noteBinding _, record, fun _ about => ?_⟩
    rw [moved, if_pos about.symm]

/-- A device is brought back safely to its home driver, and to another driver when its home driver
is on record. -/
theorem kept_bringBack (b : PciAddress) (prior : Option String) (kept : Kept a home c h)
    (sheltered : b = a → prior = some home ∨ h.homes.get? a = some home) :
    Keeps a home (Binding.bringBack b prior).run c h fun result c' h' =>
      Kept a home c' h' ∧ h'.homes.get? a = h.homes.get? a ∧
        (result = .ok () → b = a → h'.driverOf a = prior) := by
  rw [Keeps, Binding.ensures_bringBack]
  apply asks_read rfl kept.safe (fun e => ⟨kept, rfl, nofun⟩)
  intro current read
  have bound : h.driverOf b = current := SimHost.driverOf_of_read read
  show if current = prior then _ else _
  by_cases back : current = prior
  · rw [if_pos back]
    refine ⟨kept.noteBinding prior, rfl, fun _ about => ?_⟩
    rw [← about, bound, back]
  · rw [if_neg back]
    cases current with
    | none => exact kept_reattach prior none kept fun about => about ▸ bound
    | some driver =>
      have there : b = a → h.homes.get? a = some home := by
        intro about
        rcases sheltered about with isHome | recorded
        · refine kept.safe.recorded fun held => back ?_
          rw [← bound, about, held, isHome]
        · exact recorded
      apply (kept_detach driver false kept there nofun).mono
      intro result c' h' detached
      obtain ⟨kept', records, free⟩ := detached
      have record : h'.homes.get? a = h.homes.get? a := records (.inl rfl)
      cases result with
      | error e => exact ⟨kept', record, nofun⟩
      | ok _ =>
        have again := kept_reattach prior (some driver) kept' (free rfl)
        rwa [record] at again

/-! ## Journals -/

/-- What a change says of a device: the driver before it, and whether a record was made. -/
def moved? : Change → Option (PciAddress × Option String × Bool)
  | .rebound a prior recorded | .stranded a prior recorded => some (a, prior, recorded)
  | .moduleLoaded _ | .mounted _ _ | .reserved _ _ => none

/-- Undoing the change leads the device to its home driver, or does not lead it anywhere. -/
def Returns (a : PciAddress) (home : String) (ch : Change) : Prop :=
  ∀ prior recorded, moved? ch = some (a, prior, recorded) → prior = some home

/-- The device's record was made with the change. -/
def Records (a : PciAddress) (ch : Change) : Prop := ∃ prior, moved? ch = some (a, prior, true)

/-- A change of another resource says nothing of the device. -/
theorem moved?_of_ne {ch : Change} (other : ch.resource ≠ .device a) (prior : Option String)
    (recorded : Bool) : moved? ch ≠ some (a, prior, recorded) := by
  intro moved
  cases ch with
  | rebound b p r =>
    cases moved
    exact other rfl
  | stranded b p r =>
    cases moved
    exact other rfl
  | moduleLoaded name => cases moved
  | mounted path pageKb => cases moved
  | reserved pool previous => cases moved

/-- A step noted a change in a way that it can be undone safely. -/
structure Noted (a : PciAddress) (home : String) (before after : SimHost) (ch : Change) : Prop where
  sheltered : Returns a home ch ∨ after.homes.get? a = some home
  records : Records a ch → Returns a home ch ∧ before.homes.get? a = none

/-- Changes, the newest first, that can be undone safely one by one.  Where undoing one of them
takes the record back, the older ones lead to the home driver by themselves. -/
structure Journaled (a : PciAddress) (home : String) (changes : List Change) (h : SimHost) :
    Prop where
  sheltered : ∀ ch ∈ changes, Returns a home ch ∨ h.homes.get? a = some home
  records : ∀ ch ∈ changes, Records a ch → Returns a home ch
  order : changes.Pairwise fun newer older => Records a newer → Returns a home older

theorem journaled_nil : Journaled a home [] h := ⟨nofun, nofun, .nil⟩

/-- Changes can be undone as long as the record is not lost. -/
theorem Journaled.keep {changes : List Change} (journaled : Journaled a home changes h)
    (record : h.homes.get? a = some home → h'.homes.get? a = some home) :
    Journaled a home changes h' where
  sheltered ch hch := (journaled.sheltered ch hch).imp_right record
  records := journaled.records
  order := journaled.order

/-- A change that was noted can be undone together with the older ones. -/
theorem Journaled.note {ch : Change} {older : List Change} (journaled : Journaled a home older h)
    (record : h.homes.get? a = some home → h'.homes.get? a = some home)
    (noted : Noted a home h h' ch) : Journaled a home (ch :: older) h' where
  sheltered := List.forall_mem_cons.2 ⟨noted.sheltered, (journaled.keep record).sheltered⟩
  records := List.forall_mem_cons.2 ⟨fun made => (noted.records made).1, journaled.records⟩
  order := by
    refine journaled.order.cons fun old hold made => ?_
    apply (journaled.sheltered old hold).resolve_right
    intro recorded
    rw [(noted.records made).2] at recorded
    cases recorded

/-- At most one change more was noted. -/
theorem Journaled.take {journal : Journal} {made : Option Change}
    (journaled : Journaled a home journal.newestFirst h)
    (record : h.homes.get? a = some home → h'.homes.get? a = some home)
    (noted : ∀ ch, made = some ch → Noted a home h h' ch) :
    Journaled a home (journal ++ made.toList).newestFirst h' := by
  cases made with
  | none =>
    rw [Option.toList_none, List.append_nil]
    exact journaled.keep record
  | some ch =>
    rw [Journal.newestFirst_append]
    exact journaled.note record (noted ch rfl)

/-! ## Steps of a setup -/

/-- A change of a device whose record was seen to is noted in a way that it can be undone. -/
theorem noted_of_moved {ch : Change} {b : PciAddress} {prior : Option String} {recorded : Bool}
    (safe : Safe a home h) (bound : h.driverOf b = prior)
    (moved : moved? ch = some (b, prior, recorded))
    (there : b = a → h'.homes.get? a = some home)
    (made : recorded = true → b = a → h.homes.get? a = none) : Noted a home h h' ch := by
  constructor
  · by_cases about : b = a
    · exact .inr (there about)
    · left
      intro prior' recorded' moved'
      rw [moved] at moved'
      cases moved'
      exact absurd rfl about
  · rintro ⟨prior', moved'⟩
    rw [moved] at moved'
    cases moved'
    have unrecorded := made rfl rfl
    refine ⟨fun prior'' recorded'' moved'' => ?_, unrecorded⟩
    rw [moved] at moved''
    cases moved''
    rw [← bound]
    exact safe.bound unrecorded

/-- A device whose record was seen to is bound to another driver, or noted as stranded. -/
theorem kept_attach {before : SimHost} {b : PciAddress} {prior : Option String} {recorded : Bool}
    (target : String) (safe : Safe a home before) (bound : before.driverOf b = prior)
    (kept : Kept a home c h)
    (record : before.homes.get? a = some home → h.homes.get? a = some home)
    (there : b = a → h.homes.get? a = some home)
    (made : recorded = true → b = a → before.homes.get? a = none) :
    Keeps a home (Binding.attach b target prior recorded).run c h fun result c' h' =>
      Kept a home c' h' ∧ (before.homes.get? a = some home → h'.homes.get? a = some home) ∧
        ∀ ch, Binding.Failure.noted (result.map some) = some ch → Noted a home before h' ch := by
  rw [Keeps, Binding.ensures_attach]
  refine asks kept.safe (fun e => ⟨kept, record, fun ch hch => ?_⟩) fun _ reply => ?_
  · obtain ⟨driver, _, rfl⟩ := Option.map_eq_some_iff.1 hch
    exact noted_of_moved safe bound rfl there made
  · have same := (SimHost.devices_of_moved (a := a) (SimHost.view_bind reply).2).2
    have safe' := kept.safe.bind reply
    refine ⟨safe', (kept.move safe' same).noteBinding _, fun was => same.trans (record was), ?_⟩
    intro ch hch
    cases hch
    exact noted_of_moved safe bound rfl (fun about => same.trans (there about)) made

/-- A device is handed over with its home driver on record, and the change that is noted can be
undone. -/
theorem kept_handOver (b : PciAddress) (target : String) (kept : Kept a home c h) :
    Keeps a home (Binding.handOver b target).run c h fun result c' h' =>
      Kept a home c' h' ∧ (h.homes.get? a = some home → h'.homes.get? a = some home) ∧
        ∀ ch, Binding.Failure.noted result = some ch → Noted a home h h' ch := by
  rw [Keeps, Binding.ensures_handOver]
  apply asks_read rfl kept.safe (fun e => ⟨kept, id, nofun⟩)
  intro current read
  have bound : h.driverOf b = current := SimHost.driverOf_of_read read
  show if current = some target then _ else _
  by_cases already : current = some target
  · rw [if_pos already]
    exact ⟨kept.noteBinding _, id, nofun⟩
  · rw [if_neg already]
    rw [Binding.ensures_release]
    cases current with
    | none =>
      have there : b = a → h.homes.get? a = some home := fun about =>
        kept.safe.recorded (by rw [← about, bound]; exact nofun)
      exact kept_attach target kept.safe bound kept id there nofun
    | some driver =>
      apply (kept_recordHome kept fun about => about ▸ bound).mono
      intro result c₁ h₁ seen
      obtain ⟨kept₁, driver₁, record₁, there₁⟩ := seen
      cases result with
      | error e => exact ⟨kept₁, record₁, nofun⟩
      | ok recorded =>
        have back : recorded = true → b = a → h₁.driverOf a = some home := fun made about => by
          rw [driver₁]
          exact kept.safe.bound ((there₁ recorded rfl about).2 made)
        have onRecord := fun about => (there₁ recorded rfl about).1
        refine (kept_detach driver recorded kept₁ onRecord back).mono
          fun result c₂ h₂ detached => ?_
        obtain ⟨kept₂, record₂, _⟩ := detached
        cases result with
        | error e =>
          refine ⟨kept₂, fun was => ?_, nofun⟩
          have same : h₂.homes.get? a = h₁.homes.get? a := by
            refine record₂ ?_
            by_cases about : b = a
            · left
              cases recorded with
              | false => rfl
              | true =>
                rw [(there₁ true rfl about).2 rfl] at was
                cases was
            · exact .inr (.inl about)
          exact same.trans (record₁ was)
        | ok _ =>
          have same : h₂.homes.get? a = h₁.homes.get? a := record₂ (.inr (.inr rfl))
          exact kept_attach target kept.safe bound kept₂ (fun was => same.trans (record₁ was))
            (fun about => same.trans (there₁ recorded rfl about).1)
            fun made about => (there₁ recorded rfl about).2 made

/-! ## Other resources -/

theorem Safe.congr_view (safe : Safe a home h) (same : h'.view (.device a) = h.view (.device a)) :
    Safe a home h' := by
  refine safe.congr ?_ (congrArg Prod.snd same)
  rw [SimHost.driverOf_eq_view, SimHost.driverOf_eq_view, same]

/-- A call about another resource loses nothing. -/
theorem asks_elsewhere {call : StoreCall} {Q : call.Reply → SimHost → Prop}
    (other : call.resource? ≠ some (.device a)) (safe : Safe a home h)
    (next : ∀ r h', h'.view (.device a) = h.view (.device a) → Q r h') :
    Asks (orFails SimHost.answer) (safely a home) call h Q := by
  have same := SimHost.view_answer_of_ne other h
  exact asks safe (fun e => next _ h rfl) fun v _ => ⟨safe.congr_view same, next _ _ same⟩

/-- A program about other resources loses nothing. -/
theorem keeps_elsewhere {α : Type} {F : Resource → Prop} {p : CatalogProg α}
    {Q : α → Catalog → SimHost → Prop} (safe : Safe a home h) (outside : ¬ F (.device a))
    (contract : Ensures (orFails SimHost.answer) (within F) p c h Q) :
    Keeps a home p c h fun x c' h' => Q x c' h' ∧ h'.view (.device a) = h.view (.device a) := by
  have framed := contract.invariant
    (J := fun h' => h'.view (.device a) = h.view (.device a)) ?_ rfl
  · exact framed.weaken (fun _ _ _ _ answered => answered) fun _ _ _ _ _ kept =>
      safe.congr_view kept.2.2
  · intro call s r s' answered kept same
    rcases SimHost.after_orFails answered with unchanged | after
    · exact unchanged ▸ same
    · have other : call.resource? ≠ some (.device a) := fun about => outside (kept _ about)
      rw [after, SimHost.view_answer_of_ne other, same]

/-- A program without a catalog that is about other resources keeps the catalog in step. -/
theorem kept_elsewhere {α : Type} {F : Resource → Prop} {p : HostProg α} {Q : α → Prop}
    (kept : Kept a home c h) (outside : ¬ F (.device a))
    (contract : HostProg.Ensures (orFails SimHost.answer) (within F) p h fun x _ => Q x) :
    HostProg.Ensures (orFails SimHost.answer) (safely a home) p h fun x h' =>
      Q x ∧ Kept a home c h' ∧ h'.homes.get? a = h.homes.get? a := by
  have lifted : Ensures (orFails SimHost.answer) (within F) (liftM p : CatalogProg α) c h
      fun x _ _ => Q x := (ensures_lift p).2 contract
  have framed := (ensures_lift p).1 (keeps_elsewhere kept.safe outside lifted)
  apply framed.mono
  intro x h' holds
  have record : h'.homes.get? a = h.homes.get? a := congrArg Prod.snd holds.2
  exact ⟨holds.1, kept.move (kept.safe.congr_view holds.2) record, record⟩

/-- A change of another resource can be undone safely. -/
theorem noted_elsewhere {ch : Change} (other : ch.resource ≠ .device a) : Noted a home h h' ch where
  sheltered := .inl fun prior recorded moved => absurd moved (moved?_of_ne other prior recorded)
  records := fun ⟨prior, moved⟩ => absurd moved (moved?_of_ne other prior true)

/-! ## Steps and their undoing -/

/-- A step keeps the home driver, and the change that it notes can be undone. -/
theorem kept_apply (step : Step) (setup : ∀ a driver, step ≠ .restore a driver)
    (kept : Kept a home c h) :
    Keeps a home (Setup.apply step).run c h fun result c' h' =>
      Kept a home c' h' ∧ (h.homes.get? a = some home → h'.homes.get? a = some home) ∧
        ∀ ch, Binding.Failure.noted result = some ch → Noted a home h h' ch := by
  -- A step that is not about a device notes no change of one.
  have elsewhere {p : HostM (Option Change)} (other : step.resource ≠ .device a)
      (contract : HostProg.Ensures (orFails SimHost.answer) (within fun r => r = step.resource)
        p.run h fun result _ => Binding.Failure.Notes step.resource (result.mapError .plain)) :
      HostProg.Ensures (orFails SimHost.answer) (safely a home) p.run h fun result h' =>
        Kept a home c h' ∧ (h.homes.get? a = some home → h'.homes.get? a = some home) ∧
          ∀ ch, Binding.Failure.noted (result.mapError .plain) = some ch →
            Noted a home h h' ch := by
    apply (kept_elsewhere kept (fun same => other same.symm) contract).mono
    intro result h' holds
    obtain ⟨notes, kept', record⟩ := holds
    refine ⟨kept', fun was => record.trans was, fun ch noted => ?_⟩
    exact noted_elsewhere ((notes ch noted).symm ▸ other)
  cases step with
  | loadModule m =>
    rw [Keeps, Setup.ensures_apply_loadModule]
    exact elsewhere nofun (Loading.within_require m rfl)
  | mount r =>
    rw [Keeps, Setup.ensures_apply_mount]
    exact elsewhere nofun (Reserving.within_mount r rfl)
  | reserve r =>
    rw [Keeps, Setup.ensures_apply_reserve]
    exact elsewhere nofun (Reserving.within_reserve r rfl)
  | rebind b driver => exact kept_handOver b driver kept
  | restore b driver => exact absurd rfl (setup b driver)

/-- A device is brought back safely, and its record is taken back only if it was made with the
change. -/
theorem kept_undo_rebound {ch : Change} {b : PciAddress} {prior : Option String} {recorded : Bool}
    (moves : moved? ch = some (b, prior, recorded)) (kept : Kept a home c h)
    (sheltered : Returns a home ch ∨ h.homes.get? a = some home)
    (records : Records a ch → Returns a home ch) :
    Keeps a home (Setup.undo (.rebound b prior recorded)).run c h fun _ c' h' =>
      Kept a home c' h' ∧
        (h.homes.get? a = some home → h'.homes.get? a = some home ∨ Records a ch) := by
  have back : b = a → prior = some home ∨ h.homes.get? a = some home := by
    rintro rfl
    exact sheltered.imp_left fun returns => returns prior recorded moves
  rw [Keeps, Setup.ensures_undo_rebound]
  apply (kept_bringBack b prior kept back).mono
  intro result c₁ h₁ brought
  obtain ⟨kept₁, record₁, driver₁⟩ := brought
  cases result with
  | error e => exact ⟨kept₁, fun was => .inl (record₁.trans was)⟩
  | ok _ =>
    cases recorded with
    | false => exact ⟨kept₁, fun was => .inl (record₁.trans was)⟩
    | true =>
      have isBack : b = a → h₁.driverOf a = some home := by
        intro about
        rw [driver₁ rfl about]
        subst about
        exact records ⟨prior, moves⟩ prior true moves
      rw [skipOnError_ok, if_pos rfl]
      apply (kept_forgetHome kept₁ isBack).mono
      intro _ c₂ h₂ forgotten
      refine ⟨forgotten.1, fun was => ?_⟩
      by_cases about : b = a
      · subst about
        exact .inr ⟨prior, moves⟩
      · exact .inl ((forgotten.2.2 about).trans (record₁.trans was))

/-- A change is undone safely. -/
theorem kept_undo {ch : Change} (kept : Kept a home c h)
    (sheltered : Returns a home ch ∨ h.homes.get? a = some home)
    (records : Records a ch → Returns a home ch) :
    Keeps a home (Setup.undo ch).run c h fun _ c' h' =>
      Kept a home c' h' ∧
        (h.homes.get? a = some home → h'.homes.get? a = some home ∨ Records a ch) := by
  have elsewhere {call : StoreCall} (other : call.resource? ≠ some (.device a)) :
      Asks (orFails SimHost.answer) (safely a home) call h fun _ h' =>
        Kept a home c h' ∧
          (h.homes.get? a = some home → h'.homes.get? a = some home ∨ Records a ch) := by
    apply asks_elsewhere other kept.safe
    intro r h' same
    have record : h'.homes.get? a = h.homes.get? a := congrArg Prod.snd same
    exact ⟨kept.move (kept.safe.congr_view same) record, fun was => .inl (record.trans was)⟩
  cases ch with
  | moduleLoaded name =>
    rw [Keeps, Setup.ensures_undo_moduleLoaded]
    exact elsewhere nofun
  | mounted path pageKb =>
    rw [Keeps, Setup.ensures_undo_mounted]
    exact elsewhere nofun
  | reserved pool previous =>
    rw [Keeps, Setup.ensures_undo_reserved]
    exact elsewhere nofun
  | rebound b prior recorded => exact kept_undo_rebound rfl kept sheltered records
  | stranded b prior recorded => exact kept_undo_rebound rfl kept sheltered records

/-- A journal is undone safely, whichever of its changes cannot be undone. -/
theorem kept_undoAll {changes : List Change} (kept : Kept a home c h)
    (journaled : Journaled a home changes h) :
    Keeps a home (Setup.undoAll changes) c h fun _ c' h' => Kept a home c' h' := by
  induction changes generalizing c h with
  | nil => exact Setup.ensures_undoAll_nil.2 kept
  | cons ch older ih =>
    rw [Keeps, Setup.ensures_undoAll_cons]
    have first := List.mem_cons_self (a := ch) (l := older)
    refine (kept_undo kept (journaled.sheltered ch first) (journaled.records ch first)).mono ?_
    rintro result c' h' ⟨kept', record⟩
    have journaled' : Journaled a home older h' := by
      refine ⟨fun old hold => ?_, fun old hold => ?_, journaled.order.of_cons⟩
      · rcases journaled.sheltered old (List.mem_cons_of_mem _ hold) with returns | was
        · exact .inl returns
        · exact (record was).symm.imp_left (List.rel_of_pairwise_cons journaled.order hold)
      · exact journaled.records old (List.mem_cons_of_mem _ hold)
    exact (ih kept' journaled').mono fun _ _ _ kept => kept

end HomeDriver

end Provision
