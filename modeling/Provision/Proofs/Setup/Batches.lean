import Provision.Proofs.Setup.Making
import Provision.Proofs.Teardown.Settlement

/-!
# Devices that are set up in batches

Devices may be set up together, or some of them first and the others later.  What becomes
of a device does not depend on the other devices, and what the devices share is left alone
by a setup that finds it in place, so both ways end the same.

Main results:

- `SimHost.view_handing`, `SimHost.isSome_handing`: what handing a device over makes of it,
  and when it can be made.
- `SimHost.handsOver_makeAll`: devices that are handed over one after the other.
- `Setup.batches_are_one`: a setup of some devices and then of the others ends as a setup of
  all.
-/

namespace Provision

open StoreTerms CatalogProg

variable {h h' h'' : SimHost} {c : Catalog} {g : SetupGoal} {passthrough : SortedSet String}
  {a : PciAddress} {target : String}

/-! ## One device -/

/-- The record of a device after it was unbound from a driver. -/
def recordAfter (passthrough : SortedSet String) (driver : String) (home : Option String) :
    Option String :=
  if passthrough.contains driver then home else some (home.getD driver)

/-- The record of a device after it was released, from what it was bound to. -/
def recordReleased (passthrough : SortedSet String) :
    Option String → Option String → Option String
  | none, home => home
  | some driver, home => recordAfter passthrough driver home

/-- What stands at a device once it was handed over. -/
def handed (passthrough : SortedSet String) (target : String) :
    (Resource.device a).Value → (Resource.device a).Value
  | (none, home) => (none, home)
  | (some current, home) =>
    (some (some target),
      if current = some target then home else recordReleased passthrough current home)

namespace SimHost

theorem of_after {call : StoreCall} (done : h.after call = some h') :
    ∃ v, (answer call h).1 = .ok v ∧ (answer call h).2 = h' := by
  unfold after at done
  cases replied : (answer call h).1 with
  | error e => simp [replied, Except.isOk, Except.toBool] at done
  | ok v =>
    rw [replied] at done
    exact ⟨v, rfl, Option.some.inj done⟩

theorem view_recording (passthrough : SortedSet String) (h : SimHost) (a : PciAddress)
    (driver : String) :
    (recording passthrough a driver h).view =
      Function.update h.view (.device a)
        ((h.view (.device a)).1, recordAfter passthrough driver (h.view (.device a)).2) := by
  have still (record : recordAfter passthrough driver (h.view (.device a)).2 =
      (h.view (.device a)).2) : h.view = Function.update h.view (.device a)
        ((h.view (.device a)).1, recordAfter passthrough driver (h.view (.device a)).2) := by
    rw [record]
    exact (Function.update_eq_self (.device a) h.view).symm
  have record : h.homes.get? a = (h.view (.device a)).2 := rfl
  unfold recording
  by_cases native : passthrough.contains driver = true
  · rw [native, Bool.true_or, if_pos rfl]
    exact still (if_pos native)
  · rw [Bool.eq_false_iff.2 native, Bool.false_or, record]
    cases home : (h.view (.device a)).2 with
    | some driver' =>
      have same : recordAfter passthrough driver (h.view (.device a)).2 =
          (h.view (.device a)).2 := by
        rw [recordAfter, if_neg native, home, Option.getD_some]
      rw [home] at still same
      rw [Option.isSome_some, if_pos rfl]
      exact still same
    | none =>
      rw [Option.isSome_none, if_neg Bool.false_ne_true, view_setHome, recordAfter, if_neg native]
      rfl

theorem sameMachine_recording (passthrough : SortedSet String) (h : SimHost) (a : PciAddress)
    (driver : String) :
    SameMachine h (recording passthrough a driver h) := by
  unfold recording
  split
  · exact .refl h
  · exact sameMachine_answer _ h

/-- A device that is released is not bound any more. -/
theorem view_releasing {current : Option String} (bound : h.readDriver a = .ok current)
    (made : releasing passthrough a current h = some h') :
    h'.view = Function.update h.view (.device a)
      (some none, recordReleased passthrough current (h.view (.device a)).2) := by
  cases current with
  | none =>
    cases made
    refine (Function.update_eq_self_iff.2 ?_).symm
    exact Prod.ext (readDriver_eq_ok_iff.1 bound).symm rfl
  | some driver =>
    obtain ⟨v, unbound, rfl⟩ := of_after made
    have record : (recording passthrough a driver h).homes.get? a =
        recordAfter passthrough driver (h.view (.device a)).2 := by
      show ((recording passthrough a driver h).view (.device a)).2 = _
      rw [view_recording, Function.update_self]
    rw [(view_unbind unbound).2, record, view_recording, Function.update_idem]
    rfl

theorem sameMachine_releasing {current : Option String}
    (made : releasing passthrough a current h = some h') : SameMachine h h' := by
  cases current with
  | none =>
    cases made
    exact .refl _
  | some driver =>
    obtain ⟨v, -, rfl⟩ := of_after made
    exact (sameMachine_recording passthrough h a driver).trans (sameMachine_answer _ _)

/-- A device that was handed over was bound to the driver before, or was released and bound. -/
theorem of_handing (made : handing passthrough a target h = some h') :
    h.readDriver a = .ok (some target) ∧ h' = h ∨
      ∃ current h₁, h.readDriver a = .ok current ∧ current ≠ some target ∧
        releasing passthrough a current h = some h₁ ∧
        (answer (.bind a target) h₁).1 = .ok () ∧ h' = (answer (.bind a target) h₁).2 := by
  unfold handing at made
  cases read : h.readDriver a with
  | error e =>
    rw [read] at made
    cases made
  | ok current =>
    rw [read] at made
    dsimp only at made
    by_cases already : current = some target
    · rw [if_pos already] at made
      exact .inl ⟨congrArg Except.ok already, (Option.some.inj made).symm⟩
    · rw [if_neg already] at made
      obtain ⟨h₁, released, bound⟩ := Option.bind_eq_some_iff.1 made
      obtain ⟨_, replied, rfl⟩ := of_after bound
      exact .inr ⟨current, h₁, rfl, already, released, replied, rfl⟩

/-- What is to stand at a device that can be read. -/
theorem handed_of_read {current : Option String} (read : h.readDriver a = .ok current) :
    handed passthrough target (h.view (.device a)) = (some (some target),
      if current = some target then (h.view (.device a)).2
      else recordReleased passthrough current (h.view (.device a)).2) := by
  have there : h.view (.device a) = (some current, (h.view (.device a)).2) :=
    Prod.ext (readDriver_eq_ok_iff.1 read) rfl
  rw [there]
  rfl

/-- Handing a device over changes nothing else, and of the device what it is bound to, and its
record if it has none. -/
theorem view_handing (made : handing passthrough a target h = some h') :
    h'.view =
      Function.update h.view (.device a) (handed passthrough target (h.view (.device a))) := by
  rcases of_handing made with ⟨read, rfl⟩ | ⟨current, h₁, read, ne, released, replied, rfl⟩
  · refine (Function.update_eq_self_iff.2 ?_).symm
    rw [handed_of_read read, if_pos rfl]
    exact Prod.ext (readDriver_eq_ok_iff.1 read).symm rfl
  · have after := view_releasing read released
    have record : h₁.homes.get? a =
        recordReleased passthrough current (h.view (.device a)).2 := by
      show (h₁.view (.device a)).2 = _
      rw [after, Function.update_self]
    rw [(view_bind replied).2, handed_of_read read, if_neg ne, record, after,
      Function.update_idem]

theorem sameMachine_handing (made : handing passthrough a target h = some h') :
    SameMachine h h' := by
  rcases of_handing made with ⟨-, rfl⟩ | ⟨current, h₁, -, -, released, -, rfl⟩
  · exact .refl _
  · exact (sameMachine_releasing released).trans (sameMachine_answer _ h₁)

/-- A device that is not bound is bound where that does not fail. -/
theorem isSome_after_bind {faults : SimFaults} (unbound : h.readDriver a = .ok none)
    (same : h.faults = faults) (current : Option String) :
    (h.after (.bind a target)).isSome = (Teardown.bindTo faults a target current).1.isOk := by
  rw [after, answer_bind unbound, Teardown.bindTo, ← same]
  split <;> rfl

/-- Whether a device can be handed over depends on what it is bound to and on what fails. -/
theorem isSome_handing :
    (handing passthrough a target h).isSome =
      (Teardown.moveTo h.faults a target (h.view (.device a)).1).1.isOk := by
  unfold handing
  cases read : h.readDriver a with
  | error e =>
    have absent : (h.view (.device a)).1 = none :=
      Option.map_eq_none_iff.2 (readDriver_eq_error_iff.1 read).1
    rw [absent]
    rfl
  | ok current =>
    rw [readDriver_eq_ok_iff.1 read, Teardown.moveTo]
    dsimp only
    by_cases already : current = some target
    · rw [if_pos already, if_pos already]
      rfl
    · rw [if_neg already, if_neg already]
      cases current with
      | none => exact isSome_after_bind read rfl none
      | some driver =>
        have machine := sameMachine_recording passthrough h a driver
        have bound : (recording passthrough a driver h).readDriver a = .ok (some driver) := by
          rw [readDriver_eq_ok_iff, view_recording, Function.update_self]
          exact readDriver_eq_ok_iff.1 read
        rw [releasing, after, answer_unbind bound, machine.faults, Teardown.unbindError?]
        by_cases fails : h.faults.unbind.contains a
        · rw [if_pos fails, if_pos fails]
          rfl
        · rw [if_neg fails, if_neg fails]
          exact isSome_after_bind (readDriver_setDriver none _ bound) machine.faults (some driver)

/-- A device can be handed over to a driver. -/
def CanHand (target : String) (h : SimHost) (a : PciAddress) : Prop :=
  (Teardown.moveTo h.faults a target (h.view (.device a)).1).1.isOk = true

theorem canHand_iff (passthrough : SortedSet String) :
    CanHand target h a ↔ (handing passthrough a target h).isSome = true := by
  rw [isSome_handing, CanHand]

theorem CanHand.congr (can : CanHand target h a) (faults : h'.faults = h.faults)
    (same : h'.view (.device a) = h.view (.device a)) : CanHand target h' a := by
  unfold CanHand
  rw [faults, same]
  exact can

/-- A device that was handed over can be handed over again, which changes nothing. -/
theorem CanHand.again (can : CanHand target h a)
    (there : h'.view (.device a) = handed passthrough target (h.view (.device a))) :
    CanHand target h' a ∧
      handed passthrough target (h'.view (.device a)) = h'.view (.device a) := by
  unfold CanHand at can ⊢
  rw [there]
  generalize h.view (.device a) = before at can ⊢
  obtain ⟨_ | current, home⟩ := before
  · cases can
  · constructor
    · simp only [handed, Teardown.moveTo, if_true]
      rfl
    · simp only [handed, if_true]

/-! ## Devices one after the other -/

/-- A host on which some devices were handed over, and nothing else was changed. -/
structure HandsOver (passthrough : SortedSet String) (target : String) (ds : List PciAddress)
    (h h' : SimHost) : Prop where
  machine : SameMachine h h'
  named : ∀ a ∈ ds, h'.view (.device a) = handed passthrough target (h.view (.device a))
  elsewhere : ∀ r, (∀ a ∈ ds, r ≠ .device a) → h'.view r = h.view r

variable {ds ds' : List PciAddress}

theorem HandsOver.of_notMem (done : HandsOver passthrough target ds h h') (other : a ∉ ds) :
    h'.view (.device a) = h.view (.device a) :=
  done.elsewhere _ fun _ named same => other (Resource.device.inj same ▸ named)

/-- Handing devices over makes no difference to which devices can be handed over. -/
theorem HandsOver.canHand_iff (done : HandsOver passthrough target ds h h')
    (can : ∀ a ∈ ds, CanHand target h a) : CanHand target h' a ↔ CanHand target h a := by
  by_cases named : a ∈ ds
  · exact iff_of_true ((can a named).again (done.named a named)).1 (can a named)
  · have same := done.of_notMem named
    exact ⟨fun can => can.congr done.machine.faults.symm same.symm,
      fun can => can.congr done.machine.faults same⟩

/-- Devices that are handed over twice are left alone the second time. -/
theorem HandsOver.append (first : HandsOver passthrough target ds h h')
    (second : HandsOver passthrough target ds' h' h'') (can : ∀ a ∈ ds, CanHand target h a) :
    HandsOver passthrough target (ds ++ ds') h h'' where
  machine := first.machine.trans second.machine
  named a named := by
    by_cases before : a ∈ ds
    · have there := first.named a before
      by_cases again : a ∈ ds'
      · rw [second.named a again, ((can a before).again there).2, there]
      · rw [second.of_notMem again, there]
    · have later := (List.mem_append.1 named).resolve_left before
      rw [second.named a later, first.of_notMem before]
  elsewhere r other := by
    obtain ⟨before, later⟩ := List.forall_mem_append.1 other
    rw [second.elsewhere r later, first.elsewhere r before]

/-- It does not matter in which order devices are handed over. -/
theorem HandsOver.unique (first : HandsOver passthrough target ds h h')
    (second : HandsOver passthrough target ds' h h'') (same : ∀ a, a ∈ ds' ↔ a ∈ ds) :
    SameMachine h' h'' ∧ h''.view = h'.view := by
  refine ⟨⟨second.machine.faults.trans first.machine.faults.symm,
    second.machine.devices.trans first.machine.devices.symm⟩, funext fun r => ?_⟩
  by_cases about : ∃ a ∈ ds, r = .device a
  · obtain ⟨a, named, rfl⟩ := about
    rw [second.named a ((same a).2 named), first.named a named]
  · have other : ∀ a ∈ ds, r ≠ .device a := fun a named is => about ⟨a, named, is⟩
    rw [second.elsewhere r fun a named => other a ((same a).1 named), first.elsewhere r other]

theorem handsOver_handing (made : handing passthrough a target h = some h') :
    HandsOver passthrough target [a] h h' := by
  have after := view_handing made
  refine ⟨sameMachine_handing made, fun b named => ?_, fun r other => ?_⟩
  · obtain rfl := List.mem_singleton.1 named
    rw [after, Function.update_self]
  · rw [after, Function.update_of_ne (other a (List.mem_singleton_self a))]

/-- A device that is handed over could be. -/
theorem canHand_of_handing (made : handing passthrough a target h = some h') :
    ∀ b ∈ [a], CanHand target h b := by
  intro b named
  obtain rfl := List.mem_singleton.1 named
  exact (canHand_iff passthrough).2 (Option.isSome_iff_exists.2 ⟨h', made⟩)

/-- What becomes of devices that are handed over one after the other. -/
theorem handsOver_makeAll
    (made : Step.makeAll passthrough (ds.map (.rebind · target)) h = some h') :
    HandsOver passthrough target ds h h' := by
  induction ds generalizing h with
  | nil =>
    cases made
    exact ⟨.refl _, fun _ named => absurd named List.not_mem_nil, fun _ _ => rfl⟩
  | cons a rest ih =>
    obtain ⟨h₁, here, later⟩ := Option.bind_eq_some_iff.1 made
    exact (handsOver_handing here).append (ih later) (canHand_of_handing here)

/-- Devices can be handed over one after the other where each of them can. -/
theorem isSome_makeAll (passthrough : SortedSet String) :
    (Step.makeAll passthrough (ds.map (.rebind · target)) h).isSome = true ↔
      ∀ a ∈ ds, CanHand target h a := by
  induction ds generalizing h with
  | nil => simp
  | cons a rest ih =>
    rw [List.map_cons, Step.makeAll_cons, List.forall_mem_cons, canHand_iff passthrough]
    show ((handing passthrough a target h).bind _).isSome = true ↔ _
    cases here : handing passthrough a target h with
    | none => simp
    | some h₁ =>
      have unchanged {b : PciAddress} : CanHand target h₁ b ↔ CanHand target h b :=
        (handsOver_handing here).canHand_iff (canHand_of_handing here)
      simp only [Option.bind_some, ih, unchanged, Option.isSome_some, true_and]

end SimHost

/-! ## Setups of some of the devices -/

/-- The same goal for other devices. -/
def SetupGoal.naming (g : SetupGoal) (ds : SortedSet PciAddress) : SetupGoal :=
  { g with devices := ds }

/-- The steps that a goal asks for whatever devices it names. -/
def SetupGoal.shared (g : SetupGoal) : List Step :=
  g.modules.map .loadModule ++ [.mount g.pages, .reserve g.pages]

theorem SetupGoal.steps_naming (g : SetupGoal) (ds : SortedSet PciAddress) :
    (g.naming ds).steps = g.shared ++ ds.toList.map (.rebind · g.target) := rfl

namespace Setup

variable {policy : Policy} {A B U : SortedSet PciAddress}

/-- How a setup with a fresh catalog ends, and the host that it leaves. -/
def runFresh (policy : Policy) (clock : Nat → Nat) (g : SetupGoal) (h : SimHost) :
    Outcome × SimHost :=
  let ran := runOn SimHost.answer clock (run policy g) policy.freshCatalog { host := h }
  (ran.1.1, ran.2.host)

/-- A goal may name some of the devices that another one may name, at any time. -/
theorem Admits.naming {filter : DeviceFilter} (admits : Admits filter (g.naming U) c h)
    (machine : SimHost.SameMachine h h') (some : ∀ a ∈ A.toList, a ∈ U.toList) :
    Admits filter (g.naming A) c h' where
  lists := machine.faults ▸ admits.lists
  admits ts addresses := by
    have admitted := admits.admits ts (addresses.trans (machine.listed_eq filter))
    rw [Plan.admissible_eq_ok_iff] at admitted ⊢
    exact fun a named => admitted a (some a named)

/-- A setup without a deadline and with a fresh catalog. -/
theorem made_runFresh (untimed : policy.timeout = none) (clock : Nat → Nat) (g : SetupGoal)
    (distinct : (h.devices.map (·.address)).Nodup) :
    let ran := runFresh policy clock g h
    let made := Step.makeAll policy.freshCatalog.passthrough g.steps h
    (IsCommitted ran.1 ↔ Admits policy.filter g policy.freshCatalog h ∧ made.isSome = true) ∧
      (IsCommitted ran.1 → made = some ran.2 ∧ ∀ step ∈ g.steps, step.Holds ran.2) ∧
      SimHost.SameMachine h ran.2 := by
  have mirrors : policy.freshCatalog.Mirrors h := Catalog.mirrors_new _ _ distinct
  have contract := (made_run policy untimed g mirrors).also
    ((ready_run policy g).also SimHost.sameMachine_of)
  obtain ⟨-, ⟨commits, made⟩, ready, machine⟩ := contract.of_run SimHost.answer clock
    { host := h } id fun _ _ => rfl
  exact ⟨commits, fun committed => ⟨made committed, (ready committed).1.holds⟩, machine⟩

/-- A committed setup made what its devices share, and then handed each of them over. -/
theorem of_committed (untimed : policy.timeout = none) (clock : Nat → Nat)
    (distinct : (h.devices.map (·.address)).Nodup)
    (committed : IsCommitted (runFresh policy clock (g.naming U) h).1) :
    let native := policy.freshCatalog.passthrough
    Admits policy.filter (g.naming U) policy.freshCatalog h ∧
      ∃ h₁, Step.makeAll native g.shared h = some h₁ ∧
        (∀ a ∈ U.toList, SimHost.CanHand g.target h₁ a) ∧
        SimHost.HandsOver native g.target U.toList h₁
          (runFresh policy clock (g.naming U) h).2 := by
  intro native
  obtain ⟨commits, done, -⟩ := made_runFresh untimed clock (g.naming U) distinct
  obtain ⟨made, -⟩ := done committed
  rw [SetupGoal.steps_naming, Step.makeAll_append] at made
  obtain ⟨h₁, shared, named⟩ := Option.bind_eq_some_iff.1 made
  refine ⟨(commits.1 committed).1, h₁, shared, ?_, SimHost.handsOver_makeAll named⟩
  exact (SimHost.isSome_makeAll native).1 (Option.isSome_iff_exists.2 ⟨_, named⟩)

/-- A setup is committed where what its devices share can be made and each of them can be handed
over.  What they share is in place afterwards. -/
theorem commits_naming {ds : SortedSet PciAddress} {h₁ : SimHost}
    (untimed : policy.timeout = none) (clock : Nat → Nat)
    (distinct : (h.devices.map (·.address)).Nodup)
    (admits : Admits policy.filter (g.naming ds) policy.freshCatalog h)
    (shared : Step.makeAll policy.freshCatalog.passthrough g.shared h = some h₁)
    (can : ∀ a ∈ ds.toList, SimHost.CanHand g.target h₁ a) :
    let native := policy.freshCatalog.passthrough
    let ran := runFresh policy clock (g.naming ds) h
    IsCommitted ran.1 ∧ SimHost.HandsOver native g.target ds.toList h₁ ran.2 ∧
      Step.makeAll native g.shared ran.2 = some ran.2 := by
  intro native ran
  obtain ⟨h', named⟩ := Option.isSome_iff_exists.1 ((SimHost.isSome_makeAll native).2 can)
  have made : Step.makeAll native (g.naming ds).steps h = some h' := by
    rw [SetupGoal.steps_naming, Step.makeAll_append, shared, Option.bind_some, named]
  obtain ⟨commits, done, -⟩ := made_runFresh untimed clock (g.naming ds) distinct
  have committed : IsCommitted ran.1 :=
    commits.2 ⟨admits, Option.isSome_iff_exists.2 ⟨h', made⟩⟩
  obtain ⟨left, holds⟩ := done committed
  obtain rfl : h' = ran.2 := Option.some.inj (made.symm.trans left)
  refine ⟨committed, SimHost.handsOver_makeAll named, ?_⟩
  exact makeAll_of_holds (g := g.naming ds) (fun _ => List.mem_append_left _)
    fun step mine => holds step (List.mem_append_left _ mine)

/-- A setup of some devices, and then one of the others. -/
theorem commits_in_turn (untimed : policy.timeout = none) (clock clock' clock'' : Nat → Nat)
    (g : SetupGoal) (distinct : (h.devices.map (·.address)).Nodup)
    (all : ∀ a, a ∈ U.toList ↔ a ∈ A.toList ∨ a ∈ B.toList)
    (committed : IsCommitted (runFresh policy clock (g.naming U) h).1) :
    let together := runFresh policy clock (g.naming U) h
    let first := runFresh policy clock' (g.naming A) h
    let second := runFresh policy clock'' (g.naming B) first.2
    IsCommitted first.1 ∧ IsCommitted second.1 ∧ second.2.snapshot = together.2.snapshot := by
  intro together first second
  obtain ⟨admits, h₁, shared, can, hands⟩ := of_committed untimed clock distinct committed
  have machine (clock : Nat → Nat) (ds : SortedSet PciAddress) :
      SimHost.SameMachine h (runFresh policy clock (g.naming ds) h).2 :=
    (made_runFresh untimed clock (g.naming ds) distinct).2.2
  have canA : ∀ a ∈ A.toList, SimHost.CanHand g.target h₁ a := fun a ha =>
    can a ((all a).2 (.inl ha))
  obtain ⟨committedA, handsA, inPlace⟩ := commits_naming untimed clock' distinct
    (admits.naming (.refl h) fun a ha => (all a).2 (.inl ha)) shared canA
  -- the second batch finds what is shared in place, and its devices as they were
  have canB : ∀ a ∈ B.toList, SimHost.CanHand g.target first.2 a := fun a ha =>
    (handsA.canHand_iff canA).2 (can a ((all a).2 (.inr ha)))
  obtain ⟨committedB, handsB, -⟩ := commits_naming untimed clock''
    ((machine clock' A).addresses ▸ distinct)
    (admits.naming (machine clock' A) fun a ha => (all a).2 (.inr ha)) inPlace canB
  obtain ⟨machine', same⟩ := hands.unique (handsA.append handsB canA) fun a => by
    rw [List.mem_append, all]
  refine ⟨committedA, committedB, Snapshot.eq_of_agreeAt fun r => ?_⟩
  exact SimHost.agreeAt_of_view_eq ((machine clock U).addresses ▸ distinct) machine'
    (congrFun same r)

/-- Devices may be set up together or in batches.  Whatever fails on the host, if a setup of two
sets of devices together is committed, then a setup of either set, with a fresh catalog, is
committed, and so is one of the other set after it, with a fresh catalog again.  They end with the
modules, mounts, pages, drivers and records that the setup of both ends with.  That holds of any
two sets, whether or not they share devices. -/
theorem batches_are_one (h : SimHost) (distinct : (h.devices.map (·.address)).Nodup)
    (policy : Policy) (untimed : policy.timeout = none) (g : SetupGoal)
    (A B : SortedSet PciAddress) (clock clock' clock'' : Nat → Nat) :
    let together := runFresh policy clock (g.naming (SortedSet.ofList (A.toList ++ B.toList))) h
    IsCommitted together.1 → ∀ batches ∈ [(A, B), (B, A)],
      let first := runFresh policy clock' (g.naming batches.1) h
      let second := runFresh policy clock'' (g.naming batches.2) first.2
      IsCommitted first.1 ∧ IsCommitted second.1 ∧
        second.2.snapshot = together.2.snapshot := by
  intro together committed batches order
  have all (a : PciAddress) : a ∈ (SortedSet.ofList (A.toList ++ B.toList)).toList ↔
      a ∈ A.toList ∨ a ∈ B.toList := by
    rw [SortedSet.mem_toList, SortedSet.contains_ofList, List.mem_append]
  rcases List.mem_cons.1 order with rfl | other
  · exact commits_in_turn untimed clock clock' clock'' g distinct all committed
  · obtain rfl := List.mem_singleton.1 other
    exact commits_in_turn untimed clock clock' clock'' g distinct (fun a => (all a).trans or_comm)
      committed

/-- A machine that grants half of the pages asked for hands over two controllers together; in
batches, in either order, both controllers get there with their records, and the pool keeps the
pages that the first batch got. -/
theorem threeNics_in_batches :
    let h := Topology.threeNics.addPool Topology.largePages 0 32
    let g := SetupGoal.forDriver [] "vfio-pci" ⟨2048, none, 64, some 16, ⟨"/mnt/huge"⟩⟩ false
    let A := SortedSet.ofList [Topology.dataNic]
    let B := SortedSet.ofList [Topology.secondDataNic]
    (h.devices.map (·.address)).Nodup ∧
      IsCommitted (runFresh {} (fun _ => 0)
        (g.naming (SortedSet.ofList (A.toList ++ B.toList))) h).1 ∧
      ∀ batches ∈ [(A, B), (B, A)],
        let first := runFresh {} (fun _ => 0) (g.naming batches.1) h
        let second := runFresh {} (fun _ => 0) (g.naming batches.2) first.2
        IsCommitted first.1 ∧ IsCommitted second.1 ∧
          second.2.snapshot.pools.get? Topology.largePages = some 32 ∧
          ∀ a ∈ [Topology.dataNic, Topology.secondDataNic],
            second.2.snapshot.drivers.get? a = some (some "vfio-pci") ∧
              second.2.snapshot.homes.get? a = some "e1000" := by
  intro h g A B
  have distinct : (h.devices.map (·.address)).Nodup := by decide
  have outcome : (runFresh {} (fun _ => 0) (g.naming (SortedSet.ofList (A.toList ++ B.toList)))
      h).1 = .committed [.moduleLoaded "vfio", .moduleLoaded "vfio-pci",
        .mounted ⟨"/mnt/huge"⟩ 2048, .reserved Topology.largePages 0,
        .rebound Topology.dataNic (some "e1000") true,
        .rebound Topology.secondDataNic (some "e1000") true] 6 0 := by decide +kernel
  have committed : IsCommitted (runFresh {} (fun _ => 0)
      (g.naming (SortedSet.ofList (A.toList ++ B.toList))) h).1 := ⟨_, _, _, outcome⟩
  refine ⟨distinct, committed, fun batches order => ?_⟩
  intro first second
  obtain ⟨commitsFirst, commitsSecond, same⟩ := batches_are_one h distinct {} rfl g A B (fun _ => 0)
    (fun _ => 0) (fun _ => 0) committed batches order
  refine ⟨commitsFirst, commitsSecond, ?_⟩
  rw [same]
  decide +kernel

end Setup

end Provision
