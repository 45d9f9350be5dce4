import Provision.Proofs.Teardown.ByDevice
import Provision.Simulation.Topology

/-!
# Failures of one device

In a teardown on a host on which calls about one device fail, the other devices get what
they get when nothing fails: the same binding and the same record, and the same place in
the report.  There is one exception.  A listing stops at a device whose record cannot be
read, and the devices that are listed behind it stay unknown; one of them that has no
record is then reported as not found, where it would have been passed over.

Main results:

- `Teardown.leaves_restoreOne`: what fails while one device is restored.
- `Teardown.told_enumerate`: what a listing tells of the devices.
- `Teardown.settles_other`: what becomes of another device.
- `Teardown.failures_stay_apart`: teardowns with and without failures of one device.
-/

namespace Provision.Teardown

open StoreTerms CatalogProg

/-- The terms of a host on which calls about one device may fail without effect. -/
abbrev troubled (a : PciAddress) : StoreTerms SimHost :=
  failing SimHost.answer fun call => call.device? = some a

variable {a b x : PciAddress} {devices : List PciAddress} {c : Catalog} {h h' : SimHost}
  {told : Bool}

/-! ## Other devices -/

/-- Restoring a device leaves the others alone, whatever fails. -/
theorem leaves_restoreOne (ne : b ≠ x) :
    Ensures (troubled a) free (restoreOne x) c h fun _ c' h' =>
      c'.device? b = c.device? b ∧ h'.view (.device b) = h.view (.device b) ∧
        h'.faults = h.faults := by
  have apart : ¬ (Resource.device b = .device x) := fun same => ne (Resource.device.inj same)
  have kept := (within_restoreOne (A := troubled a) (F := (· = .device x)) (c := c) (s := h)
    rfl).also (keeps_restoreOne (notesKeep_others ne (c.device? b)) rfl)
  have framed := SimHost.ensures_frame_under (fun answered => answered.imp_right And.right) kept
  apply framed.forget.mono
  intro _ c' h' ends
  obtain ⟨⟨-, known⟩, elsewhere, machine, -⟩ := ends
  exact ⟨known, elsewhere _ apart, machine.faults⟩

/-- Restoring a device about which no call fails settles it. -/
theorem settles_restoreOne_apart (ne : b ≠ a) (inStep : InStep told b c h) :
    Ensures (troubled a) free (restoreOne b) c h fun fate c' h' =>
      fate = (settlement h told b).fate ∧
        Leaves b (settlement h told b).driver (settlement h told b).record c c' h h' := by
  have own := (keeps_restoreOne (A := of SimHost.answer) (notesKeep_true b) trivial).also
    (settles_restoreOne inStep)
  have spared := own.spared fun call (here : call.device? = some b)
    (there : call.device? = some a) => ne (Option.some.inj (here.symm.trans there))
  exact (spared.mono fun _ _ _ ends => ends.2).forget

/-! ## One after the other -/

/-- Devices that are not named are left alone. -/
theorem passes_restoreFrom (total index : Nat) (other : b ∉ devices) :
    Ensures (troubled a) free (restoreFrom total index devices) c h fun report _ h' =>
      report.only b = {} ∧ h'.view (.device b) = h.view (.device b) := by
  induction devices generalizing index c h with
  | nil => exact ⟨rfl, rfl⟩
  | cons x rest ih =>
    rw [List.mem_cons, not_or] at other
    rw [ensures_restoreFrom_cons]
    apply (leaves_restoreOne other.1).mono
    intro fate c' h' left
    apply (ih (index + 1) other.2).mono
    intro report c'' h'' ends
    exact ⟨(only_note_of_ne _ _ (Ne.symm other.1)).trans ends.1, ends.2.trans left.2.1⟩

/-- Of the devices that are restored one after the other, one about which no call fails is
settled. -/
theorem settles_restoreFrom_apart (total index : Nat) (ne : b ≠ a) (distinct : devices.Nodup)
    (named : b ∈ devices) (inStep : InStep told b c h) :
    Ensures (troubled a) free (restoreFrom total index devices) c h fun report _ h' =>
      report.only b = note b (settlement h told b).fate {} ∧
        h'.view (.device b) = settledView h told b := by
  induction devices generalizing index c h with
  | nil => exact absurd named List.not_mem_nil
  | cons x rest ih =>
    obtain ⟨first, later⟩ := List.nodup_cons.1 distinct
    rw [ensures_restoreFrom_cons]
    by_cases here : b = x
    · subst here
      apply (settles_restoreOne_apart ne inStep).mono
      intro fate c' h' settled
      obtain ⟨rfl, leaves⟩ := settled
      apply (passes_restoreFrom total (index + 1) first).mono
      intro report c'' h'' others
      refine ⟨(only_note_self ..).trans ?_, others.2.trans leaves.view_self⟩
      rw [others.1]
    · apply (leaves_restoreOne here).mono
      intro fate c' h' left
      obtain ⟨known, same, faults⟩ := left
      have inStep' : InStep told b c' h' := inStep.congr known (congrArg Prod.snd same)
      apply (ih (index + 1) later ((List.mem_cons.1 named).resolve_left here) inStep').mono
      intro report c'' h'' ends
      rw [settledView, settlement_congr faults same, same] at ends
      exact ⟨(only_note_of_ne _ _ (Ne.symm here)).trans ends.1, ends.2⟩

/-! ## Preparing -/

/-- What a listing may have told when it stopped at a device at the earliest: nothing of a device
that is not listed, and of all that are listed before that device. -/
structure ToldUpTo (filter : DeviceFilter) (h : SimHost) (a : PciAddress)
    (told : PciAddress → Bool) : Prop where
  listed : ∀ b, told b = true → lists filter h b = true
  before : ∀ b, lists filter h b = true → b ∈ (h.listed filter).takeWhile (· != a) → told b = true

/-- What stands before the first occurrence of a device stands before each. -/
theorem mem_taken_of_before {taken later : List PciAddress}
    (before : b ∈ (taken ++ a :: later).takeWhile (· != a)) : b ∈ taken := by
  induction taken with
  | nil => simp at before
  | cons d rest ih =>
    rw [List.cons_append, List.takeWhile_cons] at before
    split at before
    · rcases List.mem_cons.1 before with rfl | before
      · exact List.mem_cons_self
      · exact List.mem_cons_of_mem d (ih before)
    · exact absurd before List.not_mem_nil

/-- A listing tells of the devices up to one whose record cannot be read. -/
theorem told_enumerate (policy : Policy) (a : PciAddress) (h : SimHost) :
    Ensures (troubled a) free (Catalog.enumerate policy.filter).run policy.freshCatalog h
      fun _ c' h' => h' = h ∧ ∃ told : PciAddress → Bool, (∀ b, InStep (told b) b c' h) ∧
        ToldUpTo policy.filter h a told := by
  have fresh (b : PciAddress) : InStep false b policy.freshCatalog h := ⟨nofun, fun _ => rfl⟩
  rw [Catalog.ensures_enumerate]
  intro reply h₁ answered
  refine ⟨trivial, ?_⟩
  cases answered.resolve_right fun fails => nomatch fails.1
  show skipOnError _ _ (h.listDevices policy.filter) _ _
  unfold SimHost.listDevices
  cases faults : h.faults.listing with
  | true =>
    rw [if_pos rfl]
    exact ⟨rfl, fun _ => false, fresh, nofun, fun b named _ => by simp [lists, faults] at named⟩
  | false =>
    rw [if_neg Bool.false_ne_true, skipOnError_ok]
    apply (inStep_enlistUpTo _ 0 _ fresh).mono
    intro result c' h' ends
    obtain ⟨rfl, taken, inStep, reached⟩ := ends
    simp only [Bool.false_or] at inStep
    refine ⟨rfl, fun b => taken.contains b, inStep, ?_⟩
    cases result with
    | ok candidates =>
      have all : h'.listed policy.filter = taken := reached
      constructor
      · intro b known
        simpa [lists, faults, all] using known
      · intro b named _
        simpa [lists, faults, all] using named
    | error e =>
      obtain ⟨x, later, fails, addresses⟩ := reached
      obtain rfl : x = a := Option.some.inj fails
      have listed : h'.listed policy.filter = taken ++ x :: later := addresses
      constructor
      · intro b known
        rw [List.contains_iff_mem] at known
        simp [lists, faults, listed, known]
      · intro b _ before
        rw [listed] at before
        exact List.contains_iff_mem.2 (mem_taken_of_before before)

/-- A teardown is prepared whatever fails about one device. -/
theorem told_prepare (policy : Policy) (a : PciAddress) (h : SimHost) :
    Ensures (troubled a) free (prepare policy.filter).run policy.freshCatalog h
      fun result c' h' => result = .ok () ∧ h' = h ∧ ∃ told : PciAddress → Bool,
        (∀ b, InStep (told b) b c' h) ∧ ToldUpTo policy.filter h a told := by
  rw [ensures_prepare]
  apply (told_enumerate policy a h).mono
  intro _ c' h' enumerated
  obtain ⟨rfl, told, inStep, upTo⟩ := enumerated
  apply (inStep_adoptReadable _ nofun inStep).mono
  intro result c'' h'' adopted
  obtain ⟨⟨missing, rfl⟩, rfl, inStep'⟩ := adopted
  exact ⟨rfl, rfl, told, inStep', upTo⟩

/-! ## Whole teardowns -/

/-- A teardown is not rejected, whatever fails about one device. -/
theorem tornDown_run (policy : Policy) (devices : SortedSet PciAddress) (a : PciAddress)
    (h : SimHost) :
    Ensures (troubled a) free (run policy devices) policy.freshCatalog h fun outcome _ _ =>
      ∃ report, outcome = .tornDown report := by
  rw [ensures_run]
  apply (told_prepare policy a h).mono
  intro result c' h' prepared
  obtain ⟨rfl, -⟩ := prepared
  exact (HostProg.ensures_true _).mono fun x _ _ => ⟨x.1, rfl⟩

/-- A device of a teardown is settled, whatever fails about another one; only whether the teardown
was told of it depends on that. -/
theorem settles_other (policy : Policy) (devices : SortedSet PciAddress) (ne : b ≠ a)
    (named : b ∈ devices.toList) :
    Ensures (troubled a) free (run policy devices) policy.freshCatalog h fun outcome _ h' =>
      ∃ report told, outcome = .tornDown report ∧ ToldUpTo policy.filter h a told ∧
        report.only b = note b (settlement h (told b) b).fate {} ∧
        h'.view (.device b) = settledView h (told b) b := by
  rw [ensures_run]
  apply (told_prepare policy a h).mono
  intro result c' h' prepared
  obtain ⟨rfl, rfl, told, inStep, upTo⟩ := prepared
  apply (settles_restoreFrom_apart _ 0 ne devices.nodup_toList named (inStep b)).mono
  intro report c'' h'' ends
  exact ⟨report, told, rfl, upTo, ends.1, ends.2⟩

/-- A device has no record, and it is listed behind another one. -/
structure StandsBehind (filter : DeviceFilter) (h : SimHost) (a b : PciAddress) : Prop where
  unrecorded : h.homes.get? b = none
  listed : lists filter h b = true
  behind : b ∉ (h.listed filter).takeWhile (· != a)

/-- What becomes of a device that the teardown may not have been told of: the same, unless it
stands behind the device at which the listing may have stopped. -/
theorem ToldUpTo.fate {filter : DeviceFilter} {told : PciAddress → Bool}
    (upTo : ToldUpTo filter h a told) (b : PciAddress) :
    (settlement h (told b) b).fate = (ending filter h b).fate ∨
      StandsBehind filter h a b ∧ (settlement h (told b) b).fate = .unrestored (.noDevice b) := by
  cases record : h.homes.get? b with
  | some home =>
    left
    rw [ending, settlement_of_recorded record, settlement_of_recorded record]
  | none =>
    cases known : told b with
    | true =>
      left
      rw [ending, upTo.listed b known]
    | false =>
      cases listed : lists filter h b with
      | false =>
        left
        rw [ending, listed]
      | true =>
        right
        refine ⟨⟨record, listed, fun before => ?_⟩, ?_⟩
        · rw [upTo.before b listed before] at known
          cases known
        · rw [settlement_of_unrecorded record]
          rfl

/-- In a teardown with a fresh catalog, the failures of one device stay its own but in one case.
Whatever calls about a device fail, without effect and at whatever places, and whatever else fails
on the host: the teardown is not rejected, every other device is left with the binding and the
record that it gets when these calls do not fail, and it is reported with the same result, unless
it has no record and stands behind that device in the listing, and is reported as not found. -/
theorem failures_stay_apart (h : SimHost) (clock clock' : Nat → Nat) (policy : Policy)
    (devices : SortedSet PciAddress) (a : PciAddress) (fails : Nat → Option Error) :
    let calm := runOn SimHost.answer clock (run policy devices) policy.freshCatalog { host := h }
    let disturbed := runOn (SimHost.answer.unreliableAt (·.device? == some a) fails) clock'
      (run policy devices) policy.freshCatalog { host := (h, 0) }
    ∃ report report', calm.1.1 = .tornDown report ∧ disturbed.1.1 = .tornDown report' ∧
      ∀ b ∈ devices.toList, b ≠ a →
        disturbed.2.host.1.view (.device b) = calm.2.host.view (.device b) ∧
        (report'.only b = report.only b ∨
          StandsBehind policy.filter h a b ∧
            report'.only b = { unrestored := [(b, .noDevice b)] }) := by
  intro calm disturbed
  have answers (call : StoreCall) (s : SimHost × Nat) :=
    SimHost.answer.answer_unreliableAt (·.device? == some a) fails call s
  simp only [beq_iff_eq] at answers
  obtain ⟨-, outcome, -⟩ := (settles_run policy devices fun _ _ => rfl).of_run SimHost.answer clock
    { host := h } id fun _ _ => rfl
  obtain ⟨-, report', outcome'⟩ := (tornDown_run policy devices a h).of_run
    (SimHost.answer.unreliableAt (·.device? == some a) fails) clock' { host := (h, 0) } Prod.fst
    answers
  refine ⟨_, report', outcome, outcome', fun b named ne => ?_⟩
  obtain ⟨-, _, _, -, -, -, calmView⟩ := (settles_other policy devices ne named).of_failing.of_run
    SimHost.answer clock { host := h } id fun _ _ => rfl
  obtain ⟨-, _, told, same, upTo, only, view⟩ := (settles_other policy devices ne named).of_run
    (SimHost.answer.unreliableAt (·.device? == some a) fails) clock' { host := (h, 0) } Prod.fst
    answers
  obtain rfl := Outcome.tornDown.inj (outcome'.symm.trans same)
  refine ⟨view.trans ((settledView_listed ..).trans calmView.symm), ?_⟩
  rw [only_reportOf devices.nodup_toList named, only]
  rcases upTo.fate b with equal | ⟨behind, lost⟩
  · left
    rw [equal]
    rfl
  · right
    rw [lost]
    exact ⟨behind, rfl⟩

/-- Of two controllers without a record the second is torn down.  It is passed over; when the
record of the first cannot be read, it is reported as left behind. -/
theorem second_nic_lost_behind_first :
    let devices := SortedSet.ofList [Topology.dataNic]
    let fails : Nat → Option Error := fun _ =>
      some (.store "read" (toString Topology.managementNic) "Input/output error")
    let calm := runOn SimHost.answer (fun _ => 0) (run {} devices) (Policy.freshCatalog {})
      { host := Topology.twoNics }
    let disturbed := runOn
      (SimHost.answer.unreliableAt (·.device? == some Topology.managementNic) fails) (fun _ => 0)
      (run {} devices) (Policy.freshCatalog {}) { host := (Topology.twoNics, 0) }
    calm.1.1 = .tornDown { skipped := [Topology.dataNic] } ∧
      disturbed.1.1 =
        .tornDown { unrestored := [(Topology.dataNic, .noDevice Topology.dataNic)] } := by
  decide +kernel

end Provision.Teardown
