import Provision.Proofs.Contract.Marks
import Provision.Proofs.Inspection
import Provision.Simulation.Topology

/-!
# Refused invocations

An invocation is refused with exit status 1 or 4 for many reasons: its settings cannot
be read or are not valid, the run lock is held, the devices cannot be listed, or no
plan can be made.  All of them come before the first call that changes the host, and a
run that has begun to change it ends with another status.  An invocation that only asks
for a plan or for the status never changes the host, and takes no lock.

Main results:

- `Setup.rejected_untouched`, `Teardown.rejected_untouched`: a run that is rejected has
  changed nothing.
- `Command.untouched_request`: so has a request that is refused.
- `Command.untouched_inspection`: a request that only asks changes nothing.
- `Invocation.refused_changes_nothing`: the invocations.
-/

namespace Provision

open StoreTerms CatalogProg

variable {c : Catalog}

/-! ## Programs that change nothing -/

/-- The terms that keep note of whether a changing call was made. -/
def StoreTerms.noting : StoreTerms Bool := fun call noted _ noted' =>
  noted' = (noted || call.writes)

/-- Nothing is noted while a program keeps from every resource. -/
theorem CatalogProg.Ensures.untouched {α : Type} {p : CatalogProg α} {Q : α → Catalog → Bool → Prop}
    (contract : Ensures noting (within fun _ => False) p c false Q) :
    Ensures noting free p c false fun a c' touched => Q a c' touched ∧ touched = false := by
  refine (contract.invariant (J := (· = false)) (fun call s r s' noted kept same => ?_) rfl).forget
  -- a call that writes would be about some resource
  have reads : call.writes = false := by
    rw [← StoreCall.isSome_resource?, Option.isSome_eq_false_iff, Option.isNone_iff_eq_none]
    exact Option.eq_none_iff_forall_ne_some.2 kept
  have after : s' = (s || call.writes) := noted
  rw [after, same, reads]
  rfl

/-- Plans and reports change nothing. -/
theorem inspecting_untouched : Inspecting noting free fun _ touched => touched = false := by
  have parts : Inspecting noting (within fun _ => False) fun _ _ => True := inspecting_within _
  have untouched {α : Type} {p : CatalogProg α}
      (maintains : Maintains noting (within fun _ => False) (fun _ _ => True) p) :
      Maintains noting free (fun _ touched => touched = false) p := by
    rintro c touched rfl
    exact (maintains trivial).untouched.mono fun _ _ _ ends => ends.2
  exact ⟨fun filter => untouched (parts.enumerate filter), untouched parts.adoptRecorded,
    fun a => untouched (parts.homeDriver a), fun ms r ds => untouched (parts.survey ms r ds)⟩

/-! ## Runs that are rejected -/

/-- An outcome that says that nothing was changed. -/
def Outcome.IsRejected (o : Outcome) : Prop := ∃ e, o = .rejected e

/-- The exit codes of outcomes that say that nothing was changed. -/
theorem Outcome.isRejected_of_exitCode {o : Outcome} (code : o.exitCode = 1 ∨ o.exitCode = 4) :
    o.IsRejected := by
  cases o with
  | committed journal applied skipped => simp [exitCode] at code
  | rolledBack e report => simp [exitCode] at code
  | rejected e => exact ⟨e, rfl⟩
  | tornDown report =>
    -- a teardown reports what it left behind with a code of its own
    have ends : (tornDown report).exitCode = 0 ∨ (tornDown report).exitCode = 3 := by
      show (if report.unrestored.isEmpty then 0 else 3) = 0 ∨
        (if report.unrestored.isEmpty then 0 else 3) = 3
      split
      · exact .inl rfl
      · exact .inr rfl
    omega

namespace Setup

variable {σ : Type} {A : StoreTerms σ} {s : σ}

theorem not_rejected_abort (e : Error) (journal : Journal) :
    Ensures A free (abort e journal) c s fun o _ _ => ¬ o.IsRejected := by
  rw [ensures_abort]
  apply (HostProg.ensures_true _).mono
  rintro report s' _ ⟨_, same⟩
  cases same

/-- A setup that has come to its steps is not rejected any more. -/
theorem not_rejected_applyFrom (timeout : Option Nat) (total index : Nat)
    (steps : List PlannedStep) (p : Progress) :
    Ensures A free (applyFrom timeout total index steps p) c s fun o _ _ => ¬ o.IsRejected := by
  induction steps generalizing index p c s with
  | nil =>
    rw [ensures_applyFrom_nil]
    rintro ⟨_, same⟩
    cases same
  | cons planned rest ih =>
    rw [ensures_applyFrom_cons]
    apply ensures_isLate timeout index
    intro late
    by_cases hl : late
    · rw [if_pos hl]
      exact not_rejected_abort _ _
    · rw [if_neg hl]
      by_cases hp : planned.satisfied
      · rw [if_pos hp]
        exact ih _ _
      · rw [if_neg hp]
        apply (HostProg.ensures_true _).mono
        rintro ⟨result, c'⟩ s' _
        rcases result with f | _ | ch
        · exact not_rejected_abort _ _
        · exact ih _ _
        · exact ih _ _

/-- A setup that is rejected has changed nothing. -/
theorem rejected_untouched (policy : Policy) (g : SetupGoal) :
    Ensures noting free (run policy g) c false fun o _ touched =>
      o.IsRejected → touched = false := by
  rw [ensures_run]
  apply (inspecting_untouched.plan policy.filter (.setup g) rfl).mono
  intro result c' touched untouched
  cases result with
  | error e => exact fun _ => untouched
  | ok steps =>
    exact (not_rejected_applyFrom _ _ _ _ _).mono fun o _ _ fine rejected => absurd rejected fine

end Setup

/-- A teardown that is rejected has changed nothing. -/
theorem Teardown.rejected_untouched (policy : Policy) (devices : SortedSet PciAddress) :
    Ensures noting free (run policy devices) c false fun o _ touched =>
      o.IsRejected → touched = false := by
  rw [ensures_run, ensures_prepare]
  apply (inspecting_untouched.enumerate policy.filter rfl).mono
  intro _ c₁ touched₁ untouched₁
  apply (inspecting_untouched.adoptRecorded untouched₁).mono
  intro adopted c₂ touched₂ untouched₂
  cases adopted with
  | error e => exact fun _ => untouched₂
  | ok _ =>
    apply (HostProg.ensures_true _).mono
    rintro report touched _ ⟨_, same⟩
    cases same

theorem Engine.rejected_untouched (policy : Policy) (goal : Goal) :
    Ensures noting free (run policy goal) c false fun o _ touched =>
      o.IsRejected → touched = false := by
  cases goal with
  | setup g => exact Setup.rejected_untouched policy g
  | teardown devices => exact Teardown.rejected_untouched policy devices

/-! ## Requests -/

/-- An answer to a request that says that it was refused. -/
def Refuses : Except Complaint Report → Prop
  | .error _ => True
  | .ok r => r.exitCode = 1 ∨ r.exitCode = 4

/-- An answer to a request that was only asked for something. -/
def Answers : Except Complaint Report → Prop
  | .error _ => True
  | .ok r => r.exitCode = 0

namespace Command

/-- Whether a command only asks for a plan or for the status. -/
def isInspection : Command → Bool
  | .setup o => o.dryRun
  | .teardown o => o.dryRun
  | .status _ => true

theorem ensures_during {α σ : Type} {A K : StoreTerms σ} {s : σ} (context : String)
    (p : CatalogM α) {Q : Except Complaint α → Catalog → σ → Prop} :
    Ensures A K (RequestM.during context p).run c s Q ↔
      Ensures A K p.run c s fun r c' s' => Q (r.mapError (Complaint.mk context)) c' s' := by
  show Ensures A K (Except.mapError (Complaint.mk context) <$> p.run) c s Q ↔ _
  rw [map_eq_pure_bind, ensures_bind]
  exact Iff.rfl

/-- Finding out the devices of a request changes nothing. -/
theorem untouched_during {α : Type} (context : String) {p : CatalogM α}
    (untouched : Maintains noting free (fun _ touched => touched = false) p.run) :
    Maintains noting free (fun _ touched => touched = false) (RequestM.during context p).run := by
  rintro c touched rfl
  rw [ensures_during]
  exact untouched rfl

theorem untouched_setupDevices (policy : Policy) (o : SetupOptions) :
    Maintains noting free (fun _ touched => touched = false) (setupDevices policy o).run := by
  unfold setupDevices
  split
  · exact .andThen (untouched_during _ (inspecting_untouched.eligibleDevices policy)) fun _ =>
      .done _
  · exact .done _

theorem untouched_teardownDevices (policy : Policy) (o : TeardownOptions) :
    Maintains noting free (fun _ touched => touched = false) (teardownDevices policy o).run := by
  unfold teardownDevices
  split
  · exact untouched_during _ (inspecting_untouched.recordedDevices policy)
  · exact .done _

/-- A plan is an answer, and a run that is refused has changed nothing. -/
theorem untouched_pursue (policy : Policy) (dryRun : Bool) (goal : Goal) :
    Ensures noting free (pursue policy dryRun goal).run c false fun answer _ touched =>
      (Refuses answer → touched = false) ∧
        (dryRun = true → Answers answer ∧ touched = false) := by
  unfold pursue
  cases dryRun with
  | true =>
    refine (ensures_map _ _).2 ((ensures_during _ _).2 ?_)
    apply (inspecting_untouched.plan policy.filter goal rfl).mono
    intro result c' touched untouched
    refine ⟨fun _ => untouched, fun _ => ⟨?_, untouched⟩⟩
    cases result <;> trivial
  | false =>
    refine (ensures_then _ _).2 ((ensures_succeed _).2 ?_)
    apply (Engine.rejected_untouched policy goal).mono
    intro o c' touched untouched
    refine ⟨fun refused => untouched (Outcome.isRejected_of_exitCode refused), nofun⟩

/-- A request that is refused has changed nothing, and one that only asks changes nothing. -/
theorem untouched_request (s : Settings) (command : Command) :
    Ensures noting free (command.request s).run c false fun answer _ touched =>
      (Refuses answer → touched = false) ∧
        (command.isInspection = true → Answers answer ∧ touched = false) := by
  cases command with
  | setup o =>
    refine (ensures_then _ _).2 ((untouched_setupDevices s.policy o rfl).mono ?_)
    rintro devices c' touched rfl
    cases devices with
    | error e => exact ⟨fun _ => rfl, fun _ => ⟨trivial, rfl⟩⟩
    | ok devices => exact untouched_pursue _ _ _
  | teardown o =>
    refine (ensures_then _ _).2 ((untouched_teardownDevices s.policy o rfl).mono ?_)
    rintro devices c' touched rfl
    cases devices with
    | error e => exact ⟨fun _ => rfl, fun _ => ⟨trivial, rfl⟩⟩
    | ok devices => exact untouched_pursue _ _ _
  | status o =>
    refine (ensures_map _ _).2 ((ensures_during _ _).2 ?_)
    apply (inspecting_untouched.status s.policy s.pages _ rfl).mono
    intro result c' touched untouched
    refine ⟨fun _ => untouched, fun _ => ⟨?_, untouched⟩⟩
    cases result <;> trivial

end Command

/-! ## Invocations -/

namespace CliCall

/-- Whether a call changes the host. -/
def changes : CliCall → Bool
  | .host _ (.store c) => c.writes
  | _ => false

/-- Whether a call takes the run lock. -/
def locks : CliCall → Bool
  | .lock _ => true
  | _ => false

end CliCall

namespace Invocation

/-- An ending that says that nothing was changed. -/
def IsRefusal (ending : Ending) : Prop := ending.status = 1 ∨ ending.status = 4

/-- A command that only asks needs no lock. -/
theorem lockFor_of_isInspection {command : Command} (asks : command.isInspection = true)
    (s : Settings) : lockFor s command = none := by
  cases command with
  | setup o => exact if_pos asks
  | teardown o => exact if_pos asks
  | status o => rfl

/-- An answer that says that the request was refused, and one to a request that only asks, leave
nothing noted. -/
def Accounts (command : Command) (answer : Except Complaint Report) (touched : Bool) : Prop :=
  (Refuses answer → touched = false) ∧
    (command.isInspection = true → Answers answer ∧ touched = false)

section Marks

variable {marks : cliSignature.Call → Bool} {s : Settings} {command : Command}
  (changing : ∀ place call, marks (.host place call) = CliCall.changes (.host place call))

include changing

/-- Calls on a host are noted for what they do there, and for nothing else. -/
theorem accounts_carryOut :
    Prog.Ensures (Prog.noting marks) (fun _ _ _ _ => True) (carryOut s command) false
      (Accounts command) := by
  have request := Command.untouched_request (c := .new s.reserveLeading s.passthrough) s command
  refine (CliProg.ensures_onHost _ _).2 ?_
  refine Prog.Ensures.weaken ((HostProg.ensures_map _ _).2 request) (fun call b r b' noted => ?_)
    fun _ _ _ _ _ _ => trivial
  have marked : b' = (b || CliCall.changes (.host ⟨s.root, s.stateDir⟩ call)) :=
    Eq.trans noted (congrArg (b || ·) (changing _ call))
  cases call with
  | store call => exact marked
  | elapsed => exact marked.trans (Bool.or_false b)
  | enter state => exact marked.trans (Bool.or_false b)

/-- The run lock is taken before the host is changed, and given back afterwards. -/
theorem accounts_locked (unlocking : marks .unlock = false)
    (locking : ∀ path, lockFor s command = some path → marks (.lock path) = false) :
    Prog.Ensures (Prog.noting marks) (fun _ _ _ _ => True) (locked s command) false
      (Accounts command) := by
  unfold locked
  cases needed : lockFor s command with
  | none => exact accounts_carryOut changing
  | some path =>
    have runs : command.isInspection = true → False := fun asks => by
      rw [lockFor_of_isInspection asks] at needed
      cases needed
    have refused (answer : Except Complaint Report) : Accounts command answer false :=
      ⟨fun _ => rfl, fun asks => (runs asks).elim⟩
    intro reply touched noted
    refine ⟨trivial, ?_⟩
    have untouched : touched = false := Eq.trans noted (locking path needed)
    subst untouched
    cases reply with
    | ok _ =>
      show Prog.Ensures _ _ (carryOut s command >>= fun answer =>
        CliProg.call .unlock >>= fun _ => pure answer) false _
      refine (Prog.ensures_bind _ _ _).2 ((accounts_carryOut changing).mono ?_)
      intro answer touched accounts _ touched' given
      refine ⟨trivial, ?_⟩
      have same : touched' = touched := by
        refine Eq.trans given ?_
        rw [unlocking, Bool.or_false]
      exact same ▸ accounts
    | error e => cases e <;> exact refused _

/-- An invocation that is refused, and one that only asks, leave nothing noted. -/
theorem accounts_run (i : Invocation) (reading : ∀ path, marks (.readText path) = false)
    (unlocking : marks .unlock = false)
    (locking : ∀ s path, lockFor s i.command = some path → marks (.lock path) = false) :
    Prog.Ensures (Prog.noting marks) (fun _ _ _ _ => True) i.run false fun ending touched =>
      (IsRefusal ending → touched = false) ∧
        (i.command.isInspection = true →
          (ending.status = 0 ∨ ending.status = 1) ∧ touched = false) := by
  rw [run, Prog.ensures_bind, CliProg.ensures_call]
  intro reply touched noted
  refine ⟨trivial, ?_⟩
  have untouched : touched = false := Eq.trans noted (reading _)
  subst untouched
  cases i.settings reply with
  | error complaint => exact ⟨fun _ => rfl, fun _ => ⟨.inr rfl, rfl⟩⟩
  | ok s =>
    refine (Prog.ensures_bind _ _ _).2 ((accounts_locked changing unlocking (locking s)).mono ?_)
    intro answer touched accounts
    cases answer with
    | error complaint =>
      exact ⟨fun _ => accounts.1 trivial, fun asks => ⟨.inr rfl, (accounts.2 asks).2⟩⟩
    | ok report =>
      exact ⟨accounts.1, fun asks => ⟨.inl (accounts.2 asks).1, (accounts.2 asks).2⟩⟩

end Marks

/-- A refused invocation changes nothing.  Whatever the settings document says, whether the run
lock is free or held, and whichever calls fail: an invocation that ends with exit status 1 or 4
has made no changing call at all.  One that only asks for a plan or for the status never makes
one, takes no lock, and ends with 0 or 1. -/
theorem refused_changes_nothing {σ : Type} (h : Handler cliSignature σ) (t : σ)
    (words : List String) (i : Invocation) (parsed : parse words = .ok i) :
    ((Prog.run h (execute words) t).1.status = 1 ∨ (Prog.run h (execute words) t).1.status = 4 →
      ∀ e ∈ Prog.calls h (execute words) t, e.call.changes = false) ∧
    (i.command.isInspection = true →
      ((Prog.run h (execute words) t).1.status = 0 ∨ (Prog.run h (execute words) t).1.status = 1) ∧
        ∀ e ∈ Prog.calls h (execute words) t, e.call.changes = false ∧ e.call.locks = false) := by
  have execution : execute words = i.run := by
    unfold execute
    rw [parsed]
  rw [execution]
  constructor
  · intro refused
    have contract : Prog.Ensures (Prog.noting CliCall.changes) _ i.run false _ :=
      accounts_run (fun _ _ => rfl) i (fun _ => rfl) rfl fun _ _ _ => rfl
    exact (contract.mono fun _ _ accounts => accounts.1).unmarked h t refused
  · intro asks
    have unlocked (s : Settings) (path : HostPath) : lockFor s i.command ≠ some path := by
      rw [lockFor_of_isInspection asks]
      exact nofun
    -- no lock is asked for, so the taking of locks may be marked as well
    have contract : Prog.Ensures (Prog.noting fun call : CliCall => call.changes || call.locks) _
        i.run false _ :=
      accounts_run (fun _ _ => Bool.or_false _) i (fun _ => rfl) rfl fun s path needed =>
        absurd needed (unlocked s path)
    refine ⟨((contract.noted h t).2 asks).1, fun e he => ?_⟩
    have unmarked := (contract.mono fun _ _ accounts _ => (accounts.2 asks).2).unmarked
      (P := fun _ => True) h t trivial e he
    exact Bool.or_eq_false_iff.1 unmarked

/-- A simulated host without a settings document, on which the run lock is held or free. -/
def onSimHost (held : Bool) : Handler cliSignature (World SimHost)
  | .readText _, w => (.error .noEntry, w)
  | .lock path, w => (if held then .error (.concurrentRun path) else .ok (), w)
  | .unlock, w => ((), w)
  | .host _ call, w => World.handler SimHost.answer (fun _ => 0) call w

/-- A setup of the controller that serves the management of the host is refused, and a plan for the
other one is made while the run lock is held. -/
theorem management_nic_refused :
    let refused := ["setup", "--device", "0000:02:01.0"]
    let asked := ["setup", "--device", "0000:02:02.0", "--dry-run"]
    let w : World SimHost := { host := Topology.twoNics }
    ((Prog.run (onSimHost false) (execute refused) w).1.status = 1 ∧
      ∀ e ∈ Prog.calls (onSimHost false) (execute refused) w, e.call.changes = false) ∧
    (Prog.run (onSimHost true) (execute asked) w).1.status = 0 ∧
      ∀ e ∈ Prog.calls (onSimHost true) (execute asked) w,
        e.call.changes = false ∧ e.call.locks = false := by
  intro refused asked w
  have setup : parse refused = .ok ⟨{}, .setup { devices := [⟨0, 2, 1, 0⟩] }⟩ := rfl
  have dryRun : parse asked = .ok ⟨{}, .setup { devices := [⟨0, 2, 2, 0⟩], dryRun := true }⟩ := rfl
  have status : (Prog.run (onSimHost false) (execute refused) w).1.status = 1 := by decide +kernel
  refine ⟨⟨status, ?_⟩, by decide +kernel, ?_⟩
  · exact (refused_changes_nothing (onSimHost false) w refused _ setup).1 (.inl status)
  · exact ((refused_changes_nothing (onSimHost true) w asked _ dryRun).2 rfl).2

end Invocation

end Provision
