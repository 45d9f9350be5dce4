import Provision.Proofs.Announcements
import Provision.Proofs.Lockless
import Provision.Proofs.Refusal

/-!
# Exit statuses

What the exit status of an invocation tells, against what the invocation did.  A run
announces each step that it comes to and that it rolls back, and only a request for the
run lock finds it held; so each status can be told from the events of the invocation
and, for a teardown, from its report.

A command line that is not understood is the exception.  The reader of options ends the
program by itself, with the status of a setup that was rolled back.

Main results:

- `Setup.reported_run`, `Teardown.reported_run`: what a run announces, by its outcome.
- `Command.answered_request`: what a request announces, by its answer.
- `Invocation.status_tells`: what each exit status tells.
-/

namespace Provision

open StoreTerms CatalogProg World

variable {σ : Type}

/-! ## Runs -/

/-- Whether a state is that of a step. -/
def RunState.isStep : RunState → Bool
  | .applying _ _ => true
  | _ => false

/-- No step was announced, and no rollback. -/
def Quiet (states : List RunState) : Prop :=
  .rollingBack ∉ states ∧ ∀ state ∈ states, state.isStep = false

/-- A step was announced. -/
def Stepped (states : List RunState) : Prop := ∃ state ∈ states, state.isStep = true

theorem Quiet.not_stepped {states : List RunState} (quiet : Quiet states) : ¬ Stepped states := by
  rintro ⟨state, there, step⟩
  rw [quiet.2 state there] at step
  cases step

/-- What the states that a run announces tell of its outcome. -/
def Reported (states : List RunState) : Goal → Outcome → Prop
  | _, .rejected e => e.reportsLock = false ∧ Quiet states
  | .setup _, .committed _ _ _ => .rollingBack ∉ states
  | .setup _, .rolledBack _ _ => .rollingBack ∈ states ∧ Stepped states
  | .teardown _, .tornDown report =>
    .rollingBack ∉ states ∧ (report.unrestored ≠ [] → Stepped states)
  | .setup _, .tornDown _ | .teardown _, .committed _ _ _ | .teardown _, .rolledBack _ _ => False

variable {store : StoreHandler σ} {clock : Nat → Nat} {c : Catalog} {w : World σ}

/-- A program that prepares a run announces nothing and does not report the run lock. -/
theorem runs_preparing {α : Type} {p : CatalogM α} (silent : Silent p.run)
    (fails : ∀ s : σ, Ensures lockless free p.run c s fun r _ _ => Lockless r)
    (sober : ∀ call s, Lockless (store call s).1) :
    Runs store clock p.run c w fun trace r _ _ => entered trace = [] ∧ Lockless r :=
  ⟨silent.runs_quiet.1, (((fails w.host).of_lockless sober).runs clock).2⟩

/-- What a run announces that probes first. -/
theorem entered_probing {first : List (Event σ)} (quiet : entered first = [])
    (trace : List (Event σ)) :
    entered (w.announcing .idle :: (w.announce .idle).announcing .probing :: (first ++ trace)) =
      .idle :: .probing :: entered trace := by
  rw [entered_announcing, entered_announcing, entered_append, quiet, List.nil_append]

/-- A run that fails before its first step announces neither a step nor a rollback. -/
theorem quiet_rejected : Quiet [.idle, .probing, .failed] := ⟨by decide, by decide⟩

namespace Setup

/-- A setup that is undone announces that it rolls back, and then that it failed. -/
theorem entered_abort (e : Error) (journal : Journal) :
    Runs store clock (abort e journal) c w fun trace o _ _ =>
      entered trace = [.rollingBack, .failed] ∧ ∃ report, o = .rolledBack e report := by
  rw [runs_abort]
  apply (silent_undoAll journal.newestFirst).runs_quiet.mono
  intro undoing report c' w' quiet
  refine ⟨?_, report, rfl⟩
  rw [entered_announcing, entered_append, quiet.1]
  rfl

/-- What an outcome of a setup that came to its steps is told from. -/
def Finished (states : List RunState) : Outcome → Prop
  | .committed _ _ _ => .rollingBack ∉ states
  | .rolledBack _ _ => .rollingBack ∈ states ∧ Stepped states
  | .rejected _ | .tornDown _ => False

/-- One more step before the others is told as they are. -/
theorem Finished.step {states : List RunState} {o : Outcome} (n total : Nat)
    (finished : Finished states o) : Finished (.applying n total :: states) o := by
  cases o with
  | committed journal applied skipped =>
    have elsewhere : RunState.rollingBack ∉ states := finished
    simp [Finished, elsewhere]
  | rolledBack e report =>
    exact ⟨List.mem_cons_of_mem _ finished.1, _, List.mem_cons_self .., rfl⟩
  | rejected e => exact finished
  | tornDown report => exact finished

/-- A step that ends in a rollback is told as that. -/
theorem finished_of_abort {states : List RunState} {o : Outcome} {e : Error} (n total : Nat)
    (aborted : states = [.rollingBack, .failed] ∧ ∃ report, o = .rolledBack e report) :
    Finished (.applying n total :: states) o := by
  obtain ⟨rfl, report, rfl⟩ := aborted
  exact ⟨by simp, _, List.mem_cons_self .., rfl⟩

/-- The steps of a setup are announced, and so is a rollback. -/
theorem finished_applyFrom (timeout : Option Nat) (total index : Nat) (steps : List PlannedStep)
    (p : Progress) :
    Runs store clock (applyFrom timeout total index steps p) c w fun trace o _ _ =>
      Finished (entered trace) o := by
  induction steps generalizing index p c w with
  | nil =>
    rw [runs_applyFrom_nil]
    simp [Finished]
  | cons planned rest ih =>
    rw [runs_applyFrom_cons]
    apply (silent_lift (silent_isLate timeout index)).runs_quiet.mono
    intro reading late c₁ w₁ looked
    -- looking at the clock announces nothing, so the step is announced right before what follows
    have next {trace : List (Event σ)} {o : Outcome}
        (finished : Finished (.applying (index + 1) total :: entered trace) o) :
        Finished (entered (w.announcing (.applying (index + 1) total) :: (reading ++ trace)))
          o := by
      rw [entered_announcing, entered_append, looked.1, List.nil_append]
      exact finished
    dsimp only
    by_cases hl : late
    · rw [if_pos hl]
      exact (entered_abort _ _).mono fun _ _ _ _ aborted => next (finished_of_abort _ _ aborted)
    · rw [if_neg hl]
      by_cases hp : planned.satisfied
      · rw [if_pos hp]
        exact (ih _ _).mono fun _ _ _ _ finished => next (finished.step _ _)
      · rw [if_neg hp]
        apply (silent_apply planned.step).runs_quiet.mono
        intro making result c₂ w₂ made
        have skips (trace : List (Event σ)) : entered trace = entered (making ++ trace) := by
          rw [entered_append, made.1, List.nil_append]
        rcases result with f | _ | ch
        · exact (entered_abort _ _).mono fun trace _ _ _ aborted =>
            next (finished_of_abort _ _ (skips trace ▸ aborted))
        · exact (ih _ _).mono fun trace _ _ _ finished => next ((skips trace ▸ finished).step _ _)
        · exact (ih _ _).mono fun trace _ _ _ finished => next ((skips trace ▸ finished).step _ _)

/-- What a setup announces, by its outcome. -/
theorem reported_run (sober : ∀ call s, Lockless (store call s).1) (policy : Policy)
    (g : SetupGoal) :
    Runs store clock (run policy g) c w fun trace o _ _ =>
      Reported (entered trace) (.setup g) o := by
  rw [runs_run]
  apply (runs_preparing (silent_plan_setup policy.filter g)
    (fun _ => lockless_plan_setup policy.filter g) sober).mono
  rintro planning result c' w' ⟨quiet, fine⟩
  cases result with
  | error e =>
    show Reported (entered (_ :: _ :: (planning ++ [w'.announcing .failed]))) _ _
    rw [entered_probing quiet]
    exact ⟨fine e rfl, quiet_rejected⟩
  | ok steps =>
    apply (finished_applyFrom policy.timeout steps.length 0 steps {}).mono
    intro trace o c'' w'' finished
    show Reported (entered (_ :: _ :: (planning ++ trace))) _ _
    rw [entered_probing quiet]
    cases o with
    | committed journal applied skipped =>
      have elsewhere : RunState.rollingBack ∉ entered trace := finished
      simp [Reported, elsewhere]
    | rolledBack e report =>
      obtain ⟨rolled, state, announced, step⟩ := finished
      exact ⟨by simp [rolled], state, by simp [announced], step⟩
    | rejected e => exact finished.elim
    | tornDown report => exact finished.elim

end Setup

namespace Teardown

/-- Only devices that a teardown comes to are announced. -/
theorem entered_restoreFrom (total index : Nat) (devices : List PciAddress) :
    Runs store clock (restoreFrom total index devices) c w fun trace report _ _ =>
      (∀ state ∈ entered trace, state.isStep = true) ∧
        (report.unrestored ≠ [] → Stepped (entered trace)) := by
  induction devices generalizing index c w with
  | nil =>
    rw [runs_restoreFrom_nil]
    exact ⟨nofun, fun left => absurd rfl left⟩
  | cons a rest ih =>
    rw [runs_restoreFrom_cons]
    apply (silent_restoreOne a).runs_quiet.mono
    intro restoring fate c₁ w₁ restored
    apply (ih (index + 1)).mono
    intro later report c₂ w₂ told
    rw [entered_announcing, entered_append, restored.1, List.nil_append]
    exact ⟨List.forall_mem_cons.2 ⟨rfl, told.1⟩, fun _ => ⟨_, List.mem_cons_self .., rfl⟩⟩

/-- What a teardown announces, by its outcome. -/
theorem reported_run (sober : ∀ call s, Lockless (store call s).1) (policy : Policy)
    (devices : SortedSet PciAddress) :
    Runs store clock (run policy devices) c w fun trace o _ _ =>
      Reported (entered trace) (.teardown devices) o := by
  rw [runs_run]
  apply (runs_preparing (silent_prepare policy.filter) (fun _ => lockless_prepare policy.filter)
    sober).mono
  rintro preparing result c' w' ⟨quiet, fine⟩
  cases result with
  | error e =>
    show Reported (entered (_ :: _ :: (preparing ++ [w'.announcing .failed]))) _ _
    rw [entered_probing quiet]
    exact ⟨fine e rfl, quiet_rejected⟩
  | ok _ =>
    apply (entered_restoreFrom devices.toList.length 0 devices.toList).mono
    rintro trace report c'' w'' ⟨steps, left⟩
    show Reported (entered (_ :: _ :: (preparing ++ (trace ++ [w''.announcing _])))) _ _
    rw [entered_probing quiet, entered_append, entered_announcing]
    refine ⟨?_, fun unrestored => ?_⟩
    · have elsewhere : RunState.rollingBack ∉ entered trace := fun there => by
        cases steps _ there
      have last : RunState.rollingBack ≠
          if report.unrestored.isEmpty then RunState.committed else .failed := by
        split <;> exact nofun
      simpa [elsewhere] using last
    · obtain ⟨state, announced, step⟩ := left unrestored
      exact ⟨state, by simp [announced], step⟩

end Teardown

/-- What a run announces, by its goal and its outcome. -/
theorem Engine.reported_run (sober : ∀ call s, Lockless (store call s).1) (policy : Policy)
    (goal : Goal) :
    Runs store clock (run policy goal) c w fun trace o _ _ => Reported (entered trace) goal o := by
  cases goal with
  | setup g => exact Setup.reported_run sober policy g
  | teardown devices => exact Teardown.reported_run sober policy devices

/-! ## Requests -/

theorem quiet_nil : Quiet [] := ⟨nofun, nofun⟩

namespace Command

/-- Whether a command carries a goal out, and does not only ask for the plan. -/
def Pursues : Command → Goal → Prop
  | .setup o, .setup _ => o.dryRun = false
  | .teardown o, .teardown _ => o.dryRun = false
  | .setup _, .teardown _ | .teardown _, .setup _ | .status _, _ => False

/-- What the states that a request announces tell of its answer. -/
def Answered (command : Command) (states : List RunState) : Except Complaint Report → Prop
  | .ok (.outcome o) => ∃ goal, command.Pursues goal ∧ Reported states goal o
  | .ok (.plan _) | .ok (.status _ _) | .error _ => Quiet states

theorem silent_during {α : Type} (context : String) {p : CatalogM α} (silent : Silent p.run) :
    Silent (RequestM.during context p).run := by
  show Silent (Except.mapError (Complaint.mk context) <$> p.run)
  rw [map_eq_pure_bind]
  exact silent_bind silent fun r => silent_pure _

theorem silent_setupDevices (policy : Policy) (o : SetupOptions) :
    Silent (setupDevices policy o).run := by
  unfold setupDevices
  split
  · exact silent_then (silent_during _ (Engine.silent_eligibleDevices policy)) fun _ =>
      silent_pure _
  · exact silent_pure _

theorem silent_teardownDevices (policy : Policy) (o : TeardownOptions) :
    Silent (teardownDevices policy o).run := by
  unfold teardownDevices
  split
  · exact silent_during _ (Engine.silent_recordedDevices policy)
  · exact silent_pure _

/-- A plan is made quietly, and a run announces what it does. -/
theorem answered_pursue (sober : ∀ call s, Lockless (store call s).1) (command : Command)
    (policy : Policy) (dryRun : Bool) (goal : Goal)
    (pursues : dryRun = false → command.Pursues goal) :
    Runs store clock (pursue policy dryRun goal).run c w fun trace answer _ _ =>
      command.Answered (entered trace) answer := by
  unfold pursue
  cases dryRun with
  | true =>
    rw [if_pos rfl]
    refine (runs_map _ _).2 ?_
    apply (silent_during "Planning failed" (silent_plan policy.filter goal)).runs_quiet.mono
    intro trace r c' w' quiet
    rw [quiet.1]
    cases r <;> exact quiet_nil
  | false =>
    rw [if_neg Bool.false_ne_true]
    refine (runs_then _ _).2 ((runs_succeed _).2 ?_)
    apply (Engine.reported_run sober policy goal).mono
    intro trace o c' w' reported
    refine ⟨goal, pursues rfl, ?_⟩
    rw [entered_append]
    exact (List.append_nil _).symm ▸ reported

/-- A goal is found out quietly, and then pursued. -/
theorem answered_after {α : Type} (sober : ∀ call s, Lockless (store call s).1) (command : Command)
    (policy : Policy) (dryRun : Bool) {found : RequestM α} (silent : Silent found.run)
    (goal : α → Goal) (pursues : ∀ a, dryRun = false → command.Pursues (goal a)) :
    Runs store clock (found >>= fun a => pursue policy dryRun (goal a)).run c w
      fun trace answer _ _ => command.Answered (entered trace) answer := by
  refine (runs_then _ _).2 (silent.runs_quiet.mono ?_)
  intro finding result c' w' quiet
  cases result with
  | error e => exact quiet.1.symm ▸ quiet_nil
  | ok a =>
    apply (answered_pursue sober command policy dryRun (goal a) (pursues a)).mono
    intro trace answer c'' w'' answered
    rw [entered_append, quiet.1]
    exact answered

/-- What a request announces, by its answer. -/
theorem answered_request (sober : ∀ call s, Lockless (store call s).1) (s : Settings)
    (command : Command) :
    Runs store clock (command.request s).run c w fun trace answer _ _ =>
      command.Answered (entered trace) answer := by
  cases command with
  | setup o =>
    exact answered_after sober (.setup o) s.policy o.dryRun (silent_setupDevices s.policy o) _
      fun _ => id
  | teardown o =>
    exact answered_after sober (.teardown o) s.policy o.dryRun (silent_teardownDevices s.policy o) _
      fun _ => id
  | status o =>
    refine (runs_map _ _).2 ?_
    apply (silent_during _ (Engine.silent_status s.policy s.pages _)).runs_quiet.mono
    intro trace r c' w' quiet
    rw [quiet.1]
    cases r <;> exact quiet_nil

end Command

/-! ## Invocations -/

/-- A run that is rejected otherwise than for the run lock has the status of a failure. -/
theorem Outcome.exitCode_rejected {e : Error} (other : e.reportsLock = false) :
    (Outcome.rejected e).exitCode = 1 := by
  cases e with
  | concurrentRun path => cases other
  | _ => rfl

namespace Ending

/-- Whether an ending says that something failed. -/
def Fails : Ending → Prop
  | .usage reason => reason ≠ .help ∧ reason ≠ .version
  | .report _ (.outcome (.rejected _)) | .report _ (.outcome (.rolledBack _ _)) => True
  | .report _ (.outcome (.tornDown found)) => found.unrestored ≠ []
  | .report _ (.outcome (.committed _ _ _)) | .report _ (.plan _) | .report _ (.status _ _) => False
  | .complaint _ => True

/-- The ending that an answer to a request is. -/
def ofAnswer (json : Bool) : Except Complaint Report → Ending
  | .ok r => .report json r
  | .error c => .complaint c

/-- Whether an ending says that a teardown left a device behind. -/
def LeavesDevices : Ending → Prop
  | .report _ (.outcome (.tornDown found)) => found.unrestored ≠ []
  | _ => False

end Ending

namespace Invocation

open CliEvent (AnyFoundHeld announced)

variable {y : System σ}

/-- What the exit status of an invocation tells of a command. -/
structure StatusTells (command : Command) (ending : Ending) (trace : List (CliEvent σ)) :
    Prop where
  succeeded : ending.status = 0 ↔ ¬ ending.Fails
  /-- It failed before any step was announced, and not because the run lock was held. -/
  early : ending.status = 1 ↔
    ending.Fails ∧ ¬ Stepped (announced trace) ∧ ¬ AnyFoundHeld trace
  rolledBack : ending.status = 2 ↔ .rollingBack ∈ announced trace
  unrestored : ending.status = 3 ↔ ending.LeavesDevices
  held : ending.status = 4 ↔ AnyFoundHeld trace
  /-- Only a setup rolls back, and only after it came to a step. -/
  ofSetup : .rollingBack ∈ announced trace →
    (∃ g, command.Pursues (.setup g)) ∧ Stepped (announced trace)
  ofTeardown : ending.LeavesDevices → ∃ devices, command.Pursues (.teardown devices)
  /-- Only what carries out a setup or a teardown asks for the run lock. -/
  ofRun : AnyFoundHeld trace → command.isInspection = false

/-- What the events of an invocation tell of its answer: either the run lock was found held, and
nothing was done, or it was not, and the answer is that of the request. -/
def Concluded (command : Command) (trace : List (CliEvent σ)) (answer : Except Complaint Report) :
    Prop :=
  (AnyFoundHeld trace ∧ announced trace = [] ∧ command.isInspection = false ∧
      ∃ path, answer = .ok (.outcome (.rejected (.concurrentRun path)))) ∨
    (¬ AnyFoundHeld trace ∧ command.Answered (announced trace) answer)

theorem concluded_carryOut (s : Settings) (command : Command) (w : World σ) :
    y.Runs (carryOut s command) w fun trace answer _ =>
      ¬ AnyFoundHeld trace ∧ command.Answered (announced trace) answer := by
  refine (y.runs_onHost _ _ _ _).2 ?_
  apply (Command.answered_request (fun c t => Sysfs.lockless_answer _ y.os c t) s command).mono
  intro trace answer c' w' answered
  refine ⟨CliEvent.not_anyFoundHeld_onHost _ _, ?_⟩
  rw [CliEvent.announced_map_onHost]
  exact answered

/-- The run lock is asked for by what carries out a setup or a teardown, and by nothing else. -/
theorem concluded_locked (s : Settings) (command : Command) (w : World σ) :
    y.Runs (locked s command) w fun trace answer _ => Concluded command trace answer := by
  unfold locked
  cases needed : lockFor s command with
  | none => exact (concluded_carryOut s command w).mono fun _ _ _ answered => .inr answered
  | some path =>
    have runs : command.isInspection = false := by
      cases asks : command.isInspection with
      | false => rfl
      | true =>
        rw [lockFor_of_isInspection asks] at needed
        cases needed
    rw [y.runs_bind, y.runs_call]
    generalize y.answer (.lock path) w = replied
    obtain ⟨reply, w'⟩ := replied
    cases reply with
    | ok _ =>
      show y.Runs (carryOut s command >>= fun answer =>
        CliProg.call .unlock >>= fun _ => pure answer) w' _
      refine (y.runs_bind _ _ _).2 ((concluded_carryOut s command w').mono ?_)
      rintro trace answer w'' ⟨free, answered⟩
      refine .inr ⟨?_, ?_⟩
      · rw [CliEvent.anyFoundHeld_append, CliEvent.anyFoundHeld_append]
        rintro (found | found | found)
        · obtain ⟨_, same⟩ := (CliEvent.anyFoundHeld_singleton _).1 found
          cases same
        · exact free found
        · exact (CliEvent.anyFoundHeld_singleton _).1 found
      · -- taking the lock and giving it back announce nothing
        rw [CliEvent.announced_append, CliEvent.announced_append]
        exact (List.append_nil (announced trace)).symm ▸ answered
    | error e =>
      cases e with
      | concurrentRun other =>
        exact .inl ⟨(CliEvent.anyFoundHeld_singleton _).2 ⟨other, rfl⟩, rfl, runs, other, rfl⟩
      | _ =>
        refine .inr ⟨fun found => ?_, quiet_nil⟩
        obtain ⟨_, same⟩ := (CliEvent.anyFoundHeld_singleton _).1 found
        cases same

/-- What a run announced, its exit status tells. -/
theorem statusTells_of_reported {command : Command} {goal : Goal} {o : Outcome}
    {trace : List (CliEvent σ)} (pursues : command.Pursues goal)
    (reported : Reported (announced trace) goal o) (free : ¬ AnyFoundHeld trace) (json : Bool) :
    StatusTells command (.report json (.outcome o)) trace := by
  cases o with
  | committed journal applied skipped =>
    cases goal with
    | setup g =>
      have reported : RunState.rollingBack ∉ announced trace := reported
      constructor <;> simp [Ending.Fails, Ending.LeavesDevices, Report.exitCode, Outcome.exitCode,
        reported, free]
    | teardown devices => exact reported.elim
  | rolledBack e rollback =>
    cases goal with
    | setup g =>
      obtain ⟨rolled, stepped⟩ := reported
      constructor <;> simp [Ending.Fails, Ending.LeavesDevices, Report.exitCode, Outcome.exitCode,
        rolled, stepped, free]
      exact ⟨g, pursues⟩
    | teardown devices => exact reported.elim
  | rejected e =>
    have told : e.reportsLock = false ∧ Quiet (announced trace) := by cases goal <;> exact reported
    have code := Outcome.exitCode_rejected told.1
    constructor <;> simp [Ending.Fails, Ending.LeavesDevices, Report.exitCode, code, told.2.1,
      told.2.not_stepped, free]
  | tornDown found =>
    cases goal with
    | setup g => exact reported.elim
    | teardown devices =>
      obtain ⟨rolled, stepped⟩ := reported
      by_cases none : found.unrestored = []
      · constructor <;> simp [Ending.Fails, Ending.LeavesDevices, Report.exitCode,
          Outcome.exitCode, none, rolled, free]
      · constructor <;> simp [Ending.Fails, Ending.LeavesDevices, Report.exitCode,
          Outcome.exitCode, none, rolled, stepped none, free]
        exact ⟨devices, pursues⟩

/-- What the events of an invocation tell of its answer, its exit status tells. -/
theorem Concluded.statusTells {command : Command} {trace : List (CliEvent σ)}
    {answer : Except Complaint Report} (concluded : Concluded command trace answer) (json : Bool) :
    StatusTells command (Ending.ofAnswer json answer) trace := by
  rcases concluded with ⟨found, silent, runs, path, rfl⟩ | ⟨free, answered⟩
  · have quiet : Quiet (announced trace) := silent ▸ quiet_nil
    constructor <;> simp [Ending.ofAnswer, Ending.status, Ending.Fails, Ending.LeavesDevices,
      Report.exitCode, Outcome.exitCode, quiet.1, found, runs]
  · rcases answer with complaint | steps | o | ⟨pages, r⟩
    · have quiet : Quiet (announced trace) := answered
      constructor <;> simp [Ending.ofAnswer, Ending.status, Ending.Fails, Ending.LeavesDevices,
        quiet.1, quiet.not_stepped, free]
    · have quiet : Quiet (announced trace) := answered
      constructor <;> simp [Ending.ofAnswer, Ending.Fails, Ending.LeavesDevices, quiet.1, free]
    · obtain ⟨goal, pursues, reported⟩ := answered
      exact statusTells_of_reported pursues reported free json
    · have quiet : Quiet (announced trace) := answered
      constructor <;> simp [Ending.ofAnswer, Ending.Fails, Ending.LeavesDevices, quiet.1, free]

/-- Reading the settings says nothing of what happens afterwards. -/
theorem Concluded.afterReading {command : Command} {trace : List (CliEvent σ)}
    {answer : Except Complaint Report} (concluded : Concluded command trace answer)
    (before after : World σ) (path : HostPath) (reply : Except OsError String) :
    Concluded command ([⟨before, .readText path, reply, after⟩] ++ trace) answer := by
  have found : AnyFoundHeld ([(⟨before, .readText path, reply, after⟩ : CliEvent σ)] ++ trace) ↔
      AnyFoundHeld trace := by
    rw [CliEvent.anyFoundHeld_append, CliEvent.anyFoundHeld_singleton]
    exact or_iff_right id
  unfold Concluded
  rw [found]
  exact concluded

/-- What the exit status of an invocation tells, whose command line was understood. -/
theorem statusTells_run (y : System σ) (i : Invocation) (w : World σ) :
    y.Runs i.run w fun trace ending _ =>
      StatusTells i.command ending trace ∧
        ∀ complaint, i.settings (Prog.run y.os (OsProg.readText i.common.settingsPath) w.host).1 =
          .error complaint → ending = .complaint complaint ∧ announced trace = [] := by
  unfold run
  rw [y.runs_bind, y.runs_call]
  have reading : (y.answer (.readText i.common.settingsPath) w).1 =
      (Prog.run y.os (OsProg.readText i.common.settingsPath) w.host).1 := rfl
  rw [← reading]
  generalize y.answer (.readText i.common.settingsPath) w = replied
  obtain ⟨reply, w'⟩ := replied
  dsimp only
  cases i.settings reply with
  | error c =>
    have unlocked : ¬ AnyFoundHeld ([] : List (CliEvent σ)) := by
      rintro ⟨e, there, _⟩
      cases there
    have concluded : Concluded i.command [] (.error c) := .inr ⟨unlocked, quiet_nil⟩
    have told := (concluded.afterReading w w' i.common.settingsPath reply).statusTells i.common.json
    refine ⟨told, ?_⟩
    rintro complaint ⟨⟩
    exact ⟨rfl, rfl⟩
  | ok s =>
    refine (y.runs_bind _ _ _).2 ((concluded_locked s i.command w').mono ?_)
    intro trace answer w'' concluded
    have told := (concluded.afterReading w w' i.common.settingsPath reply).statusTells i.common.json
    rw [← List.append_nil trace] at told
    cases answer <;> exact ⟨told, nofun⟩

/-- The exit status of an invocation tells what it did, whatever the operating system answers,
whoever holds the run lock, and whatever the clock shows.  When the command line is understood, 0
says that nothing failed, 1 that something failed before any step, 2 that a setup came to a step
and rolled back, 3 that a teardown left a device behind, and 4 that the run lock was found held.
When it is not understood, nothing is done, and the status is that of the reader of options: 0 when
it was asked for help or for the version, and 2 otherwise. -/
theorem status_tells (y : System σ) (w : World σ) (words : List String) :
    let ending := (Prog.run y.answer (execute words) w).1
    let trace := Prog.calls y.answer (execute words) w
    match parse words with
    | .error reason =>
      trace = [] ∧ ending.status = if reason = .help ∨ reason = .version then 0 else 2
    | .ok i =>
      StatusTells i.command ending trace ∧
        ∀ complaint, i.settings (Prog.run y.os (OsProg.readText i.common.settingsPath) w.host).1 =
          .error complaint → ending.status = 1 ∧ announced trace = [] := by
  intro ending trace
  cases parsed : parse words with
  | error reason =>
    have stopped : execute words = pure (.usage reason) := by
      unfold execute
      rw [parsed]
    have nothing : trace = [] := congrArg (Prog.calls y.answer · w) stopped
    have usage : ending = .usage reason := congrArg (fun p => (Prog.run y.answer p w).1) stopped
    rw [usage]
    exact ⟨nothing, by cases reason <;> rfl⟩
  | ok i =>
    have execution : execute words = i.run := by
      unfold execute
      rw [parsed]
    have told := statusTells_run y i w
    rw [← execution] at told
    refine ⟨told.1, fun complaint refused => ?_⟩
    obtain ⟨complains, quiet⟩ := told.2 complaint refused
    exact ⟨congrArg Ending.status complains, quiet⟩

/-- A machine without files, on which the run lock is held or free. -/
def bareSystem (held : Bool) : System Machine where
  os := Machine.answer
  lock path m := (if held then .error (.concurrentRun path) else .ok (), m)
  unlock := id
  clock _ := 0

/-- A setup that finds the run lock held says so. -/
theorem held_lock_told :
    let trace := Prog.calls (bareSystem true).answer (execute ["setup"]) { host := {} }
    (Prog.run (bareSystem true).answer (execute ["setup"]) { host := {} }).1.status = 4 ∧
      AnyFoundHeld trace ∧ .rollingBack ∉ announced trace := by
  intro trace
  have told := (status_tells (bareSystem true) { host := {} } ["setup"] :
    StatusTells (.setup {}) _ trace ∧ _).1
  have status : (Prog.run (bareSystem true).answer (execute ["setup"]) { host := {} }).1.status =
      4 := by decide +kernel
  refine ⟨status, told.held.1 status, fun rolled => ?_⟩
  rw [told.rolledBack.2 rolled] at status
  cases status

/-- An option that is not known ends the program with the status of a setup that was rolled back,
without any setup. -/
theorem unknown_option_told_as_rollback :
    parse ["setup", "--bogus"] = .error .unknownArgument ∧
      (Prog.run (bareSystem false).answer (execute ["setup", "--bogus"]) { host := {} }).1.status =
        2 ∧
      Prog.calls (bareSystem false).answer (execute ["setup", "--bogus"]) { host := {} } = [] :=
  ⟨rfl, rfl, rfl⟩

end Invocation

end Provision
