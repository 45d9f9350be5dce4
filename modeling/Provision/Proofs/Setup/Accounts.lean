import Provision.Proofs.Announcements
import Provision.Proofs.Contract.Log
import Provision.Proofs.Setup.Forecast

/-!
# Accounts of setups

Every step of a setup and every change that it notes can be told from what the setup
does to its surroundings, however its calls are answered.  A step was made when the
call that makes its change succeeded while the step was announced; the changes that are
noted are those of the steps that were made, in order; and a rollback begins to undo
each of them once, from the newest to the oldest.

Main results:

- `Setup.accounts_apply`: what a step notes, and what it leaves when it fails.
- `Setup.tries_undoAll`: a rollback tries every change once.
- `Setup.accounted_applyFrom`: the steps in order.
- `Setup.every_step_accounted`: every step and every change of a setup.
-/

namespace Provision

open StoreTerms CatalogProg World

variable {σ : Type} {c : Catalog} {log : CallLog} {step : Step} {g : SetupGoal}

/-! ## Devices that were moved -/

/-- Whether a call moves a device. -/
def StoreCall.moves : StoreCall → Bool
  | .unbind _ _ | .bind _ _ => true
  | _ => false

/-- The moves of devices that succeeded. -/
def CallLog.moves (log : CallLog) : List StoreCall :=
  (log.filter fun entry => entry.1.moves && entry.2).map Prod.fst

/-- A move that succeeded makes the moves longer by one; other calls do not. -/
theorem CallLog.moves_append (log : CallLog) (call : StoreCall) (succeeded : Bool) :
    moves (log ++ [(call, succeeded)]) =
      moves log ++ if call.moves && succeeded then [call] else [] := by
  unfold moves
  rw [List.filter_append, List.map_append]
  by_cases moved : call.moves && succeeded
  · simp [moved]
  · simp [moved]

theorem CallLog.mem_moves {call : StoreCall} (moves : call.moves = true) :
    call ∈ CallLog.moves log ↔ (call, true) ∈ log := by
  simp [CallLog.moves, moves]

/-- A call that moves no device leaves the moves as they are. -/
theorem CallLog.moves_append_of_not (call : StoreCall) (other : call.moves = false) (log : CallLog)
    (succeeded : Bool) : moves (log ++ [(call, succeeded)]) = moves log := by
  rw [moves_append, other, Bool.false_and, if_neg Bool.false_ne_true, List.append_nil]

theorem Catalog.moves_homeDriver (a : PciAddress) :
    Ensures logged free (homeDriver a).run c log fun _ _ log' => log'.moves = log.moves := by
  rw [ensures_homeDriver]
  cases c.home? a with
  | some driver => rfl
  | none => exact asks_logged.2 fun _ => CallLog.moves_append_of_not _ rfl _ _

/-- Putting a driver on record moves no device. -/
theorem Catalog.moves_recordHome (a : PciAddress) (driver : String) :
    Ensures logged free (recordHome a driver).run c log fun _ _ log' => log'.moves = log.moves := by
  rw [ensures_recordHome]
  by_cases passthrough : c.isPassthrough driver
  · rw [if_pos passthrough]
  · rw [if_neg passthrough]
    apply (moves_homeDriver a).mono
    intro home c' log' same
    rcases home with e | _ | known
    · exact same
    · refine asks_logged.2 fun reply => ?_
      have same' : CallLog.moves (log' ++ [(.setHome a driver, reply.isOk)]) = log.moves :=
        (CallLog.moves_append_of_not _ rfl _ _).trans same
      cases reply <;> exact same'
    · exact same

namespace Binding

/-- A device that was detached was unbound, and nothing else was moved. -/
theorem moves_detach (a : PciAddress) (driver : String) (recorded : Bool) :
    Ensures logged free (detach a driver recorded).run c log fun result _ log' =>
      log'.moves = log.moves ++ if result.isOk then [.unbind a driver] else [] := by
  rw [ensures_detach, asks_logged]
  intro reply
  cases reply with
  | ok _ => exact CallLog.moves_append _ _ _
  | error e =>
    have same : CallLog.moves (log ++ [(.unbind a driver, false)]) = log.moves ++ [] :=
      CallLog.moves_append _ _ _
    cases recorded with
    | false => exact same
    | true =>
      refine asks_logged.2 fun reply => ?_
      have same' := (CallLog.moves_append_of_not (.clearHome a) rfl _ reply.isOk).trans same
      cases reply <;> exact same'

/-- A device that was released was unbound if it was bound, and nothing else was moved. -/
theorem moves_release (a : PciAddress) (current : Option String) :
    Ensures logged free (release a current).run c log fun result _ log' =>
      log'.moves = log.moves ++ if result.isOk then (current.map (.unbind a)).toList else [] := by
  rw [ensures_release]
  cases current with
  | none => exact (List.append_nil _).symm
  | some driver =>
    apply (Catalog.moves_recordHome a driver).mono
    intro result c' log' same
    cases result with
    | error e => exact same.trans (List.append_nil _).symm
    | ok recorded =>
      apply (moves_detach a driver recorded).mono
      intro result c'' log'' detached
      rw [same] at detached
      cases result <;> exact detached

end Binding

/-! ## Steps -/

/-- The call by which a step makes its change. -/
def Step.effect : Step → StoreCall
  | .loadModule m => .loadModule m
  | .mount r => .mount r.mountPath r.pageKb
  | .reserve r => .setPageCount r.pool r.count
  | .rebind a driver | .restore a driver => .bind a driver

/-- A step was made: the call that makes its change succeeded. -/
def Step.IsMade (step : Step) (log : CallLog) : Prop := (step.effect, true) ∈ log

instance (step : Step) (log : CallLog) : Decidable (step.IsMade log) :=
  inferInstanceAs (Decidable (_ ∈ _))

/-- What a step leaves when it fails: a device that it unbound and did not bind, or no device that
it unbound. -/
def Step.Leaves (step : Step) (log : CallLog) : Option Change → Prop
  | none => ∀ a driver, (.unbind a driver, true) ∉ log
  | some ch => ∃ a target prior recorded, step = .rebind a target ∧
      ch = .stranded a (some prior) recorded ∧ (.unbind a prior, true) ∈ log ∧ ¬ step.IsMade log

/-- What a step says of the calls that it made. -/
def Step.Accounts (step : Step) (log : CallLog) : Except Binding.Failure (Option Change) → Prop
  | .ok none => ¬ step.IsMade log
  | .ok (some ch) => step.IsMade log ∧ step.Notes ch
  | .error f => step.Leaves log f.stranded

/-- A step that failed and moved no device leaves nothing behind. -/
theorem Step.accounts_plain {e : Error} (still : log.moves = []) :
    step.Accounts log (.error (.plain e)) := by
  intro a driver unbound
  have moved : .unbind a driver ∈ log.moves := (CallLog.mem_moves rfl).2 unbound
  rw [still] at moved
  cases moved

theorem Loading.accounts_require (m : ModuleRequest) :
    HostProg.Ensures logged free (require m).run [] fun result log =>
      (Step.loadModule m).Accounts log (result.mapError .plain) := by
  rw [ensures_require, asks_logged]
  intro reply
  cases reply with
  | error e => exact Step.accounts_plain rfl
  | ok state =>
    show if state.loaded then _ else _
    by_cases loaded : state.loaded
    · rw [if_pos loaded]
      cases conflict? m state with
      | none =>
        show ¬ (Step.loadModule m).IsMade _
        simp [Step.IsMade, Step.effect]
      | some parameter => exact Step.accounts_plain rfl
    · rw [if_neg loaded, ensures_loadAbsent, asks_logged]
      intro reply
      cases reply with
      | error e => exact Step.accounts_plain rfl
      | ok _ =>
        refine asks_logged.2 fun reply => ?_
        cases reply with
        | error e => exact Step.accounts_plain rfl
        | ok after =>
          show if after.loaded then _ else _
          by_cases there : after.loaded
          · rw [if_pos there]
            exact ⟨List.mem_cons_of_mem _ (List.mem_cons_self ..), rfl⟩
          · rw [if_neg there]
            exact Step.accounts_plain rfl

namespace Reserving

theorem accounts_mount (r : Reservation) :
    HostProg.Ensures logged free (mount r).run [] fun result log =>
      (Step.mount r).Accounts log (result.mapError .plain) := by
  rw [ensures_mount, asks_logged]
  intro reply
  cases reply with
  | error e => exact Step.accounts_plain rfl
  | ok mounted =>
    cases mounted with
    | true =>
      show ¬ (Step.mount r).IsMade _
      simp [Step.IsMade, Step.effect]
    | false =>
      refine asks_logged.2 fun reply => ?_
      cases reply with
      | error e => exact Step.accounts_plain rfl
      | ok _ => exact ⟨List.mem_cons_of_mem _ (List.mem_cons_self ..), rfl⟩

theorem accounts_reserve (r : Reservation) :
    HostProg.Ensures logged free (reserve r).run [] fun result log =>
      (Step.reserve r).Accounts log (result.mapError .plain) := by
  rw [ensures_reserve, asks_logged]
  intro reply
  cases reply with
  | error e => exact Step.accounts_plain rfl
  | ok mounted =>
    show if mounted then _ else _
    by_cases there : mounted
    · rw [if_pos there, asks_logged]
      intro reply
      cases reply with
      | error e => exact Step.accounts_plain rfl
      | ok previous =>
        show if r.isMetBy previous then _ else _
        by_cases met : r.isMetBy previous
        · rw [if_pos met]
          show ¬ (Step.reserve r).IsMade _
          simp [Step.IsMade, Step.effect]
        · rw [if_neg met, ensures_resize, asks_logged]
          intro reply
          cases reply with
          | error e => exact Step.accounts_plain rfl
          | ok _ =>
            refine asks_logged.2 fun reply => ?_
            cases reply with
            | error e => exact Step.accounts_plain rfl
            | ok granted =>
              show (Step.reserve r).Accounts _ (((judge r previous granted).map some).mapError _)
              unfold judge
              split
              · exact Step.accounts_plain rfl
              · exact ⟨List.mem_cons_of_mem _ (List.mem_cons_of_mem _ (List.mem_cons_self ..)),
                  previous, rfl⟩
    · rw [if_neg there]
      exact Step.accounts_plain rfl

end Reserving

/-- A device that is handed over is bound to the driver, or left unbound and stranded, or it was not
moved. -/
theorem Binding.accounts_handOver (a : PciAddress) (target : String) :
    Ensures logged free (handOver a target).run c [] fun result _ log =>
      (Step.rebind a target).Accounts log result := by
  rw [ensures_handOver, asks_logged]
  intro reply
  cases reply with
  | error e => exact Step.accounts_plain rfl
  | ok current =>
    show if current = some target then _ else _
    by_cases already : current = some target
    · rw [if_pos already]
      show ¬ (Step.rebind a target).IsMade _
      simp [Step.IsMade, Step.effect]
    · rw [if_neg already]
      apply (moves_release a current).mono
      intro result c' log released
      have released : log.moves =
          if result.isOk then (current.map (StoreCall.unbind a)).toList else [] := released
      cases result with
      | error e => exact Step.accounts_plain released
      | ok recorded =>
        refine (ensures_attach a target current recorded).2 (asks_logged.2 fun reply => ?_)
        cases reply with
        | ok _ =>
          have bound : (Step.rebind a target).IsMade (log ++ [(.bind a target, true)]) :=
            List.mem_append_right _ (List.mem_singleton_self _)
          exact ⟨bound, current, recorded, rfl⟩
        | error e =>
          have moves : CallLog.moves (log ++ [(.bind a target, false)]) =
              (current.map (StoreCall.unbind a)).toList := by
            rw [CallLog.moves_append, released]
            exact List.append_nil _
          cases current with
          | none => exact Step.accounts_plain moves
          | some prior =>
            have moved : .unbind a prior ∈ CallLog.moves (log ++ [(.bind a target, false)]) := by
              rw [moves]
              exact List.mem_singleton_self _
            refine ⟨a, target, prior, recorded, rfl, rfl, (CallLog.mem_moves rfl).1 moved, ?_⟩
            intro isMade
            have bound : .bind a target ∈ CallLog.moves (log ++ [(.bind a target, false)]) :=
              (CallLog.mem_moves rfl).2 isMade
            rw [moves] at bound
            simp at bound

namespace Setup

/-- A step of a setup that was made notes its change, and one that found nothing to do notes
none. -/
theorem accounts_apply (mine : step ∈ g.steps) :
    Ensures logged free (apply step).run c [] fun result _ log => step.Accounts log result := by
  rcases SetupGoal.mem_steps.1 mine with ⟨m, _, rfl⟩ | rfl | rfl | ⟨a, _, rfl⟩
  · rw [ensures_apply_loadModule]
    exact Loading.accounts_require m
  · rw [ensures_apply_mount]
    exact Reserving.accounts_mount g.pages
  · rw [ensures_apply_reserve]
    exact Reserving.accounts_reserve g.pages
  · exact Binding.accounts_handOver a g.target

end Setup

/-! ## Undoing -/

/-- The call by which the undoing of a change begins. -/
def Change.attempt : Change → StoreCall
  | .moduleLoaded name => .unloadModule name
  | .mounted path _ => .unmount path
  | .reserved pool previous => .setPageCount pool previous
  | .rebound a _ _ | .stranded a _ _ => .boundDriver a

/-- Whether the undoing of a change may begin with a call. -/
def StoreCall.attempts : StoreCall → Bool
  | .unloadModule _ | .unmount _ | .setPageCount _ _ | .boundDriver _ => true
  | _ => false

/-- The calls with which the undoing of changes begins. -/
def CallLog.attempts (log : CallLog) : List StoreCall :=
  (log.map Prod.fst).filter StoreCall.attempts

theorem CallLog.attempts_append (log : CallLog) (call : StoreCall) (succeeded : Bool) :
    attempts (log ++ [(call, succeeded)]) =
      attempts log ++ if call.attempts then [call] else [] := by
  unfold attempts
  rw [List.map_append, List.filter_append]
  cases begins : call.attempts <;> simp [begins]

/-- The undoing of no change begins with a call that is made later. -/
theorem CallLog.attempts_append_of_not (call : StoreCall) (later : call.attempts = false)
    (log : CallLog) (succeeded : Bool) :
    attempts (log ++ [(call, succeeded)]) = attempts log := by
  rw [attempts_append, later, if_neg Bool.false_ne_true, List.append_nil]

namespace Binding

theorem tries_reattach (a : PciAddress) (prior current : Option String) :
    Ensures logged free (reattach a prior current).run c log fun _ _ log' =>
      log'.attempts = log.attempts := by
  rw [ensures_reattach]
  cases prior with
  | none => rfl
  | some driver =>
    refine asks_logged.2 fun reply => ?_
    have same := CallLog.attempts_append_of_not (.bind a driver) rfl log reply.isOk
    cases reply <;> exact same

theorem tries_detach (a : PciAddress) (driver : String) :
    Ensures logged free (detach a driver false).run c log fun _ _ log' =>
      log'.attempts = log.attempts := by
  rw [ensures_detach, asks_logged]
  intro reply
  have same := CallLog.attempts_append_of_not (.unbind a driver) rfl log reply.isOk
  cases reply <;> exact same

/-- Bringing a device back begins with looking where it is. -/
theorem tries_bringBack (a : PciAddress) (prior : Option String) :
    Ensures logged free (bringBack a prior).run c log fun _ _ log' =>
      log'.attempts = log.attempts ++ [.boundDriver a] := by
  rw [ensures_bringBack, asks_logged]
  intro reply
  have begun : CallLog.attempts (log ++ [(.boundDriver a, reply.isOk)]) =
      log.attempts ++ [.boundDriver a] := CallLog.attempts_append _ _ _
  cases reply with
  | error e => exact begun
  | ok current =>
    show if current = prior then _ else _
    by_cases back : current = prior
    · rw [if_pos back]
      exact begun
    · rw [if_neg back]
      cases current with
      | none =>
        apply (tries_reattach a prior none).mono
        exact fun _ _ _ same => same.trans begun
      | some driver =>
        apply (tries_detach a driver).mono
        intro result c' log' same
        cases result with
        | error e => exact same.trans begun
        | ok _ =>
          rw [skipOnError_ok]
          apply (tries_reattach a prior (some driver)).mono
          exact fun _ _ _ same' => (same'.trans same).trans begun

end Binding

namespace Setup

/-- A change is tried once, whatever becomes of it. -/
theorem tries_undo (ch : Change) :
    Ensures logged free (undo ch).run c log fun _ _ log' =>
      log'.attempts = log.attempts ++ [ch.attempt] := by
  have once {call : StoreCall} (begins : call.attempts = true) (reply : call.Reply) :
      CallLog.attempts (log ++ [(call, reply.isOk)]) = log.attempts ++ [call] := by
    rw [CallLog.attempts_append, begins, if_pos rfl]
  have device (a : PciAddress) (prior : Option String) (recorded : Bool) :
      Ensures logged free (undo (.rebound a prior recorded)).run c log fun _ _ log' =>
        log'.attempts = log.attempts ++ [.boundDriver a] := by
    rw [ensures_undo_rebound]
    apply (Binding.tries_bringBack a prior).mono
    intro result c' log' tried
    cases result with
    | error e => exact tried
    | ok _ =>
      cases recorded with
      | false => exact tried
      | true =>
        show Ensures logged free (Catalog.forgetHome a).run c' log' fun _ _ log' =>
          log'.attempts = log.attempts ++ [.boundDriver a]
        refine (Catalog.ensures_forgetHome a).2 (asks_logged.2 fun reply => ?_)
        have tried' := (CallLog.attempts_append_of_not (.clearHome a) rfl log'
          reply.isOk).trans tried
        cases reply <;> exact tried'
  cases ch with
  | moduleLoaded name => exact asks_logged.2 (once rfl)
  | mounted path pageKb => exact asks_logged.2 (once rfl)
  | reserved pool previous => exact asks_logged.2 (once rfl)
  | rebound a prior recorded => exact device a prior recorded
  | stranded a prior recorded => exact device a prior recorded

/-- Changes are tried one after the other, whatever becomes of those before, and counted. -/
theorem tries_undoAll (changes : List Change) :
    Ensures logged free (undoAll changes) c log fun report _ log' =>
      log'.attempts = log.attempts ++ changes.map Change.attempt ∧
        report.reverted + report.failures.length = changes.length ∧
        (report.failures.map Prod.fst).Sublist changes := by
  induction changes generalizing c log with
  | nil =>
    rw [ensures_undoAll_nil]
    exact ⟨(List.append_nil _).symm, rfl, .slnil⟩
  | cons ch older ih =>
    rw [ensures_undoAll_cons]
    apply (tries_undo ch).mono
    intro result c' log' tried
    apply ih.mono
    intro report c'' log'' undone
    obtain ⟨attempts, counted, remaining⟩ := undone
    refine ⟨?_, ?_, ?_⟩
    · rw [attempts, tried, List.map_cons, List.append_assoc]
      rfl
    · cases result with
      | ok _ =>
        show report.reverted + 1 + report.failures.length = older.length + 1
        omega
      | error e =>
        show report.reverted + (report.failures.length + 1) = older.length + 1
        omega
    · cases result with
      | ok _ => exact remaining.cons ch
      | error e => exact remaining.cons_cons ch

/-! ## Steps in order -/

variable {store : StoreHandler σ} {clock : Nat → Nat} {w : World σ}

/-- What is made of the changes of a setup that is undone: from the newest to the oldest, each is
tried once; those that were undone are counted, and those that remain are listed. -/
structure Undone (changes : Journal) (log : CallLog) (report : RollbackReport) : Prop where
  tried : log.attempts = changes.newestFirst.map Change.attempt
  counted : report.reverted + report.failures.length = changes.length
  remaining : (report.failures.map Prod.fst).Sublist changes.newestFirst

/-- A setup that is undone announces that, and undoes its changes while it rolls back. -/
theorem runs_undone_abort (e : Error) (journal : Journal) :
    Runs store clock (abort e journal) c w fun trace outcome _ _ =>
      ∃ report, outcome = .rolledBack e report ∧ entered trace = [.rollingBack, .failed] ∧
        Undone journal (World.log (during .rollingBack trace)) report ∧
        ∀ state, state ≠ .rollingBack → during state trace = [] := by
  rw [runs_abort]
  have tried : Ensures logged free (undoAll journal.newestFirst) c [] _ :=
    tries_undoAll journal.newestFirst
  apply ((silent_undoAll journal.newestFirst).runs_quiet.and tried.runs_logged).mono
  intro undoing report c' w' both
  obtain ⟨⟨none, here, elsewhere, -⟩, attempts, counted, remaining⟩ := both
  refine ⟨report, rfl, ?_, ⟨?_, ?_, remaining⟩, fun state ne => ?_⟩
  · simp [none]
  · have rolling : during .rollingBack undoing = storeEvents undoing := here
    rw [during_announcing, during_append, rolling, during_announcing, during_nil, List.append_nil]
    exact attempts
  · rw [counted]
    exact List.length_reverse
  · rw [during_announcing, during_append, elsewhere state ne, during_announcing]
    rfl

/-- The calls that a setup makes while the step at a place is announced. -/
def stepLog (trace : List (Event σ)) (total index : Nat) : CallLog :=
  World.log (during (.applying (index + 1) total) trace)

/-- The steps that were made, of steps with their places. -/
def stepsMade (trace : List (Event σ)) (total : Nat) (placed : List (Step × Nat)) : List Step :=
  (placed.filter fun entry => entry.1.IsMade (stepLog trace total entry.2)).map Prod.fst

/-- The announcements of steps from a place on. -/
def announced (total index count : Nat) : List RunState :=
  (List.range' index count).map fun i => .applying (i + 1) total

/-- A setup that makes steps from a place on is accounted for, given what it had noted and counted
before. -/
def Accounted (total index : Nat) (steps : List Step) (p : Progress) (trace : List (Event σ)) :
    Outcome → Prop
  | .committed journal applied skipped =>
    entered trace = announced total index steps.length ++ [.committed] ∧
      applied + skipped = p.applied + p.skipped + steps.length ∧
      ∃ noted, journal = p.journal ++ noted ∧ applied = p.applied + noted.length ∧
        List.Forall₂ Step.Notes (stepsMade trace total (steps.zipIdx index)) noted
  | .rolledBack _ report =>
    ∃ k failing, steps[k]? = some failing ∧
      entered trace = announced total index (k + 1) ++ [.rollingBack, .failed] ∧
      ∃ noted left,
        List.Forall₂ Step.Notes (stepsMade trace total ((steps.take k).zipIdx index)) noted ∧
        failing.Leaves (stepLog trace total (index + k)) left ∧
        Undone (p.journal ++ noted ++ left.toList) (World.log (during .rollingBack trace)) report
  | .rejected _ | .tornDown _ => False

/-- A trace announces the step at a place, and makes the calls of a log for it, and no others. -/
structure Opens (total index : Nat) (log : CallLog) (trace : List (Event σ)) : Prop where
  entered : entered trace = [.applying (index + 1) total]
  calls : stepLog trace total index = log
  elsewhere : ∀ state, state ≠ .applying (index + 1) total → during state trace = []

/-- A trace makes no calls for the steps before a place. -/
def Follows (total index : Nat) (trace : List (Event σ)) : Prop :=
  ∀ j < index, during (.applying (j + 1) total) trace = []

/-- What a setup has done so far, after a step that may have made a change. -/
def Progress.after (p : Progress) : Option Change → Progress
  | none => p.skip
  | some ch => p.note ch

theorem Progress.journal_after (p : Progress) (made : Option Change) :
    (p.after made).journal = p.journal ++ made.toList := by
  cases made with
  | none => exact (List.append_nil _).symm
  | some ch => rfl

theorem Progress.applied_after (p : Progress) (made : Option Change) :
    (p.after made).applied = p.applied + made.toList.length := by
  cases made <;> rfl

theorem Progress.counted_after (p : Progress) (made : Option Change) :
    (p.after made).applied + (p.after made).skipped = p.applied + p.skipped + 1 := by
  cases made with
  | none => rfl
  | some ch => exact Nat.add_right_comm ..

section Opening

variable {total index : Nat} {first later : List (Event σ)} {rest : List Step} {p : Progress}
  {outcome : Outcome}

theorem Opens.stepLog_of_ne (opens : Opens total index log first) {j : Nat} (ne : j ≠ index) :
    stepLog (first ++ later) total j = stepLog later total j := by
  have other : RunState.applying (j + 1) total ≠ .applying (index + 1) total := by
    simpa using ne
  unfold stepLog
  rw [during_append, opens.elsewhere _ other, List.nil_append]

theorem Opens.stepLog_self (opens : Opens total index log first)
    (follows : Follows total (index + 1) later) : stepLog (first ++ later) total index = log := by
  rw [← opens.calls]
  unfold stepLog
  rw [during_append, follows index (Nat.lt_succ_self _), List.append_nil]

theorem Opens.rolling (opens : Opens total index log first) :
    during .rollingBack (first ++ later) = during .rollingBack later := by
  rw [during_append, opens.elsewhere .rollingBack nofun, List.nil_append]

/-- What follows a step makes no calls for the steps before it, and neither does the step. -/
theorem Opens.follows (opens : Opens total index log first)
    (follows : Follows total (index + 1) later) : Follows total index (first ++ later) := by
  intro j before
  have other : RunState.applying (j + 1) total ≠ .applying (index + 1) total := by
    simp
    omega
  rw [during_append, opens.elsewhere _ other, follows j (by omega), List.append_nil]

/-- The step that a trace opens with comes before those that were made later. -/
theorem Opens.stepsMade_cons (opens : Opens total index log first)
    (follows : Follows total (index + 1) later) {made : Option Change}
    (accounts : step.Accounts log (.ok made)) {noted : Journal}
    (notes : List.Forall₂ Step.Notes (stepsMade later total (rest.zipIdx (index + 1))) noted) :
    List.Forall₂ Step.Notes (stepsMade (first ++ later) total ((step :: rest).zipIdx index))
      (made.toList ++ noted) := by
  have others : stepsMade (first ++ later) total (rest.zipIdx (index + 1)) =
      stepsMade later total (rest.zipIdx (index + 1)) := by
    unfold stepsMade
    congr 1
    refine List.filter_congr fun entry hentry => ?_
    have after : index + 1 ≤ entry.2 := List.le_snd_of_mem_zipIdx hentry
    rw [opens.stepLog_of_ne (by omega)]
  rw [← others] at notes
  unfold stepsMade
  rw [List.zipIdx_cons, List.filter_cons, opens.stepLog_self follows]
  cases made with
  | none =>
    have idle : ¬ step.IsMade log := accounts
    rw [if_neg (by simpa using idle)]
    exact notes
  | some ch =>
    obtain ⟨isMade, tells⟩ := accounts
    rw [if_pos (by simpa using isMade)]
    exact .cons tells notes

/-- A step that was made or passed over is accounted for before those after it. -/
theorem Opens.accounted_cons (opens : Opens total index log first)
    (follows : Follows total (index + 1) later) {made : Option Change}
    (accounts : step.Accounts log (.ok made))
    (rests : Accounted total (index + 1) rest (p.after made) later outcome) :
    Accounted total index (step :: rest) p (first ++ later) outcome := by
  have states (count : Nat) (ends : List RunState)
      (names : World.entered later = announced total (index + 1) count ++ ends) :
      World.entered (first ++ later) = announced total index (count + 1) ++ ends := by
    rw [entered_append, opens.entered, names]
    rfl
  cases outcome with
  | committed journal applied skipped =>
    obtain ⟨names, counted, noted, rfl, rfl, notes⟩ := rests
    refine ⟨states _ _ names, ?_, made.toList ++ noted, ?_, ?_, ?_⟩
    · rw [counted, p.counted_after made, List.length_cons]
      omega
    · rw [p.journal_after made, List.append_assoc]
    · rw [p.applied_after made, List.length_append, Nat.add_assoc]
    · exact opens.stepsMade_cons follows accounts notes
  | rolledBack e report =>
    obtain ⟨k, failing, there, names, noted, left, notes, leaves, undone⟩ := rests
    refine ⟨k + 1, failing, there, states _ _ names, made.toList ++ noted, left, ?_, ?_, ?_⟩
    · exact opens.stepsMade_cons follows accounts notes
    · rw [opens.stepLog_of_ne (by omega), ← Nat.add_assoc, Nat.add_right_comm]
      exact leaves
    · rw [opens.rolling, ← List.append_assoc p.journal, ← p.journal_after made]
      exact undone
  | rejected e => exact rests
  | tornDown report => exact rests

/-- Looking at the clock opens a trace without calls. -/
theorem opens_isLate (timeout : Option Nat) (total index : Nat) :
    Runs store clock (liftM (isLate timeout index)) c (w.announce (.applying (index + 1) total))
      fun reading _ _ w' =>
        Opens total index [] (w.announcing (.applying (index + 1) total) :: reading) ∧
          w'.state = .applying (index + 1) total := by
  apply ((runs_isLate timeout index).and
    (silent_lift (silent_isLate timeout index)).runs_quiet).mono
  intro reading late c' w' both
  obtain ⟨⟨still, state, -⟩, mute, -⟩ := both
  have nothing (state : RunState) :
      during state (w.announcing (.applying (index + 1) total) :: reading) = [] := by
    rw [during_announcing, during_of_storeEvents_eq_nil still]
  refine ⟨⟨?_, ?_, fun other _ => nothing other⟩, state⟩
  · rw [entered_announcing, mute]
  · unfold stepLog
    rw [nothing]
    rfl

/-- Making a step opens a trace with the calls that the step accounts for. -/
theorem Opens.runs_apply (opens : Opens total index [] first) (mine : step ∈ g.steps)
    (state : w.state = .applying (index + 1) total) :
    Runs store clock (apply step).run c w fun making result _ _ =>
      ∃ log, Opens total index log (first ++ making) ∧ step.Accounts log result := by
  apply ((silent_apply step).runs_quiet.and (accounts_apply mine).runs_logged).mono
  intro making result c' w' both
  obtain ⟨⟨mute, here, elsewhere, -⟩, accounts⟩ := both
  rw [state] at here elsewhere
  refine ⟨World.log (storeEvents making), ⟨?_, ?_, fun other ne => ?_⟩, accounts⟩
  · rw [entered_append, opens.entered, mute, List.append_nil]
  · have before : World.log (during (.applying (index + 1) total) first) = [] := opens.calls
    unfold stepLog
    rw [during_append, log_append, before, here, List.nil_append]
  · rw [during_append, opens.elsewhere other ne, elsewhere other ne, List.append_nil]

/-- A step that failed is accounted for by what it left and by what is undone after it. -/
theorem Opens.runs_abort (opens : Opens total index log first) {left : Option Change}
    (leaves : step.Leaves log left) (e : Error) :
    Runs store clock (abort e (p.journal ++ left.toList)) c w fun undoing outcome _ _ =>
      Accounted total index (step :: rest) p (first ++ undoing) outcome ∧
        Follows total index (first ++ undoing) := by
  apply (runs_undone_abort _ _).mono
  intro undoing outcome c' w' aborted
  obtain ⟨report, rfl, names, undone, elsewhere⟩ := aborted
  have follows : Follows total (index + 1) undoing := fun j _ => elsewhere _ RunState.noConfusion
  refine ⟨⟨0, step, rfl, ?_, [], left, .nil, ?_, ?_⟩, opens.follows follows⟩
  · rw [entered_append, opens.entered, names]
    rfl
  · rw [Nat.add_zero, opens.stepLog_self follows]
    exact leaves
  · rw [opens.rolling, List.append_nil]
    exact undone

end Opening

/-- The steps of a setup are accounted for, whichever of them fails and whenever the deadline
passes. -/
theorem accounted_applyFrom (timeout : Option Nat) (total index : Nat) (steps : List PlannedStep)
    (p : Progress) (mine : ∀ planned ∈ steps, planned.step ∈ g.steps) :
    Runs store clock (applyFrom timeout total index steps p) c w fun trace outcome _ _ =>
      Accounted total index (steps.map (·.step)) p trace outcome ∧ Follows total index trace := by
  induction steps generalizing index p c w with
  | nil =>
    rw [runs_applyFrom_nil]
    refine ⟨⟨rfl, rfl, [], (List.append_nil _).symm, rfl, .nil⟩, fun j _ => ?_⟩
    rw [during_announcing, during_nil]
  | cons planned rest ih =>
    obtain ⟨isMine, areMine⟩ := List.forall_mem_cons.1 mine
    -- what the later steps account for is all that is left to account for once this one is made
    have next {log : CallLog} {first : List (Event σ)} (opens : Opens total index log first)
        {made : Option Change} (accounts : planned.step.Accounts log (.ok made)) (c : Catalog)
        (w : World σ) :
        Runs store clock (applyFrom timeout total (index + 1) rest (p.after made)) c w
          fun later outcome _ _ =>
            Accounted total index ((planned :: rest).map (·.step)) p (first ++ later) outcome ∧
              Follows total index (first ++ later) := by
      apply (ih (index + 1) (p.after made) areMine).mono
      intro later outcome c' w' rests
      exact ⟨opens.accounted_cons rests.2 accounts rests.1, opens.follows rests.2⟩
    rw [runs_applyFrom_cons]
    apply (opens_isLate timeout total index).mono
    intro reading late c' w' opened
    obtain ⟨opens, state⟩ := opened
    dsimp only
    by_cases hl : late
    · have leaves : planned.step.Leaves [] none := fun _ _ => List.not_mem_nil
      have noted : p.journal = p.journal ++ (none : Option Change).toList :=
        (List.append_nil p.journal).symm
      rw [if_pos hl, noted]
      exact opens.runs_abort leaves (.timedOut index)
    · rw [if_neg hl]
      by_cases hp : planned.satisfied
      · have accounts : planned.step.Accounts [] (.ok none) := List.not_mem_nil
        rw [if_pos hp]
        exact next opens accounts c' w'
      · rw [if_neg hp]
        apply (opens.runs_apply isMine state).mono
        intro making result c'' w'' made
        obtain ⟨log, opens', accounts⟩ := made
        have later (trace : List (Event σ)) :
            w.announcing (.applying (index + 1) total) :: (reading ++ (making ++ trace)) =
              w.announcing (.applying (index + 1) total) :: reading ++ making ++ trace := by
          simp
        simp only [later]
        rcases result with f | _ | ch
        · exact opens'.runs_abort accounts f.error
        · exact next opens' accounts c'' w''
        · exact next opens' accounts c'' w''

/-- A setup is rejected while it probes, or its steps are accounted for in what it does after
that. -/
theorem accounted_run (policy : Policy) (g : SetupGoal) :
    Runs store clock (run policy g) c w fun trace outcome _ _ =>
      (∃ e, outcome = .rejected e ∧ entered trace = [.idle, .probing, .failed]) ∨
        ∃ later, Accounted g.steps.length 0 g.steps {} later outcome ∧
          entered trace = [.idle, .probing] ++ entered later ∧
          ∀ state, state ≠ .probing → during state trace = during state later := by
  have made := ((within_plan_setup (A := of store) (F := fun _ => True) (c := c) (s := w.host)
    policy.filter g).runs clock (w := (w.announce .idle).announce .probing))
  rw [runs_run]
  apply ((silent_plan_setup policy.filter g).runs_quiet.and made).mono
  intro planning result c' w' planned
  obtain ⟨⟨mute, -, elsewhere, -⟩, -, isFor⟩ := planned
  cases result with
  | error e => exact .inl ⟨e, rfl, by simp [mute]⟩
  | ok steps =>
    obtain ⟨v, rfl⟩ := isFor
    apply (accounted_applyFrom policy.timeout (Plan.setupSteps v g).length 0 (Plan.setupSteps v g)
      {} fun planned hplanned => Plan.step_mem_steps hplanned).mono
    intro later outcome c'' w'' steps
    have total : (Plan.setupSteps v g).length = g.steps.length := by
      rw [← Plan.steps_setupSteps v g, List.length_map]
    rw [Plan.steps_setupSteps, total] at steps
    refine .inr ⟨later, steps.1, ?_, fun state ne => ?_⟩
    · simp [mute]
    · have before : during state planning = [] := elsewhere state ne
      simp [before]

/-- Every step and every change of a setup is accounted for, however its calls are answered and
whenever its deadline passes.  The setup announces that it is idle and that it probes, and then its
steps one after the other: all of them when it is committed, and those up to the one that failed, or
that came too late, when it is undone.  When it is committed, each step was made or passed over, and
the journal holds a change for each that was made, in order, which names its module, its mount, its
pool or its device.  When it is undone, the changes of the steps that were made before the failing
one, and the device that this one left stranded, if it did, are tried once each, from the newest to
the oldest, and the report counts those that were undone and lists the others. -/
theorem every_step_accounted (store : StoreHandler σ) (clock : Nat → Nat) (policy : Policy)
    (g : SetupGoal) (c : Catalog) (w : World σ) :
    let trace := trace store clock (run policy g) c w
    let total := g.modules.length + 2 + g.devices.toList.length
    let applying (i : Nat) := RunState.applying (i + 1) total
    match (runOn store clock (run policy g) c w).1.1 with
    | .committed journal applied skipped =>
      entered trace = [.idle, .probing] ++ (List.range total).map applying ++ [.committed] ∧
        applied + skipped = total ∧ journal.length = applied ∧
        List.Forall₂ Step.Notes (stepsMade trace total g.steps.zipIdx) journal
    | .rolledBack _ report =>
      ∃ k failing, g.steps[k]? = some failing ∧
        entered trace =
          [.idle, .probing] ++ (List.range (k + 1)).map applying ++ [.rollingBack, .failed] ∧
        ∃ noted left,
          List.Forall₂ Step.Notes (stepsMade trace total (g.steps.take k).zipIdx) noted ∧
          failing.Leaves (stepLog trace total k) left ∧
          Undone (noted ++ left.toList) (World.log (during .rollingBack trace)) report
    | .rejected _ => entered trace = [.idle, .probing, .failed]
    | .tornDown _ => False := by
  intro trace total applying
  have length : g.steps.length = total := by
    simp [total, SetupGoal.steps]
    omega
  have runs : Runs store clock (run policy g) c w _ := accounted_run policy g
  have accounted : (∃ e, _ ∧ _) ∨ ∃ later, _ ∧ _ ∧ _ := runs
  rw [length] at accounted
  rcases accounted with ⟨e, rejected, names⟩ | ⟨later, accounted, names, calls⟩
  · rw [rejected]
    exact names
  · have log (i : Nat) : stepLog trace total i = stepLog later total i :=
      congrArg World.log (calls _ RunState.noConfusion)
    have made (placed : List (Step × Nat)) :
        stepsMade trace total placed = stepsMade later total placed := by
      unfold stepsMade
      simp only [log]
    have announced (count : Nat) : announced total 0 count = (List.range count).map applying := by
      rw [List.range_eq_range']
      rfl
    have names : entered trace = [.idle, .probing] ++ entered later := names
    generalize (runOn store clock (run policy g) c w).1.1 = outcome at accounted ⊢
    cases outcome with
    | committed journal applied skipped =>
      obtain ⟨states, counted, noted, rfl, rfl, notes⟩ := accounted
      refine ⟨?_, ?_, (Nat.zero_add _).symm, ?_⟩
      · rw [names, states, length, announced, List.append_assoc]
      · rw [counted, length]
        exact Nat.zero_add _
      · rw [made]
        exact notes
    | rolledBack e report =>
      obtain ⟨k, failing, there, states, noted, left, notes, leaves, undone⟩ := accounted
      refine ⟨k, failing, there, ?_, noted, left, ?_, ?_, ?_⟩
      · rw [names, states, announced, List.append_assoc]
      · rw [made]
        exact notes
      · rw [log, ← Nat.zero_add k]
        exact leaves
      · have rolling : during .rollingBack trace = during .rollingBack later :=
          calls _ RunState.noConfusion
        rw [rolling]
        exact undone
    | rejected e => exact accounted.elim
    | tornDown report => exact accounted

/-- A controller that cannot be bound: the setup comes to its last step, and is undone there. -/
example :
    entered (trace SimHost.answer (fun _ => 0) (run {} (Topology.handOver [Topology.dataNic]))
      (Policy.freshCatalog {})
      { host := Topology.twoNics.failBind Topology.dataNic "vfio-pci" }) =
        [.idle, .probing] ++ (List.range 5).map (fun i => .applying (i + 1) 5) ++
          [.rollingBack, .failed] := by
  decide +kernel

end Setup

end Provision
