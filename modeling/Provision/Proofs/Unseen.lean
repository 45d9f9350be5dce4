import Provision.Proofs.Contract.Invariant
import Provision.Proofs.Contract.Log
import Provision.Proofs.Rollback

/-!
# Changes that are not seen

A module that is required is looked for, loaded, and looked for again.  On a host on
which calls fail, the last of these calls may be the one that fails.  The module has been
loaded then, but nobody has seen it: the request fails, and notes no change that could be
undone.  A setup that fails in this way leaves the module loaded, and its report says
nothing of it.

Main results:

- `SimHost.asks_failsWith`: a call on a host on which calls fail, with a log beside it.
- `Loading.told_require`: a request for a module that fails leaves the host as it was,
  or has loaded the module unseen.
- `Setup.moduleTold_apply`, `Setup.moduleReported_run`: what one step and a whole setup tell
  of a module.
- `Setup.modules_reported_or_unseen`: what differs after a rollback is reported, or was
  loaded unseen.
-/

namespace Provision

open StoreTerms CatalogProg World

/-- A change was made, and the reading right after it failed. -/
def CallLog.Unseen (log : CallLog) (change reading : StoreCall) : Prop :=
  [(change, true), (reading, false)] <:+: log

/-- What was not seen stays unseen. -/
theorem CallLog.Unseen.mono {log log' : CallLog} {change reading : StoreCall}
    (unseen : log.Unseen change reading) (grown : log <+: log') : log'.Unseen change reading :=
  List.IsInfix.trans unseen grown.isInfix

/-- What was not made cannot be unseen. -/
theorem CallLog.not_unseen {log : CallLog} {change reading : StoreCall}
    (unmade : (change, true) ∉ log) : ¬ log.Unseen change reading := fun unseen =>
  unmade (List.IsInfix.mem (List.mem_cons_self ..) unseen)

variable {errors : Error → Prop} {c : Catalog} {h : SimHost} {log : CallLog}

namespace SimHost

/-- The terms of a host on which any call may fail without effect, with an error of a kind. -/
def failsWith (errors : Error → Prop) : StoreTerms SimHost := fun call h r h' =>
  orFails SimHost.answer call h r h' ∧ ∀ e, r = .error e → errors e

/-- The pattern in which the call at one place fails. -/
def failingAt (place : Nat) : Nat → Option Error := fun n =>
  if n = place then some (.store "call" (toString place) "injected") else none

/-- A call fails and leaves the host as it is, or succeeds as it does on a host on which none
fails; either way it is in the log. -/
theorem asks_failsWith {call : StoreCall} {Q : call.Reply → SimHost × CallLog → Prop}
    (fails : ∀ e, errors e → Q (.error e) (h, log ++ [(call, false)]))
    (succeeds : ∀ v, (SimHost.answer call h).1 = .ok v →
      Q (.ok v) ((SimHost.answer call h).2, log ++ [(call, true)])) :
    Asks (logging (failsWith errors)) free call (h, log) Q := by
  refine asks_logging.2 fun r h' answered => ?_
  obtain ⟨answered, kind⟩ := answered
  have asked : Asks (orFails SimHost.answer) free call h fun r h' =>
      (∀ e, r = .error e → errors e) → Q r (h', log ++ [(call, r.isOk)]) :=
    asks_unreliable (fun e => ⟨trivial, fun kind => fails e (kind e rfl)⟩)
      fun v replied => ⟨trivial, fun _ => succeeds v replied⟩
  exact ⟨trivial, (asked r h' answered).2 kind⟩

/-- What a program does on a host on which calls fail, it does with a log beside the host. -/
theorem ensures_failsWith {α : Type} {K : StoreTerms SimHost} {p : CatalogProg α}
    {Q : α → Catalog → SimHost → Prop} (contract : Ensures (orFails SimHost.answer) K p c h Q)
    (log : CallLog) :
    Ensures (logging (failsWith errors)) free p c (h, log) fun a c' s' =>
      Q a c' s'.1 ∧ log <+: s'.2 :=
  Ensures.logging (contract.weaken (fun _ _ _ _ answered => answered.1) fun _ _ _ _ _ kept => kept)
    log

end SimHost

/-! ## Modules -/

namespace Loading

/-- A module was loaded that was not loaded before. -/
def Loads (m : ModuleRequest) (before after : SimHost) : Prop :=
  before.view (.module (KernelModule.normalize m.name)) = none ∧
    SimHost.answer (.loadModule m) before = (.ok (), after)

/-- What a request for a module tells: a change was noted where the module was loaded, and only an
error may keep silent about a module that was loaded unseen. -/
def Told (m : ModuleRequest) (before : SimHost) (new : CallLog) (after : SimHost) :
    Except Error (Option Change) → Prop
  | .ok none => after = before
  | .ok (some ch) => ch = .moduleLoaded m.name ∧ Loads m before after
  | .error _ =>
    (after = before ∧ ¬ new.Unseen (.loadModule m) (.moduleState m.name)) ∨
      (Loads m before after ∧ new.Unseen (.loadModule m) (.moduleState m.name))

/-- Only the reading after the loading can fail without being told of. -/
theorem told_require (m : ModuleRequest) (lists : h.ListsLoaded) :
    HostProg.Ensures (logging (SimHost.failsWith errors)) free (require m).run (h, log)
      fun result s' => ∃ new, s'.2 = log ++ new ∧ Told m h new s'.1 result := by
  rw [ensures_require]
  apply SimHost.asks_failsWith
  · intro e _
    exact ⟨[(.moduleState m.name, false)], rfl, .inl ⟨rfl, CallLog.not_unseen (by simp)⟩⟩
  · rintro state ⟨⟩
    show if (h.readModule m.name).loaded then _ else _
    by_cases loaded : (h.readModule m.name).loaded
    · rw [if_pos loaded]
      cases conflict? m (h.readModule m.name) with
      | none => exact ⟨_, rfl, rfl⟩
      | some conflict => exact ⟨_, rfl, .inl ⟨rfl, CallLog.not_unseen (by simp)⟩⟩
    · rw [if_neg loaded, ensures_loadAbsent]
      apply SimHost.asks_failsWith
      · intro e _
        refine ⟨[(.moduleState m.name, true), (.loadModule m, false)], List.append_assoc .., ?_⟩
        exact .inl ⟨rfl, CallLog.not_unseen (by simp)⟩
      · intro _ (replied : (SimHost.answer (.loadModule m) h).1 = .ok ())
        have loads : Loads m h (SimHost.answer (.loadModule m) h).2 :=
          ⟨lists.view_eq_none loaded, Prod.ext replied rfl⟩
        have assoc (seen : Bool) : log ++ [(.moduleState m.name, true)] ++
            [(.loadModule m, true)] ++ [(.moduleState m.name, seen)] =
              log ++ [(.moduleState m.name, true), (.loadModule m, true),
                (.moduleState m.name, seen)] := by simp
        apply SimHost.asks_failsWith
        · intro e _
          refine ⟨_, assoc false, .inr ⟨loads, ?_⟩⟩
          exact (List.suffix_cons ..).isInfix
        · rintro after ⟨⟩
          show if ((SimHost.answer (.loadModule m) h).2.readModule m.name).loaded then _ else _
          rw [if_pos (SimHost.loaded_of_loadModule replied)]
          exact ⟨_, assoc true, rfl, loads⟩

end Loading

/-! ## Setups -/

namespace Setup

/-- One of the modules was loaded unseen under a name. -/
def LoadedUnseen (ms : List ModuleRequest) (log : CallLog) (name : String) : Prop :=
  ∃ m ∈ ms, KernelModule.normalize m.name = name ∧
    log.Unseen (.loadModule m) (.moduleState m.name)

/-- One of the changes is about the module of a name. -/
def Notes (name : String) (noted : List Change) : Prop := ∃ ch ∈ noted, ch.resource = .module name

theorem not_notes_nil (name : String) : ¬ Notes name [] := by
  rintro ⟨ch, hch, -⟩
  cases hch

/-- What is told of a module: where it is not as it was, it was not loaded then, and the loading
was noted or not seen. -/
structure ModuleTold (ms : List ModuleRequest) (name : String) (before after : Option ModuleState)
    (noted : List Change) (log : CallLog) : Prop where
  fresh : Notes name noted → before = none
  differs : after ≠ before → before = none ∧ (Notes name noted ∨ LoadedUnseen ms log name)

variable {ms : List ModuleRequest} {name : String}

/-- What is as it was need not be told of. -/
theorem ModuleTold.same {state : Option ModuleState} {noted : List Change}
    (silent : ¬ Notes name noted) : ModuleTold ms name state state noted log where
  fresh notes := absurd notes silent
  differs ne := absurd rfl ne

/-- What one part tells and what the next one tells is what both together tell. -/
theorem ModuleTold.trans {first second third : Option ModuleState} {older newer : List Change}
    {log' : CallLog} (told : ModuleTold ms name first second older log)
    (next : ModuleTold ms name second third newer log') (grown : log <+: log') :
    ModuleTold ms name first third (older ++ newer) log' := by
  -- the first part leaves the module as it was, or loads it
  have origin : second = none → first = none := by
    intro gone
    by_contra was
    exact was (told.differs fun same => was (same ▸ gone)).1
  constructor
  · rintro ⟨ch, hch, about⟩
    rcases List.mem_append.1 hch with old | new
    · exact told.fresh ⟨ch, old, about⟩
    · exact origin (next.fresh ⟨ch, new, about⟩)
  · intro ne
    by_cases same : third = second
    · obtain ⟨absent, ⟨ch, hch, about⟩ | ⟨m, hm, named, unseen⟩⟩ := told.differs (same ▸ ne)
      · exact ⟨absent, .inl ⟨ch, List.mem_append_left _ hch, about⟩⟩
      · exact ⟨absent, .inr ⟨m, hm, named, unseen.mono grown⟩⟩
    · obtain ⟨absent, ⟨ch, hch, about⟩ | unseen⟩ := next.differs same
      · exact ⟨origin absent, .inl ⟨ch, List.mem_append_right _ hch, about⟩⟩
      · exact ⟨origin absent, .inr unseen⟩

/-- A request for a module tells of it what its step is to tell. -/
theorem moduleTold_of_told {m : ModuleRequest} (hm : m ∈ ms) {new : CallLog} {h' : SimHost}
    {result : Except Error (Option Change)} (told : Loading.Told m h new h' result)
    (name : String) :
    ModuleTold ms name (h.view (.module name)) (h'.view (.module name))
      (Binding.Failure.noted (result.mapError .plain)).toList (log ++ new) := by
  have loaded {noted : List Change} (loads : Loading.Loads m h h')
      (about : Notes name noted → KernelModule.normalize m.name = name)
      (seen : KernelModule.normalize m.name = name →
        Notes name noted ∨ LoadedUnseen ms (log ++ new) name) :
      ModuleTold ms name (h.view (.module name)) (h'.view (.module name)) noted (log ++ new) := by
    constructor
    · intro notes
      exact about notes ▸ loads.1
    · intro ne
      by_cases same : KernelModule.normalize m.name = name
      · exact ⟨same ▸ loads.1, seen same⟩
      · have after : (SimHost.answer (.loadModule m) h).2 = h' := congrArg Prod.snd loads.2
        have other : StoreCall.resource? (.loadModule m) ≠ some (.module name) := by
          simpa [StoreCall.resource?] using same
        rw [← after] at ne
        exact absurd (SimHost.view_answer_of_ne other h) ne
  rcases result with e | _ | ch
  · rcases told with ⟨rfl, _⟩ | ⟨loads, unseen⟩
    · exact .same (not_notes_nil name)
    · refine loaded loads (fun notes => absurd notes (not_notes_nil name)) fun named => ?_
      refine .inr ⟨m, hm, named, ?_⟩
      exact List.IsInfix.trans unseen (List.suffix_append ..).isInfix
  · cases told
    exact .same (not_notes_nil name)
  · obtain ⟨rfl, loads⟩ := told
    refine loaded loads ?_ fun named => .inl ⟨_, List.mem_singleton_self _, congrArg _ named⟩
    rintro ⟨ch, hch, about⟩
    cases List.mem_singleton.1 hch
    exact Resource.module.inj about

/-- A step tells of every module. -/
theorem moduleTold_apply (step : Step) (requested : ∀ m, step = .loadModule m → m ∈ ms)
    (lists : h.ListsLoaded) (name : String) :
    Ensures (logging (SimHost.failsWith errors)) free (apply step).run c (h, log)
      fun result _ s' => s'.1.ListsLoaded ∧ log <+: s'.2 ∧
        ModuleTold ms name (h.view (.module name)) (s'.1.view (.module name))
          (Binding.Failure.noted result).toList s'.2 := by
  -- a step that loads no module leaves all modules alone
  have apart (other : ∀ name, step.resource ≠ .module name) :
      Ensures (logging (SimHost.failsWith errors)) free (apply step).run c (h, log)
        fun result _ s' => s'.1.ListsLoaded ∧ log <+: s'.2 ∧
          ModuleTold ms name (h.view (.module name)) (s'.1.view (.module name))
            (Binding.Failure.noted result).toList s'.2 := by
    have framed := SimHost.ensures_frame (c := c) (h := h)
      (within_apply (F := fun r => r = step.resource) step rfl)
    apply (SimHost.ensures_failsWith framed log).mono
    rintro result c' ⟨h', log'⟩ ⟨⟨notes, elsewhere, -, -⟩, grown⟩
    have same (name : String) : h'.view (.module name) = h.view (.module name) :=
      elsewhere _ (other name).symm
    refine ⟨fun name state found => lists name state ((same name).symm.trans found), grown, ?_⟩
    rw [same name]
    refine .same ?_
    rintro ⟨ch, hch, about⟩
    exact other name ((notes ch (Option.mem_toList.1 hch)).symm.trans about)
  cases step with
  | loadModule m =>
    rw [ensures_apply_loadModule]
    apply (Loading.told_require m lists).mono
    rintro result ⟨h', log'⟩ ⟨new, rfl, told⟩
    refine ⟨?_, List.prefix_append .., moduleTold_of_told (requested m rfl) told name⟩
    have loaded (loads : Loading.Loads m h h') : h'.ListsLoaded := by
      have after : (SimHost.answer (.loadModule m) h).2 = h' := congrArg Prod.snd loads.2
      exact after ▸ lists.answer _
    rcases result with e | _ | ch
    · rcases told with ⟨rfl, _⟩ | ⟨loads, _⟩
      · exact lists
      · exact loaded loads
    · cases told
      exact lists
    · exact loaded told.2
  | mount r => exact apart nofun
  | reserve r => exact apart nofun
  | rebind a driver => exact apart nofun
  | restore a driver => exact apart nofun

/-- Only the loading of a module is a change about it. -/
theorem eq_moduleLoaded_of_resource {ch : Change} (about : ch.resource = .module name) :
    ∃ other, ch = .moduleLoaded other ∧ KernelModule.normalize other = name := by
  cases ch with
  | moduleLoaded other => exact ⟨other, rfl, Resource.module.inj about⟩
  | mounted path pageKb => cases about
  | reserved pool previous => cases about
  | rebound a prior recorded => cases about
  | stranded a prior recorded => cases about

/-- Undoing the loading of a module unloads it, or fails. -/
theorem unloaded_or_failed {ch : Change} (about : ch.resource = .module name) :
    Ensures (orFails SimHost.answer) free (undo ch).run c h fun result _ h' =>
      (∃ e, result = .error e ∧ h' = h) ∨ h'.view (.module name) = none := by
  obtain ⟨other, rfl, named⟩ := eq_moduleLoaded_of_resource about
  rw [ensures_undo_moduleLoaded]
  apply SimHost.asks_unreliable
  · exact fun e => ⟨trivial, .inl ⟨e, rfl, rfl⟩⟩
  · refine fun _ replied => ⟨trivial, .inr ?_⟩
    rw [SimHost.view_unloadModule replied, named, Function.update_self]

/-- Undoing a change loads no module. -/
theorem maintains_absent (name : String) (ch : Change) :
    Maintains (orFails SimHost.answer) free (fun _ h => h.view (.module name) = none)
      (undo ch).run := by
  intro c h absent
  by_cases about : ch.resource = .module name
  · apply (unloaded_or_failed about).mono
    rintro result c' h' (⟨e, -, rfl⟩ | gone)
    · exact absent
    · exact gone
  · have framed := SimHost.ensures_frame (c := c) (h := h)
      (within_undo (F := (· ≠ .module name)) ch about)
    apply framed.forget.mono
    rintro _ c' h' ⟨-, elsewhere, -, -⟩
    exact (elsewhere _ fun ne => ne rfl).trans absent

/-- A module whose loading was noted is not loaded after a rollback, or the change is listed among
those that could not be undone. -/
theorem listed_or_absent (name : String) (changes : List Change) (notes : Notes name changes) :
    Ensures (orFails SimHost.answer) free (undoAll changes) c h fun report _ h' =>
      (∃ failure ∈ report.failures, failure.1.resource = .module name) ∨
        h'.view (.module name) = none := by
  induction changes generalizing c h with
  | nil =>
    obtain ⟨ch, hch, _⟩ := notes
    cases hch
  | cons ch older ih =>
    rw [ensures_undoAll_cons]
    obtain ⟨noted, hnoted, about⟩ := notes
    rcases List.mem_cons.1 hnoted with rfl | hnoted
    · apply (unloaded_or_failed about).mono
      rintro result c' h' (⟨e, rfl, -⟩ | gone)
      · apply (HostProg.ensures_true _).mono
        exact fun x h'' _ => .inl ⟨_, List.mem_cons_self .., about⟩
      · apply (maintains_undoAll (maintains_absent name) older gone).mono
        exact fun report c'' h'' absent => .inr absent
    · apply (HostProg.ensures_true _).mono
      rintro ⟨result, c'⟩ h' -
      apply (ih ⟨noted, hnoted, about⟩).mono
      rintro report c'' h'' (⟨failure, hf, listed⟩ | absent)
      · cases result with
        | ok _ => exact .inl ⟨failure, hf, listed⟩
        | error e => exact .inl ⟨failure, List.mem_cons_of_mem _ hf, listed⟩
      · exact .inr absent

/-- What a setup that was rolled back says of a module: where it is not as it was, it was not
loaded then, and that it could not be unloaded is reported, or it was loaded unseen. -/
def ModuleReported (ms : List ModuleRequest) (name : String) (before after : Option ModuleState)
    (outcome : Outcome) (log : CallLog) : Prop :=
  ∀ e report, outcome = .rolledBack e report → after ≠ before → before = none ∧
    ((∃ failure ∈ report.failures, failure.1.resource = .module name) ∨ LoadedUnseen ms log name)

/-- A setup that is given up reports what it was told. -/
theorem moduleReported_abort {origin : Option ModuleState} {e : Error} {journal : Journal}
    (told : ModuleTold ms name origin (h.view (.module name)) journal log) :
    Ensures (logging (SimHost.failsWith errors)) free (abort e journal) c (h, log)
      fun outcome _ s' =>
        ModuleReported ms name origin (s'.1.view (.module name)) outcome s'.2 := by
  have framed := SimHost.ensures_frame (c := c) (h := h)
    (within_abort (F := fun r => ∃ ch ∈ journal, ch.resource = r) e journal
      fun ch hch => ⟨ch, hch, rfl⟩)
  have undone : Ensures (orFails SimHost.answer) free (abort e journal) c h fun outcome _ h' =>
      Notes name journal → ∀ e report, outcome = .rolledBack e report →
        (∃ failure ∈ report.failures, failure.1.resource = .module name) ∨
          h'.view (.module name) = none := by
    rw [ensures_abort]
    by_cases notes : Notes name journal
    · obtain ⟨ch, hch, about⟩ := notes
      apply (listed_or_absent name journal.newestFirst ⟨ch, List.mem_reverse.2 hch, about⟩).mono
      rintro report c' h' ends - e' report' ⟨⟩
      exact ends
    · exact (HostProg.ensures_true _).mono fun _ _ _ notes' => absurd notes' notes
  apply (SimHost.ensures_failsWith (undone.also framed.forget) log).mono
  rintro outcome c' ⟨h', log'⟩ ⟨⟨ends, -, elsewhere, -, -⟩, grown⟩ e' report rolledBack ne
  by_cases notes : Notes name journal
  · have absent : origin = none := told.fresh notes
    refine ⟨absent, .inl ?_⟩
    exact (ends notes e' report rolledBack).resolve_right fun gone => ne (gone.trans absent.symm)
  · have same : h'.view (.module name) = h.view (.module name) := elsewhere _ notes
    obtain ⟨absent, noted | ⟨m, hm, named, unseen⟩⟩ := told.differs (same ▸ ne)
    · exact absurd noted notes
    · exact ⟨absent, .inr ⟨m, hm, named, unseen.mono grown⟩⟩

/-- Whichever step fails, what was told of a module is reported. -/
theorem moduleReported_applyFrom {origin : Option ModuleState} (timeout : Option Nat)
    (total index : Nat) (steps : List PlannedStep) (p : Progress)
    (requested : ∀ planned ∈ steps, ∀ m, planned.step = .loadModule m → m ∈ ms)
    (lists : h.ListsLoaded)
    (told : ModuleTold ms name origin (h.view (.module name)) p.journal log) :
    Ensures (logging (SimHost.failsWith errors)) free (applyFrom timeout total index steps p) c
      (h, log) fun outcome _ s' =>
        ModuleReported ms name origin (s'.1.view (.module name)) outcome s'.2 := by
  induction steps generalizing index p c h log with
  | nil =>
    rw [ensures_applyFrom_nil]
    exact nofun
  | cons planned rest ih =>
    obtain ⟨first, later⟩ := List.forall_mem_cons.1 requested
    rw [ensures_applyFrom_cons]
    apply ensures_isLate timeout index
    intro late
    by_cases hl : late
    · rw [if_pos hl]
      exact moduleReported_abort told
    · rw [if_neg hl]
      by_cases hp : planned.satisfied
      · rw [if_pos hp]
        exact ih _ _ later lists told
      · rw [if_neg hp]
        apply (moduleTold_apply planned.step first lists name).mono
        rintro result c' ⟨h', log'⟩ ⟨lists', grown, made⟩
        have next := told.trans made grown
        rcases result with f | _ | ch
        · exact moduleReported_abort next
        · have silent : p.journal ++ (none : Option Change).toList = p.journal :=
            List.append_nil _
          exact ih _ _ later lists' (silent ▸ next)
        · exact ih _ _ later lists' next

/-- A setup reports what becomes of a module that it is about. -/
theorem moduleReported_run (policy : Policy) (g : SetupGoal) (lists : h.ListsLoaded)
    (name : String) :
    Ensures (logging (SimHost.failsWith errors)) free (run policy g) c (h, log)
      fun outcome _ s' => ModuleReported g.modules name (h.view (.module name))
        (s'.1.view (.module name)) outcome s'.2 := by
  rw [ensures_run]
  have planned := SimHost.ensures_frame (c := c) (h := h)
    (within_plan_setup (F := fun _ => False) policy.filter g)
  apply (SimHost.ensures_failsWith planned log).mono
  rintro result c' ⟨h', log'⟩ ⟨⟨isFor, same, -, -⟩, -⟩
  cases result with
  | error e => exact nofun
  | ok steps =>
    obtain ⟨v, rfl⟩ := isFor
    have modules (name : String) : h'.view (.module name) = h.view (.module name) :=
      same _ not_false
    apply moduleReported_applyFrom
    · intro planned hplanned m loads
      have isStep := Plan.step_mem_steps hplanned
      rw [loads] at isStep
      simpa [SetupGoal.mem_steps] using isStep
    · exact fun name state found => lists name state ((modules name).symm.trans found)
    · rw [modules name]
      exact .same (not_notes_nil name)

/-- On a host on which calls fail, a request for a module that fails leaves the host as it was,
unless the module was loaded and the reading after it failed; then it stays loaded.  And where a
module is not as it was after a rollback, it was not loaded before, and the report lists that it
could not be unloaded, or it was loaded in this way. -/
theorem modules_reported_or_unseen (fails : Nat → Option Error) (clock : Nat → Nat)
    (w : World (SimHost × Nat)) (made : w.host.1.Made) :
    let store := StoreHandler.unreliable SimHost.answer fails
    (∀ m e, (Prog.run (World.handler store clock) (Loading.require m).run w).1 = .error e →
      let after := (Prog.run (World.handler store clock) (Loading.require m).run w).2.host.1
      let log := World.log (storeEvents
        (Prog.calls (World.handler store clock) (Loading.require m).run w))
      (¬ log.Unseen (.loadModule m) (.moduleState m.name) → after = w.host.1) ∧
      (log.Unseen (.loadModule m) (.moduleState m.name) →
        w.host.1.modules.get? (KernelModule.normalize m.name) = none ∧
          SimHost.answer (.loadModule m) w.host.1 = (.ok (), after))) ∧
    ∀ policy g c e report, (runOn store clock (run policy g) c w).1.1 = .rolledBack e report →
      let after := (runOn store clock (run policy g) c w).2.host.1
      let log := World.log (storeCalls store clock (run policy g) c w)
      ∀ name, after.modules.get? name ≠ w.host.1.modules.get? name →
        w.host.1.modules.get? name = none ∧
          ((∃ failure ∈ report.failures, failure.1.resource = .module name) ∨
            ∃ m ∈ g.modules, KernelModule.normalize m.name = name ∧
              log.Unseen (.loadModule m) (.moduleState m.name)) := by
  intro store
  have answers (call : StoreCall) (t : SimHost × Nat) :
      SimHost.failsWith (fun _ => True) call t.1 (store call t).1 (store call t).2.1 :=
    ⟨StoreHandler.answer_unreliable .., fun _ _ => trivial⟩
  constructor
  · intro m e failed after log
    obtain ⟨new, isLog, told⟩ := (Loading.told_require m made.listsLoaded).of_logging [] clock w
      Prod.fst answers
    rw [failed] at told
    obtain rfl : new = log := isLog.symm
    rcases told with ⟨same, seen⟩ | ⟨loads, unseen⟩
    · exact ⟨fun _ => same, fun unseen => absurd unseen seen⟩
    · exact ⟨fun seen => absurd unseen seen, fun _ => loads⟩
  · intro policy g c e report rolledBack after log name
    exact (moduleReported_run policy g made.listsLoaded name).of_logging [] clock w Prod.fst
      answers e report rolledBack

/-- When the loading fails, the host is as it was; and when the reading after the loading fails in
a setup, every module that is not as it was after the rollback was loaded in this way. -/
theorem twoNics_modules_reported_or_unseen :
    let goal := Topology.handOver [Topology.dataNic]
    let start : World (SimHost × Nat) := { host := (Topology.twoNics, 0) }
    let loading := StoreHandler.unreliable SimHost.answer (SimHost.failingAt 1)
    let reading := StoreHandler.unreliable SimHost.answer (SimHost.failingAt 10)
    let setup := runOn reading (fun _ => 0) (run {} goal) (Policy.freshCatalog {}) start
    (Prog.run (World.handler loading fun _ => 0) (Loading.require ⟨"vfio", ∅⟩).run start).2.host.1 =
      Topology.twoNics ∧
    ∀ name, setup.2.host.1.modules.get? name ≠ Topology.twoNics.modules.get? name →
      ∃ m ∈ goal.modules, KernelModule.normalize m.name = name ∧
        CallLog.Unseen (World.log
          (storeCalls reading (fun _ => 0) (run {} goal) (Policy.freshCatalog {}) start))
          (.loadModule m) (.moduleState m.name) := by
  intro goal start loading reading setup
  constructor
  · obtain ⟨e, failed⟩ : ∃ e, (Prog.run (World.handler loading fun _ => 0)
        (Loading.require ⟨"vfio", ∅⟩).run start).1 = .error e := ⟨_, rfl⟩
    exact ((modules_reported_or_unseen (SimHost.failingAt 1) (fun _ => 0) start made_twoNics).1 _ e
      failed).1 (CallLog.not_unseen (by decide +kernel))
  · obtain ⟨e, report, rolledBack, nothing⟩ : ∃ e report,
        setup.1.1 = .rolledBack e report ∧ report.failures = [] := ⟨_, _, rfl, rfl⟩
    intro name differs
    have told := (modules_reported_or_unseen (SimHost.failingAt 10) (fun _ => 0) start
      made_twoNics).2 {} goal (Policy.freshCatalog {}) e report rolledBack name differs
    rw [nothing] at told
    exact told.2.resolve_left (by simp)

/-- A request fails and has loaded the module; in a setup, the module is still loaded after a
rollback that reports nothing. -/
theorem twoNics_left_with_vfio :
    let start : World (SimHost × Nat) := { host := (Topology.twoNics, 0) }
    let request := Prog.run
      (World.handler (.unreliable SimHost.answer (SimHost.failingAt 2)) fun _ => 0)
      (Loading.require ⟨"vfio", ∅⟩).run start
    let setup := runOn (.unreliable SimHost.answer (SimHost.failingAt 10)) (fun _ => 0)
      (run {} (Topology.handOver [Topology.dataNic])) (Policy.freshCatalog {}) start
    Topology.twoNics.isLoaded "vfio" = false ∧
      request.1.isOk = false ∧ request.2.host.1.isLoaded "vfio" = true ∧
      (∃ e, setup.1.1 = .rolledBack e ⟨0, []⟩) ∧ setup.2.host.1.isLoaded "vfio" = true :=
  ⟨rfl, rfl, rfl, ⟨_, rfl⟩, rfl⟩

end Setup

end Provision
