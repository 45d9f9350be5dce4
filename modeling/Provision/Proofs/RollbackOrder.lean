import Provision.Proofs.DependencyOrder
import Provision.Simulation.Topology

/-!
# The order of a rollback

A rollback undoes the journal from its end.  Since the journal goes through the
layers from the bottom, the rollback goes through them from the top, and since a
module is noted exactly when it was loaded, the modules are unloaded in the reverse
of the order in which they were loaded.

Main results:

- `SimHost.runs_loads`: what a host has loaded is what the trace of a run shows.
- `Setup.runs_undoAll`: how undoing goes.
- `Setup.runs_reversed_applyFrom`: how a setup that fails is undone.
- `Setup.dependency_order`: the order of dependencies holds at every call of a setup.
-/

namespace Provision

open StoreTerms CatalogProg World

variable {σ : Type}

/-! ## Modules that were loaded -/

/-- The module that was loaded, if a change is that. -/
def Change.loaded? : Change → Option String
  | .moduleLoaded name => some name
  | .mounted _ _ | .reserved _ _ | .rebound _ _ _ | .stranded _ _ _ => none

/-- Only a change in the bottom layer is that. -/
theorem Change.loaded?_eq_none {ch : Change} (above : ch.layer ≠ 0) : ch.loaded? = none := by
  cases ch <;> first | rfl | exact absurd rfl above

/-- The module that a call is to load, if it is. -/
def StoreCall.loads? : StoreCall → Option String
  | .loadModule m => some m.name
  | _ => none

/-- The module that a call is to unload, if it is. -/
def StoreCall.unloads? : StoreCall → Option String
  | .unloadModule name => some name
  | _ => none

/-- Only calls in the bottom layer load and unload. -/
theorem StoreCall.loads?_eq_none {call : StoreCall} (above : call.layer ≠ 0) :
    call.loads? = none ∧ call.unloads? = none := by
  cases call <;> first | exact ⟨rfl, rfl⟩ | exact absurd rfl above

/-- A call that is about no module is to load none. -/
theorem StoreCall.loads?_eq_none_of_resource? {call : StoreCall}
    (other : ∀ name, call.resource? ≠ some (.module name)) : call.loads? = none := by
  cases call with
  | loadModule m => exact absurd rfl (other _)
  | _ => rfl

/-- The module that a call has loaded, if it has. -/
def StoreEvent.loaded? (e : StoreEvent σ) : Option String :=
  if e.reply.isOk then e.call.loads? else none

/-- The module that a call was to unload, if it was. -/
def StoreEvent.unloaded? (e : StoreEvent σ) : Option String := e.call.unloads?

namespace SimHost

/-- The modules that were loaded on a host, the oldest first. -/
def loads (h : SimHost) : List String := h.changes.filterMap StoreCall.loads?

theorem loads_note (c : StoreCall) (h : SimHost) :
    (h.note c).loads = h.loads ++ c.loads?.toList := by
  unfold loads note
  rw [List.filterMap_append]
  cases loads : c.loads? <;> simp [loads]

/-- A call that is not to load a module loads none. -/
theorem loads_answer_of_none {call : StoreCall} (other : call.loads? = none) (h : SimHost) :
    (answer call h).2.loads = h.loads := by
  have noted {c : StoreCall} {h' : SimHost} (other : c.loads? = none) :
      (h'.note c).loads = h'.loads := by
    rw [loads_note, other, Option.toList_none, List.append_nil]
  cases call with
  | mount path pageKb =>
    simp only [answer, mount]
    split
    · rfl
    · exact noted rfl
  | unmount path =>
    simp only [answer, unmount]
    split
    · exact noted rfl
    · rfl
  | setPageCount p count =>
    simp only [answer, setPages]
    split
    · exact noted rfl
    · rfl
  | loadModule m => cases other
  | unloadModule name =>
    simp only [answer, unloadModule]
    split
    · exact noted rfl
    · rfl
  | unbind a driver =>
    simp only [answer, unbind]
    repeat' split
    all_goals first | rfl | exact noted rfl
  | bind a driver =>
    simp only [answer, bind]
    repeat' split
    all_goals first | rfl | exact noted rfl
  | _ => rfl

/-- A module that was loaded is the last of them. -/
theorem loads_loadModule {m : ModuleRequest} {h : SimHost}
    (ok : (answer (.loadModule m) h).1 = .ok ()) :
    (answer (.loadModule m) h).2.loads = h.loads ++ [m.name] := by
  simp only [answer, loadModule] at ok ⊢
  split at ok
  · cases ok
  · next allowed =>
    rw [if_neg allowed]
    exact loads_note (.loadModule m) _

/-- A call adds to the loaded modules what it has loaded. -/
theorem loads_answer (call : StoreCall) (h : SimHost) :
    (answer call h).2.loads =
      h.loads ++ (StoreEvent.mk h call (answer call h).1 (answer call h).2).loaded?.toList := by
  cases replied : (answer call h).1 with
  | error e =>
    rw [answer_of_error replied]
    exact (List.append_nil _).symm
  | ok value =>
    cases loads : call.loads? with
    | none =>
      rw [loads_answer_of_none loads]
      simp [StoreEvent.loaded?, loads]
    | some name =>
      cases call with
      | loadModule m =>
        rw [loads_loadModule replied]
        rfl
      | _ => cases loads

/-- What a host has loaded is what the calls on it show. -/
theorem loads_run {α : Type} (clock : Nat → Nat) (p : HostProg α) (w : World SimHost) :
    (Prog.run (World.handler answer clock) p w).2.host.loads =
      w.host.loads ++
        (storeEvents (Prog.calls (World.handler answer clock) p w)).filterMap
          StoreEvent.loaded? := by
  induction p generalizing w with
  | done a => exact (List.append_nil _).symm
  | call call next ih =>
    cases call with
    | store call =>
      let event : StoreEvent SimHost :=
        ⟨w.host, call, (answer call w.host).1, (answer call w.host).2⟩
      have first : (answer call w.host).2.loads = w.host.loads ++ event.loaded?.toList :=
        loads_answer call w.host
      have later := ih (answer call w.host).1 { w with host := (answer call w.host).2 }
      refine later.trans ?_
      show (answer call w.host).2.loads ++ _ = w.host.loads ++ (event :: storeEvents _).filterMap _
      rw [first, List.append_assoc, List.filterMap_cons]
      cases event.loaded? <;> rfl
    | elapsed => exact ih _ _
    | enter state => exact ih _ _

/-- What a host has loaded is what the trace of a run shows. -/
theorem runs_loads {α : Type} (clock : Nat → Nat) (p : CatalogProg α) (c : Catalog)
    (w : World SimHost) :
    Runs answer clock p c w fun trace _ _ w' =>
      w'.host.loads = w.host.loads ++ (storeEvents trace).filterMap StoreEvent.loaded? :=
  loads_run clock (p.run c) w

end SimHost

/-! ## Undoing -/

section

variable {A : StoreTerms σ} {c : Catalog} {s : σ} {n : Nat}

/-- The terms of making calls in one layer only. -/
def StoreTerms.inLayer (n : Nat) : StoreTerms σ := fun call _ _ _ => call.layer = n

theorem StoreTerms.asks_inLayer {call : StoreCall} {Q : call.Reply → σ → Prop}
    (layer : call.layer = n) (next : ∀ r s', Q r s') : Asks A (inLayer n) call s Q :=
  fun r s' _ => ⟨layer, next r s'⟩

/-- Bringing a device back stays in the layer of devices. -/
theorem Binding.inLayer_bringBack (a : PciAddress) (prior : Option String) :
    Ensures A (inLayer 3) (bringBack a prior).run c s fun _ _ _ => True := by
  have reattached (current : Option String) (c : Catalog) (s : σ) :
      Ensures A (inLayer 3) (reattach a prior current).run c s fun _ _ _ => True := by
    rw [ensures_reattach]
    cases prior with
    | none => trivial
    | some driver =>
      apply asks_inLayer rfl
      intro reply s'
      cases reply <;> trivial
  rw [ensures_bringBack]
  apply asks_inLayer rfl
  intro reply s'
  cases reply with
  | error e => trivial
  | ok current =>
    show if current = prior then _ else _
    by_cases back : current = prior
    · rw [if_pos back]
      trivial
    · rw [if_neg back]
      cases current with
      | none => exact reattached none c s'
      | some driver =>
        refine (ensures_detach a driver false).2 (asks_inLayer rfl fun reply s'' => ?_)
        cases reply with
        | error e => trivial
        | ok _ => exact reattached (some driver) _ s''

/-- Undoing a change stays in its layer. -/
theorem Setup.inLayer_undo (ch : Change) :
    Ensures A (inLayer ch.layer) (undo ch).run c s fun _ _ _ => True := by
  have device (a : PciAddress) (prior : Option String) (recorded : Bool) :
      Ensures A (inLayer 3) (undo (.rebound a prior recorded)).run c s fun _ _ _ => True := by
    rw [ensures_undo_rebound]
    apply (Binding.inLayer_bringBack a prior).mono
    intro result c' s' _
    cases result with
    | error e => trivial
    | ok _ =>
      cases recorded with
      | false => trivial
      | true =>
        show Ensures A (inLayer 3) (Catalog.forgetHome a).run c' s' fun _ _ _ => True
        refine (Catalog.ensures_forgetHome a).2 (asks_inLayer rfl fun reply s'' => ?_)
        cases reply <;> trivial
  cases ch with
  | moduleLoaded name => exact asks_inLayer rfl fun _ _ => trivial
  | mounted path pageKb => exact asks_inLayer rfl fun _ _ => trivial
  | reserved pool previous => exact asks_inLayer rfl fun _ _ => trivial
  | rebound a prior recorded => exact device a prior recorded
  | stranded a prior recorded => exact device a prior recorded

end

namespace Setup

/-- Calls undo changes, from the first to the last: they go through the layers from the top, and
unload the modules that were loaded, in this order. -/
structure Undoes (changes : List Change) (events : List (StoreEvent σ)) : Prop where
  about : ∀ e ∈ events, ∃ ch ∈ changes, e.call.layer = ch.layer
  descending : (events.map (·.call.layer)).Pairwise (· ≥ ·)
  unloads : events.filterMap StoreEvent.unloaded? = changes.filterMap Change.loaded?
  loads : events.filterMap StoreEvent.loaded? = []

theorem undoes_nil : Undoes [] ([] : List (StoreEvent σ)) :=
  ⟨fun _ he => absurd he List.not_mem_nil, .nil, rfl, rfl⟩

theorem Undoes.append {newer older : List Change} {first second : List (StoreEvent σ)}
    (undoes : Undoes newer first) (undoes' : Undoes older second)
    (below : ∀ ch ∈ newer, ∀ ch' ∈ older, ch'.layer ≤ ch.layer) :
    Undoes (newer ++ older) (first ++ second) where
  about e he := by
    rcases List.mem_append.1 he with he | he
    · obtain ⟨ch, hch, layer⟩ := undoes.about e he
      exact ⟨ch, List.mem_append_left _ hch, layer⟩
    · obtain ⟨ch, hch, layer⟩ := undoes'.about e he
      exact ⟨ch, List.mem_append_right _ hch, layer⟩
  descending := by
    rw [List.map_append]
    refine List.pairwise_append.2 ⟨undoes.descending, undoes'.descending, ?_⟩
    intro layer hlayer layer' hlayer'
    obtain ⟨e, he, rfl⟩ := List.mem_map.1 hlayer
    obtain ⟨e', he', rfl⟩ := List.mem_map.1 hlayer'
    obtain ⟨ch, hch, same⟩ := undoes.about e he
    obtain ⟨ch', hch', same'⟩ := undoes'.about e' he'
    rw [same, same']
    exact below ch hch ch' hch'
  unloads := by rw [List.filterMap_append, List.filterMap_append, undoes.unloads, undoes'.unloads]
  loads := by rw [List.filterMap_append, undoes.loads, undoes'.loads, List.append_nil]

/-- Calls that all stay in the layer of a change undo it when they unload its module. -/
theorem undoes_singleton {ch : Change} {events : List (StoreEvent σ)}
    (stays : ∀ e ∈ events, e.call.layer = ch.layer)
    (unloads : events.filterMap StoreEvent.unloaded? = ch.loaded?.toList)
    (loads : events.filterMap StoreEvent.loaded? = []) : Undoes [ch] events where
  about e he := ⟨ch, List.mem_singleton_self _, stays e he⟩
  descending := by
    refine List.pairwise_map.2 (List.pairwise_of_forall_mem_list fun e he e' he' => ?_)
    exact Nat.le_of_eq ((stays e' he').trans (stays e he).symm)
  unloads := by
    rw [unloads]
    cases found : ch.loaded? <;> simp [found]
  loads := loads

variable {store : StoreHandler σ} {clock : Nat → Nat} {c : Catalog} {w : World σ}

/-- A change is undone in its layer, and the loading of a module by unloading it. -/
theorem runs_undo (ch : Change) :
    Runs store clock (undo ch).run c w fun trace _ _ _ => Undoes [ch] (storeEvents trace) := by
  have stays := (inLayer_undo (A := .of store) (c := c) (s := w.host) ch).runs clock
  -- Above the layer of modules, no call loads or unloads one.
  have above (ne : ch.layer ≠ 0) : Runs store clock (undo ch).run c w fun trace _ _ _ =>
      Undoes [ch] (storeEvents trace) := by
    apply stays.mono
    intro trace result c' w' stays
    have none (e) (he : e ∈ storeEvents trace) :=
      StoreCall.loads?_eq_none (fun bottom => ne ((stays.1 e he).symm.trans bottom))
    refine undoes_singleton stays.1 ?_ ?_
    · rw [Change.loaded?_eq_none ne]
      exact List.filterMap_eq_nil_iff.2 fun e he => (none e he).2
    · refine List.filterMap_eq_nil_iff.2 fun e he => ?_
      rw [StoreEvent.loaded?, (none e he).1, ite_self]
  cases ch with
  | moduleLoaded name =>
    refine undoes_singleton stays.1 rfl (List.filterMap_eq_nil_iff.2 fun e he => ?_)
    rw [List.mem_singleton.1 he]
    exact ite_self none
  | mounted path pageKb => exact above (Nat.succ_ne_zero 0)
  | reserved pool previous => exact above (Nat.succ_ne_zero 1)
  | rebound a prior recorded => exact above (Nat.succ_ne_zero 2)
  | stranded a prior recorded => exact above (Nat.succ_ne_zero 2)

/-- Changes are undone one after the other. -/
theorem runs_undoAll (changes : List Change)
    (descending : changes.Pairwise fun newer older => older.layer ≤ newer.layer) :
    Runs store clock (undoAll changes) c w fun trace _ _ _ =>
      Undoes changes (storeEvents trace) := by
  induction changes generalizing c w with
  | nil => exact undoes_nil
  | cons ch older ih =>
    obtain ⟨below, descending⟩ := List.pairwise_cons.1 descending
    rw [undoAll, runs_bind]
    apply (runs_undo ch).mono
    intro first result c₁ w₁ undone
    rw [runs_bind]
    apply (ih descending).mono
    intro second report c₂ w₂ later
    have both : Undoes (ch :: older) (storeEvents (first ++ second)) := by
      rw [storeEvents_append]
      exact undone.append later fun ch' hch' => List.mem_singleton.1 hch' ▸ below
    cases result with
    | ok _ => rwa [← List.append_nil second] at both
    | error e => rwa [← List.append_nil second] at both

/-! ## Modules that are noted -/

variable {h : SimHost}

open Binding (Failure)

/-- A module is noted when it was loaded, and only then. -/
theorem loads_require (m : ModuleRequest) :
    HostProg.Ensures (of SimHost.answer) free (Loading.require m).run h fun result h' =>
      h'.loads = h.loads ++
        (Failure.noted (result.mapError .plain)).toList.filterMap Change.loaded? := by
  rw [Loading.ensures_require, SimHost.asks_of_read rfl]
  show if (h.readModule m.name).loaded then _ else _
  by_cases loaded : (h.readModule m.name).loaded
  · rw [if_pos loaded]
    cases Loading.conflict? m (h.readModule m.name) <;> exact (List.append_nil _).symm
  · rw [if_neg loaded, Loading.ensures_loadAbsent, asks_of]
    refine ⟨trivial, ?_⟩
    cases replied : (SimHost.answer (.loadModule m) h).1 with
    | error e =>
      rw [SimHost.answer_of_error replied]
      exact (List.append_nil _).symm
    | ok _ =>
      rw [SimHost.asks_of_read rfl]
      show if ((SimHost.answer (.loadModule m) h).2.readModule m.name).loaded then _ else _
      rw [if_pos (SimHost.loaded_of_loadModule replied)]
      exact SimHost.loads_loadModule replied

/-- A step notes the modules that it loads, and no others. -/
theorem loads_apply (step : Step) :
    Ensures (of SimHost.answer) free (apply step).run c h fun result _ h' =>
      h'.loads = h.loads ++ (Failure.noted result).toList.filterMap Change.loaded? := by
  have above (ne : step.layer ≠ 0) :
      Ensures (of SimHost.answer) free (apply step).run c h fun result _ h' =>
        h'.loads = h.loads ++ (Failure.noted result).toList.filterMap Change.loaded? := by
    have kept := (within_apply (A := of SimHost.answer) (F := (· = step.resource)) (c := c) (s := h)
      step rfl).invariant (J := fun h' => h'.loads = h.loads)
      (fun call s reply s' answered inside same => ?_) rfl
    · apply kept.forget.mono
      intro result c' h' ending
      obtain ⟨about, same⟩ := ending
      have none : (Failure.noted result).toList.filterMap Change.loaded? = [] := by
        refine List.filterMap_eq_nil_iff.2 fun ch hch => Change.loaded?_eq_none ?_
        have layer : ch.layer = step.layer :=
          congrArg Resource.layer (about ch (Option.mem_toList.1 hch))
        exact fun bottom => ne (layer.symm.trans bottom)
      rw [same, none, List.append_nil]
    · have other : call.loads? = none := StoreCall.loads?_eq_none_of_resource? fun name about =>
        ne (congrArg Resource.layer (inside _ about)).symm
      have after : (SimHost.answer call s).2 = s' := congrArg Prod.snd answered
      rw [← after, SimHost.loads_answer_of_none other, same]
  cases step with
  | loadModule m =>
    rw [ensures_apply_loadModule]
    exact loads_require m
  | mount r => exact above (Nat.succ_ne_zero 0)
  | reserve r => exact above (Nat.succ_ne_zero 1)
  | rebind a driver => exact above (Nat.succ_ne_zero 2)
  | restore a driver => exact above (Nat.succ_ne_zero 2)

/-! ## Setups that are undone -/

/-- A rollback, if there was one, went through the layers from the top, and unloaded in reverse
order the modules of the changes that were noted before and those that the trace shows. -/
structure Reversed (noted : Journal) (trace : List (World.Event σ)) (outcome : Outcome) : Prop where
  descending : ((during .rollingBack trace).map (·.call.layer)).Pairwise (· ≥ ·)
  unloads : ∀ e report, outcome = .rolledBack e report →
    (during .rollingBack trace).filterMap StoreEvent.unloaded? =
      (noted.filterMap Change.loaded? ++
        (storeEvents trace).filterMap StoreEvent.loaded?).reverse

/-- What comes before a rollback adds to what it unloads. -/
theorem Reversed.after {noted noted' : Journal} (first : List (World.Event σ))
    {second : List (World.Event σ)} {outcome : Outcome} (reversed : Reversed noted' second outcome)
    (quiet : during .rollingBack first = [])
    (added : noted'.filterMap Change.loaded? =
      noted.filterMap Change.loaded? ++ (storeEvents first).filterMap StoreEvent.loaded?) :
    Reversed noted (first ++ second) outcome where
  descending := by
    rw [during_append, quiet]
    exact reversed.descending
  unloads e report ends := by
    rw [during_append, quiet, List.nil_append, reversed.unloads e report ends, added,
      storeEvents_append, List.filterMap_append, List.append_assoc]

theorem runs_reversed_abort (e : Error) (noted : Journal)
    (ascending : noted.Pairwise fun older newer => older.layer ≤ newer.layer) :
    Runs store clock (abort e noted) c w fun trace outcome _ _ => Reversed noted trace outcome := by
  rw [runs_abort]
  have reverse := List.pairwise_reverse.2 ascending
  apply ((runs_undoAll noted.newestFirst reverse).and (silent_undoAll _).runs).mono
  intro undoing report c' w' ending
  obtain ⟨undoes, stays, _⟩ := ending
  have calls : during .rollingBack undoing = storeEvents undoing := during_of_stays stays
  have rolling : during .rollingBack
      (w.announcing .rollingBack :: (undoing ++ [w'.announcing .failed])) =
        storeEvents undoing := by
    simp [calls]
  refine ⟨rolling ▸ undoes.descending, fun e report _ => ?_⟩
  rw [rolling, undoes.unloads]
  simp [undoes.loads, Journal.newestFirst]

/-- The invariant of the steps in order: whatever becomes of them, a rollback goes through the
layers from the top and unloads the modules in reverse order. -/
theorem runs_reversed_applyFrom (timeout : Option Nat) (total index : Nat)
    (steps : List PlannedStep) (p : Progress) (w : World SimHost)
    (ascending : Ascending p.journal steps) :
    Runs SimHost.answer clock (applyFrom timeout total index steps p) c w
      fun trace outcome _ _ => Reversed p.journal trace outcome := by
  induction steps generalizing index p c w with
  | nil =>
    rw [runs_applyFrom_nil]
    exact ⟨by simp, nofun⟩
  | cons planned rest ih =>
    rw [runs_applyFrom_cons]
    apply (runs_isLate timeout index).mono
    intro reading late c₁ w₁ read
    obtain ⟨none, state, host⟩ := read
    -- What comes after the clock was looked at is all that counts.
    have shift {trace : List (World.Event SimHost)} {outcome : Outcome}
        (reversed : Reversed p.journal trace outcome) :
        Reversed p.journal (w.announcing (.applying (index + 1) total) :: (reading ++ trace))
          outcome := by
      have quiet :
          during .rollingBack (w.announcing (.applying (index + 1) total) :: reading) = [] := by
        rw [during_announcing]
        exact List.sublist_nil.1 (none ▸ during_sublist _ _)
      refine reversed.after (_ :: reading) quiet ?_
      rw [storeEvents_announcing, none, List.filterMap_nil, List.append_nil]
    by_cases hl : late
    · rw [if_pos hl]
      exact (runs_reversed_abort _ _ ascending.journal).mono fun _ _ _ _ => shift
    · rw [if_neg hl]
      by_cases hp : planned.satisfied
      · rw [if_pos hp]
        exact (ih (index + 1) p.skip w₁ ascending.skip).mono fun _ _ _ _ => shift
      · rw [if_neg hp]
        have contract := (within_apply (A := of SimHost.answer) (c := c₁) (s := w₁.host)
          planned.step rfl).also (loads_apply planned.step)
        apply ((contract.runs clock).and
          ((silent_apply planned.step).runs.and (SimHost.runs_loads clock _ c₁ w₁))).mono
        intro making result c₂ w₂ made
        obtain ⟨⟨_, about, noted⟩, ⟨stays, _⟩, shown⟩ := made
        have quiet : during .rollingBack making = [] :=
          during_of_stays_ne (fun same => RunState.noConfusion same) fun e he =>
            (stays e he).trans state
        have loaded : (Failure.noted result).toList.filterMap Change.loaded? =
            (storeEvents making).filterMap StoreEvent.loaded? :=
          List.append_cancel_left (noted.symm.trans shown)
        have goOn {journal : Journal} {trace : List (World.Event SimHost)} {outcome : Outcome}
            (grown : journal = p.journal ++ (Failure.noted result).toList)
            (reversed : Reversed journal trace outcome) :
            Reversed p.journal
              (w.announcing (.applying (index + 1) total) :: (reading ++ (making ++ trace)))
              outcome := by
          refine shift (reversed.after making quiet ?_)
          rw [grown, List.filterMap_append, loaded]
        rcases result with f | _ | ch
        · exact (runs_reversed_abort _ _ (ascending.note about).journal).mono
            fun _ _ _ _ => goOn rfl
        · exact (ih (index + 1) p.skip w₂ ascending.skip).mono
            fun _ _ _ _ => goOn (List.append_nil _).symm
        · exact (ih (index + 1) (p.note ch) w₂ (ascending.note about)).mono
            fun _ _ _ _ => goOn rfl

/-- The invariant of a whole setup: planning changes no module. -/
theorem runs_reversed_run (policy : Policy) (g : SetupGoal) (c : Catalog) (w : World SimHost) :
    Runs SimHost.answer clock (run policy g) c w
      fun trace outcome _ _ => Reversed [] trace outcome := by
  rw [runs_run]
  have contract := within_plan_setup (A := of SimHost.answer) (F := fun _ => False) (c := c)
    (s := w.host) policy.filter g
  apply ((contract.runs (w := (w.announce .idle).announce .probing) clock).and
    (silent_plan_setup policy.filter g).runs).mono
  intro planning result c' w' made
  obtain ⟨⟨reads, planned⟩, stays, _⟩ := made
  have quiet : during .rollingBack planning = [] :=
    during_of_stays_ne (fun same => RunState.noConfusion same) stays
  have none : (storeEvents planning).filterMap StoreEvent.loaded? = [] := by
    refine List.filterMap_eq_nil_iff.2 fun e he => ?_
    rw [StoreEvent.loaded?, StoreCall.loads?_eq_none_of_resource? fun _ about => reads e he _ about,
      ite_self]
  have goOn {trace : List (World.Event SimHost)} {outcome : Outcome}
      (reversed : Reversed [] trace outcome) :
      Reversed [] (w.announcing .idle :: (w.announce .idle).announcing .probing ::
        (planning ++ trace)) outcome := by
    refine reversed.after (_ :: _ :: planning) ?_ ?_
    · rw [during_announcing, during_announcing, quiet]
    · rw [storeEvents_announcing, storeEvents_announcing, none]
      rfl
  cases result with
  | error e => exact goOn ⟨by simp, nofun⟩
  | ok steps =>
    obtain ⟨v, rfl⟩ := planned
    exact (runs_reversed_applyFrom _ _ 0 _ {} w' (ascending_setupSteps v g)).mono
      fun _ _ _ _ => goOn

/-- The order of dependencies holds at every moment of a setup.  Whatever fails on the host, and
wherever the deadline passes: whenever a pool is resized, also while it is set back, hugetlbfs is
mounted; whenever a device is bound, also while it is brought back, every module is loaded as
requested and the pool holds an acceptable number of pages.  While the setup rolls back, every call
for a device comes before every call for a pool, these before the unmounting, and that before every
unloading; and the modules are unloaded in the reverse of the order in which they were loaded. -/
theorem dependency_order (h : SimHost) (clock : Nat → Nat) (policy : Policy) (g : SetupGoal)
    (c : Catalog) :
    let calls := storeCalls SimHost.answer clock (run policy g) c { host := h }
    let rolling := during .rollingBack (trace SimHost.answer clock (run policy g) c { host := h })
    (∀ e ∈ calls, ∀ pool count, e.call = .setPageCount pool count →
      e.before.isMounted g.pages.mountPath = true) ∧
    (∀ e ∈ calls, ∀ a driver, e.call = .bind a driver →
      (∀ m ∈ g.modules, m.satisfiedBy (e.before.readModule m.name) = true) ∧
        ∃ n, e.before.readPages g.pages.pool = .ok n ∧ g.pages.isMetBy n = true) ∧
    (rolling.map (·.call.layer)).Pairwise (· ≥ ·) ∧
    ∀ e report, (runOn SimHost.answer clock (run policy g) c { host := h }).1.1 =
        .rolledBack e report →
      rolling.filterMap StoreEvent.unloaded? = (calls.filterMap StoreEvent.loaded?).reverse := by
  intro calls rolling
  have stand : ∀ e ∈ calls, ∀ r, e.call.resource? = some r → g.StandsBelow r.layer e.before :=
    ((orderly_run (c := c) (h := h) policy g).of_run SimHost.answer clock { host := h } id
      fun _ _ => rfl).1
  have reversed : Reversed [] (trace SimHost.answer clock (run policy g) c { host := h }) _ :=
    runs_reversed_run policy g c { host := h }
  refine ⟨fun e he pool count about => ?_, fun e he a driver about => ?_, reversed.descending,
    reversed.unloads⟩
  · have below : g.StandsBelow 2 e.before := stand e he (.pool pool) (about ▸ rfl)
    exact below (.mount g.pages) (SetupGoal.mem_steps.2 (.inr (.inl rfl))) (Nat.lt_succ_self 1)
  · have below : g.StandsBelow 3 e.before := stand e he (.device a) (about ▸ rfl)
    refine ⟨fun m hm => ?_, ?_⟩
    · exact below (.loadModule m) (SetupGoal.mem_steps.2 (.inl ⟨m, hm, rfl⟩)) (Nat.succ_pos 2)
    · have reserved : (Step.reserve g.pages).Holds e.before :=
        below _ (SetupGoal.mem_steps.2 (.inr (.inr (.inl rfl)))) (Nat.lt_succ_self 2)
      exact reserved.2

/-- When a controller cannot be bound to `vfio-pci`, what the setup did for it is undone from the
device down to the modules, and the modules are unloaded in reverse. -/
theorem twoNics_undone_in_order :
    let goal := Topology.handOver [Topology.dataNic]
    let host := Topology.twoNics.failBind Topology.dataNic "vfio-pci"
    let rolling := during .rollingBack
      (trace SimHost.answer (fun _ => 0) (run {} goal) (Policy.freshCatalog {}) { host := host })
    rolling.map (·.call.layer) = [3, 3, 3, 2, 1, 0, 0] ∧
      (rolling.map (·.call.layer)).Pairwise (· ≥ ·) ∧
      rolling.filterMap StoreEvent.unloaded? = ["vfio-pci", "vfio"] := by
  intro goal host rolling
  have order := dependency_order host (fun _ => 0) {} goal (Policy.freshCatalog {})
  obtain ⟨e, report, rolledBack⟩ := (Outcome.exitCode_eq_two_iff
    (runOn SimHost.answer (fun _ => 0) (run {} goal) (Policy.freshCatalog {})
      { host := host }).1.1).1 (by decide +kernel)
  refine ⟨by decide +kernel, order.2.2.1, (order.2.2.2 e report rolledBack).trans ?_⟩
  decide +kernel

end Setup

end Provision
