import Provision.Proofs.Contract.Trace

/-!
# Logs of calls

Which calls a run makes, in which order, and which of them succeed, is not for a
contract on the terms of one host to say.  It can be said on terms that know nothing
of a host and keep a log of the calls instead: what is found of the log holds of every
run, however its calls are answered.  Where the calls and the host are to be spoken of
together, the log is kept beside the host.  The states that a run announces are seen in
its trace.

Main results:

- `StoreTerms.asks_logged`: a call makes the log longer by one.
- `CatalogProg.Ensures.runs_logged`: the log of a run is what its trace shows.
- `HostProg.Ensures.logging`: a contract holds with a log beside the host, which only grows.
- `HostProg.Ensures.of_logging`: the log beside the host is what a run shows.
- `CatalogProg.Silent.runs_quiet`: a silent program announces no state.
-/

namespace Provision

variable {α σ τ : Type}

/-- Calls on resources, in order, and whether each of them succeeded. -/
abbrev CallLog := List (StoreCall × Bool)

/-- The terms that keep a log of the calls, whatever they are answered. -/
def StoreTerms.logged : StoreTerms CallLog := fun call log r log' => log' = log ++ [(call, r.isOk)]

/-- A call makes the log longer by one. -/
theorem StoreTerms.asks_logged {call : StoreCall} {log : CallLog}
    {Q : call.Reply → CallLog → Prop} :
    Asks logged free call log Q ↔ ∀ r, Q r (log ++ [(call, r.isOk)]) := by
  constructor
  · intro h r
    exact (h r _ rfl).2
  · rintro h r log' rfl
    exact ⟨trivial, h r⟩

namespace World

/-- The log of calls on resources. -/
def log (events : List (StoreEvent σ)) : CallLog := events.map fun e => (e.call, e.reply.isOk)

@[simp]
theorem log_nil : log ([] : List (StoreEvent σ)) = [] := rfl

/-- The log of two parts, one after the other. -/
@[simp]
theorem log_append (first second : List (StoreEvent σ)) :
    log (first ++ second) = log first ++ log second := List.map_append

/-- The state that is announced, if one is. -/
def entered? : Event σ → Option RunState
  | ⟨_, .enter state, _, _⟩ => some state
  | ⟨_, .store _, _, _⟩ => none
  | ⟨_, .elapsed, _, _⟩ => none

/-- The states that a trace announces, in order. -/
def entered (trace : List (Event σ)) : List RunState := trace.filterMap entered?

@[simp]
theorem entered_nil : entered ([] : List (Event σ)) = [] := rfl

/-- The states that two traces announce, one after the other. -/
@[simp]
theorem entered_append (first second : List (Event σ)) :
    entered (first ++ second) = entered first ++ entered second := List.filterMap_append ..

/-- An announcement adds its state. -/
@[simp]
theorem entered_announcing (w : World σ) (state : RunState) (rest : List (Event σ)) :
    entered (w.announcing state :: rest) = state :: entered rest := rfl

/-- A trace without calls makes none in any state. -/
theorem during_of_storeEvents_eq_nil {trace : List (Event σ)} (none : storeEvents trace = [])
    (state : RunState) : during state trace = [] :=
  List.eq_nil_of_sublist_nil (none ▸ during_sublist state trace)

end World

open World

namespace CatalogProg

variable {store : StoreHandler σ} {clock : Nat → Nat} {c : Catalog} {w : World σ} {log : CallLog}

/-- A contract on the log tells what is in it after a run, by induction over the calls. -/
theorem log_of_ensures {p : HostProg α} {Q : α → CallLog → Prop}
    (contract : HostProg.Ensures .logged .free p log Q) (w : World σ) :
    Q (Prog.run (World.handler store clock) p w).1
      (log ++ World.log (storeEvents (Prog.calls (World.handler store clock) p w))) := by
  induction p generalizing log w with
  | done a =>
    have done : Q a log := contract
    rwa [← List.append_nil log] at done
  | call call next ih =>
    cases call with
    | store call =>
      let w' : World σ := { w with host := (store call w.host).2 }
      have later := ih _ (contract (store call w.host).1 _ rfl).2 w'
      rw [List.append_assoc] at later
      exact later
    | elapsed =>
      exact ih (clock w.readings) (contract _ _ rfl).2 { w with readings := w.readings + 1 }
    | enter state => exact ih () (contract _ _ rfl).2 { w with state := state }

/-- What is found of the log holds of every run. -/
theorem Ensures.runs_logged {p : CatalogProg α} {Q : α → Catalog → CallLog → Prop}
    (contract : Ensures .logged .free p c log Q) :
    Runs store clock p c w fun trace a c' _ => Q a c' (log ++ World.log (storeEvents trace)) :=
  log_of_ensures contract w

end CatalogProg

/-! ## Logs beside a host -/

/-- The terms that keep a log of the calls beside a host. -/
def StoreTerms.logging (A : StoreTerms σ) : StoreTerms (σ × CallLog) := fun call s r s' =>
  A call s.1 r s'.1 ∧ s'.2 = s.2 ++ [(call, r.isOk)]

/-- A call is answered as it is without the log, and makes the log longer by one. -/
theorem StoreTerms.asks_logging {A : StoreTerms σ} {call : StoreCall} {s : σ} {log : CallLog}
    {Q : call.Reply → σ × CallLog → Prop} :
    Asks (logging A) free call (s, log) Q ↔
      Asks A free call s fun r s' => Q r (s', log ++ [(call, r.isOk)]) := by
  constructor
  · intro h r s' answered
    exact h r (s', _) ⟨answered, rfl⟩
  · rintro h r ⟨s', log'⟩ ⟨answered, rfl⟩
    exact h r s' answered

namespace HostProg.Ensures

variable {A K : StoreTerms σ} {p : HostProg α} {s : σ}

/-- What a contract says holds also with a log beside the host, and the log only grows. -/
theorem logging {Q : α → σ → Prop} (contract : Ensures A K p s Q) (log : CallLog) :
    Ensures (StoreTerms.logging A) .free p (s, log) fun a s' => Q a s'.1 ∧ log <+: s'.2 := by
  induction p generalizing s log with
  | done a => exact ⟨contract, List.prefix_rfl⟩
  | call call next ih =>
    rintro r ⟨s', log'⟩ answered
    cases call with
    | store call =>
      obtain ⟨answered, rfl⟩ := answered
      refine ⟨trivial, ?_⟩
      apply (ih r (contract r s' answered).2 _).mono
      exact fun a s'' ends => ⟨ends.1, (List.prefix_append ..).trans ends.2⟩
    | elapsed =>
      cases answered
      exact ⟨rfl, ih r (contract r s rfl).2 log⟩
    | enter state =>
      cases answered
      exact ⟨rfl, ih r (contract r s rfl).2 log⟩

/-- What a contract with a log beside the host says of a run on a host that answers on its
terms: the log is that of the calls that the run makes. -/
theorem of_logging {store : StoreHandler τ} {Q : α → σ × CallLog → Prop} (log : CallLog)
    (clock : Nat → Nat) (w : World τ) (view : τ → σ)
    (contract : Ensures (StoreTerms.logging A) .free p (view w.host, log) Q)
    (answers : ∀ call t, A call (view t) (store call t).1 (view (store call t).2)) :
    Q (Prog.run (World.handler store clock) p w).1
      (view (Prog.run (World.handler store clock) p w).2.host,
        log ++ World.log (storeEvents (Prog.calls (World.handler store clock) p w))) := by
  induction p generalizing log w with
  | done a =>
    have done : Q a (view w.host, log) := contract
    rwa [← List.append_nil log] at done
  | call call next ih =>
    cases call with
    | store call =>
      let w' : World τ := { w with host := (store call w.host).2 }
      have later := ih _ _ w' (contract (store call w.host).1 (view (store call w.host).2, _)
        ⟨answers call w.host, rfl⟩).2
      rw [List.append_assoc] at later
      exact later
    | elapsed =>
      exact ih _ _ { w with readings := w.readings + 1 } (contract (clock w.readings) _ rfl).2
    | enter state => exact ih _ _ { w with state := state } (contract () _ rfl).2

end HostProg.Ensures

namespace CatalogProg

variable {store : StoreHandler σ} {clock : Nat → Nat} {c : Catalog} {w : World σ}

/-- What a contract says holds also with a log beside the host, and the log only grows. -/
theorem Ensures.logging {A K : StoreTerms σ} {p : CatalogProg α} {s : σ}
    {Q : α → Catalog → σ → Prop}
    (contract : Ensures A K p c s Q) (log : CallLog) :
    Ensures (StoreTerms.logging A) .free p c (s, log) fun a c' s' => Q a c' s'.1 ∧ log <+: s'.2 :=
  HostProg.Ensures.logging contract log

/-- A silent program without a catalog announces no state. -/
theorem entered_of_silent {p : HostProg α} (silent : HostProg.Silent p) (w : World σ) :
    entered (Prog.calls (World.handler store clock) p w) = [] := by
  induction p generalizing w with
  | done a => rfl
  | call call next ih =>
    cases call with
    | store call => exact ih _ (silent.2 _) _
    | elapsed => exact ih (clock w.readings) (silent.2 _) _
    | enter state => exact absurd rfl (silent.1 state)

/-- A silent program announces no state, and makes its calls in the one that was announced. -/
theorem Silent.runs_quiet {p : CatalogProg α} (silent : Silent p) :
    Runs store clock p c w fun trace _ _ w' =>
      entered trace = [] ∧ during w.state trace = storeEvents trace ∧
        (∀ state, state ≠ w.state → during state trace = []) ∧ w'.state = w.state := by
  have quiet : Runs store clock p c w fun trace _ _ _ => entered trace = [] :=
    entered_of_silent (silent c) w
  apply (quiet.and silent.runs).mono
  intro trace a c' w' both
  obtain ⟨none, stays, state⟩ := both
  exact ⟨none, during_of_stays stays, fun other ne => during_of_stays_ne ne.symm stays, state⟩

end CatalogProg

end Provision
