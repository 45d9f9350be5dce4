import Provision.Proofs.Contract.World

/-!
# What runs do, in order

A contract speaks of one call at a time and of the end of a run.  What it cannot
speak of is the order of the calls, and the state that a run has announced when it
makes them.  Both are seen in the trace of a run: all that it does to its
surroundings, in order.

Most programs of the engine announce nothing.  Such a program is silent: it makes
all its calls in the state in which it was started.

Main results:

- `CatalogProg.runs_bind`, `CatalogProg.runs_then`: a sequence is taken apart at its
  first part.
- `CatalogProg.Ensures.runs`: a contract tells of the calls in a trace.
- `CatalogProg.Silent.runs`: a silent program stays in the state that was announced.
-/

namespace Provision

variable {α β ε σ : Type}

namespace World

/-- Something that a run does to its surroundings. -/
abbrev Event (σ : Type) := Prog.Event hostSignature (World σ)

/-- Surroundings in which a state was announced. -/
def announce (w : World σ) (state : RunState) : World σ := { w with state := state }

/-- The announcement of a state. -/
def announcing (w : World σ) (state : RunState) : Event σ :=
  ⟨w, .enter state, (), w.announce state⟩

/-- The calls on resources in a trace. -/
def storeEvents (trace : List (Event σ)) : List (StoreEvent σ) := trace.filterMap storeEvent?

/-- The calls on resources that a trace makes in a state. -/
def during (state : RunState) (trace : List (Event σ)) : List (StoreEvent σ) :=
  storeEvents (trace.filter (·.before.state = state))

@[simp]
theorem storeEvents_nil : storeEvents ([] : List (Event σ)) = [] := rfl

/-- The calls of two traces, one after the other. -/
@[simp]
theorem storeEvents_append (first second : List (Event σ)) :
    storeEvents (first ++ second) = storeEvents first ++ storeEvents second :=
  List.filterMap_append ..

/-- An announcement is no call on a resource. -/
@[simp]
theorem storeEvents_announcing (w : World σ) (state : RunState) (rest : List (Event σ)) :
    storeEvents (w.announcing state :: rest) = storeEvents rest := rfl

@[simp]
theorem during_nil (state : RunState) : during state ([] : List (Event σ)) = [] := rfl

/-- The calls that two traces make in a state, one after the other. -/
@[simp]
theorem during_append (state : RunState) (first second : List (Event σ)) :
    during state (first ++ second) = during state first ++ during state second := by
  rw [during, List.filter_append, storeEvents_append, during, during]

/-- An announcement is no call, whatever the state. -/
@[simp]
theorem during_announcing (w : World σ) (state entered : RunState) (rest : List (Event σ)) :
    during state (w.announcing entered :: rest) = during state rest := by
  unfold during
  rw [List.filter_cons]
  split <;> rfl

/-- The calls that are made in a state are among all calls. -/
theorem during_sublist (state : RunState) (trace : List (Event σ)) :
    (during state trace).Sublist (storeEvents trace) :=
  List.Sublist.filterMap _ List.filter_sublist

/-- Where a trace stays in a state, all its calls are made in it. -/
theorem during_of_stays {state : RunState} {trace : List (Event σ)}
    (stays : ∀ e ∈ trace, e.before.state = state) : during state trace = storeEvents trace := by
  rw [during, List.filter_eq_self.2 fun e he => decide_eq_true (stays e he)]

/-- Where a trace stays in another state, none of its calls is made in the state. -/
theorem during_of_stays_ne {state other : RunState} {trace : List (Event σ)} (ne : other ≠ state)
    (stays : ∀ e ∈ trace, e.before.state = other) : during state trace = [] := by
  rw [during, List.filter_eq_nil_iff.2 fun e he => ?_]
  · rfl
  · rw [stays e he, decide_eq_true_eq]
    exact ne

end World

/-! ## Silent programs -/

/-- A program announces nothing. -/
def HostProg.Silent : HostProg α → Prop
  | .done _ => True
  | .call call next => (∀ state, call ≠ .enter state) ∧ ∀ r, Silent (next r)

/-- A program announces nothing, whatever the catalog holds. -/
def CatalogProg.Silent (p : CatalogProg α) : Prop := ∀ c, HostProg.Silent (p.run c)

namespace HostProg

/-- A program that only ends is silent. -/
theorem silent_pure (a : α) : Silent (pure a : HostProg α) := trivial

/-- A sequence is silent when its parts are. -/
theorem silent_bind {p : HostProg α} {f : α → HostProg β} (first : Silent p)
    (second : ∀ a, Silent (f a)) : Silent (p >>= f) := by
  induction p with
  | done a => exact second a
  | call call next ih => exact ⟨first.1, fun r => ih r (first.2 r)⟩

/-- Changing the value of a program announces nothing. -/
theorem silent_map {p : HostProg α} (f : α → β) (silent : Silent p) : Silent (f <$> p) := by
  rw [map_eq_pure_bind]
  exact silent_bind silent fun a => silent_pure (f a)

/-- A call on a resource announces nothing. -/
theorem silent_ask (call : StoreCall) : Silent (HostM.ask call).run := ⟨nofun, fun _ => trivial⟩

/-- Programs on a host that may fail are silent when their parts are. -/
theorem silent_then {p : HostM α} {f : α → HostM β} (first : Silent p.run)
    (second : ∀ a, Silent (f a).run) : Silent (p >>= f).run := by
  rw [ExceptT.run_bind]
  refine silent_bind first fun r => ?_
  cases r with
  | ok a => exact second a
  | error e => trivial

/-- Changing the value of a program that may fail announces nothing. -/
theorem silent_mapOk {p : HostM α} (f : α → β) (silent : Silent p.run) : Silent (f <$> p).run := by
  rw [map_eq_pure_bind]
  exact silent_then silent fun a => silent_pure _

/-- Changing the error of a program announces nothing. -/
theorem silent_adapt {p : HostM α} (f : Error → Error) (silent : Silent p.run) :
    Silent (ExceptT.adapt f p : HostM α).run := by
  rw [ExceptT.run_adapt]
  exact silent_map _ silent

end HostProg

namespace CatalogProg

theorem silent_pure (a : α) : Silent (pure a) := fun _ => trivial

/-- A sequence is silent when its parts are, whatever they note in the catalog. -/
theorem silent_bind {p : CatalogProg α} {f : α → CatalogProg β} (first : Silent p)
    (second : ∀ a, Silent (f a)) : Silent (p >>= f) := by
  intro c
  rw [StateT.run_bind]
  exact HostProg.silent_bind (first c) fun x => second x.1 x.2

/-- What is silent without a catalog is silent with one. -/
theorem silent_lift {p : HostProg α} (silent : HostProg.Silent p) :
    Silent (liftM p : CatalogProg α) := fun c =>
  HostProg.silent_bind silent fun a => HostProg.silent_pure (a, c)

/-- Programs that may fail are silent when their parts are. -/
theorem silent_then {p : ExceptT ε CatalogProg α} {f : α → ExceptT ε CatalogProg β}
    (first : Silent p.run) (second : ∀ a, Silent (f a).run) : Silent (p >>= f).run := by
  rw [ExceptT.run_bind]
  refine silent_bind first fun r => ?_
  cases r with
  | ok a => exact second a
  | error e => exact silent_pure _

/-- Changing the value of a program announces nothing. -/
theorem silent_map {p : ExceptT ε CatalogProg α} (f : α → β) (silent : Silent p.run) :
    Silent (f <$> p).run := by
  rw [map_eq_pure_bind]
  exact silent_then silent fun a => silent_pure _

/-- Looking at the catalog announces nothing. -/
theorem silent_look : Silent (get : ExceptT ε CatalogProg Catalog).run := fun _ => trivial

/-- A note in the catalog announces nothing. -/
theorem silent_note (f : Catalog → Catalog) :
    Silent (modify f : ExceptT ε CatalogProg Unit).run := fun _ => trivial

/-- A failure that is looked into announces nothing when neither part does. -/
theorem silent_recover {p : ExceptT ε CatalogProg α} {f : ε → ExceptT ε CatalogProg α}
    (first : Silent p.run) (second : ∀ e, Silent (f e).run) : Silent (tryCatch p f).run := by
  rw [ExceptT.run_tryCatch]
  refine silent_bind first fun r => ?_
  cases r with
  | ok a => exact silent_pure _
  | error e => exact second e

/-- A silent program that cannot fail is silent inside one that may. -/
theorem silent_succeed {p : CatalogProg α} (silent : Silent p) :
    Silent (liftM p : CatalogM α).run := by
  rw [ExceptT.run_liftM, map_eq_pure_bind]
  exact silent_bind silent fun a => silent_pure _

/-- A silent program on the host is silent inside one with a catalog. -/
theorem silent_attempt {p : HostM α} (silent : HostProg.Silent p.run) :
    Silent (liftM p : CatalogM α).run := silent_lift silent

/-- A call on a resource announces nothing, inside a program with a catalog. -/
theorem silent_ask (call : StoreCall) : Silent (liftM (HostM.ask call) : CatalogM call.Value).run :=
  silent_attempt (HostProg.silent_ask call)

/-- A silent program is silent inside one that moves devices. -/
theorem silent_move {p : CatalogM α} (silent : Silent p.run) :
    Silent (liftM p : Binding.MoveM α).run := by
  show Silent ((Except.mapError Binding.Failure.plain) <$> p.run)
  rw [map_eq_pure_bind]
  exact silent_bind silent fun a => silent_pure _

end CatalogProg

/-! ## Traces -/

namespace CatalogProg

variable (store : StoreHandler σ) (clock : Nat → Nat)

/-- All that a run does to its surroundings, in order. -/
def trace (p : CatalogProg α) (c : Catalog) (w : World σ) : List (World.Event σ) :=
  Prog.calls (World.handler store clock) (p.run c) w

/-- What a run does, its value, and what it leaves are as `R` says. -/
def Runs (p : CatalogProg α) (c : Catalog) (w : World σ)
    (R : List (World.Event σ) → α → Catalog → World σ → Prop) : Prop :=
  R (trace store clock p c w) (runOn store clock p c w).1.1 (runOn store clock p c w).1.2
    (runOn store clock p c w).2

variable {store : StoreHandler σ} {clock : Nat → Nat} {c : Catalog} {w : World σ}

/-- A sequence is taken apart at its first part. -/
theorem runs_bind (p : CatalogProg α) (f : α → CatalogProg β)
    {R : List (World.Event σ) → β → Catalog → World σ → Prop} :
    Runs store clock (p >>= f) c w R ↔
      Runs store clock p c w fun first a c' w' =>
        Runs store clock (f a) c' w' fun second => R (first ++ second) := by
  unfold Runs trace runOn
  rw [StateT.run_bind, Prog.run_bind, Prog.calls_bind]

/-- An announcement is all that is in its trace. -/
theorem runs_announce (state : RunState)
    {R : List (World.Event σ) → Unit → Catalog → World σ → Prop} :
    Runs store clock (liftM (HostProg.enter state)) c w R ↔
      R [w.announcing state] () c (w.announce state) := Iff.rfl

/-- Two ways to say the same of a run. -/
theorem runs_congr {p : CatalogProg α}
    {R R' : List (World.Event σ) → α → Catalog → World σ → Prop}
    (h : ∀ trace a c' w', R trace a c' w' ↔ R' trace a c' w') :
    Runs store clock p c w R ↔ Runs store clock p c w R' := h _ _ _ _

/-- What is said of a run may be weakened. -/
theorem Runs.mono {p : CatalogProg α}
    {R R' : List (World.Event σ) → α → Catalog → World σ → Prop} (runs : Runs store clock p c w R)
    (weaker : ∀ trace a c' w', R trace a c' w' → R' trace a c' w') : Runs store clock p c w R' :=
  weaker _ _ _ _ runs

/-- What is said twice of a run may be said at once. -/
theorem Runs.and {p : CatalogProg α}
    {R R' : List (World.Event σ) → α → Catalog → World σ → Prop} (runs : Runs store clock p c w R)
    (runs' : Runs store clock p c w R') :
    Runs store clock p c w fun trace a c' w' => R trace a c' w' ∧ R' trace a c' w' :=
  And.intro runs runs'

/-- A program that may fail is taken apart at its first part, and a failure skips the rest. -/
theorem runs_then (p : ExceptT ε CatalogProg α) (f : α → ExceptT ε CatalogProg β)
    {R : List (World.Event σ) → Except ε β → Catalog → World σ → Prop} :
    Runs store clock (p >>= f).run c w R ↔
      Runs store clock p.run c w fun first r c' w' =>
        match r with
        | .ok a => Runs store clock (f a).run c' w' fun second => R (first ++ second)
        | .error e => R first (.error e) c' w' := by
  rw [ExceptT.run_bind, runs_bind]
  apply runs_congr
  intro first r c' w'
  cases r with
  | ok a => exact Iff.rfl
  | error e =>
    show R (first ++ []) _ _ _ ↔ _
    rw [List.append_nil]
    exact Iff.rfl

/-- Changing the value of a program changes nothing in its trace. -/
theorem runs_map (f : α → β) (p : ExceptT ε CatalogProg α)
    {R : List (World.Event σ) → Except ε β → Catalog → World σ → Prop} :
    Runs store clock (f <$> p).run c w R ↔
      Runs store clock p.run c w fun trace r => R trace (r.map f) := by
  rw [map_eq_pure_bind, runs_then]
  apply runs_congr
  intro trace r c' w'
  cases r with
  | ok a =>
    show R (trace ++ []) _ _ _ ↔ _
    rw [List.append_nil]
    exact Iff.rfl
  | error e => exact Iff.rfl

/-- A program that cannot fail, inside one that may. -/
theorem runs_succeed (p : CatalogProg α)
    {R : List (World.Event σ) → Except ε α → Catalog → World σ → Prop} :
    Runs store clock (liftM p : ExceptT ε CatalogProg α).run c w R ↔
      Runs store clock p c w fun trace a => R trace (.ok a) := by
  rw [ExceptT.run_liftM, map_eq_pure_bind, runs_bind]
  apply runs_congr
  intro trace a c' w'
  show R (trace ++ []) _ _ _ ↔ _
  rw [List.append_nil]
  exact Iff.rfl

/-- A contract on the host's own terms tells of the calls in a trace, and of its end. -/
theorem Ensures.runs {K : StoreTerms σ} {p : CatalogProg α} {Q : α → Catalog → σ → Prop}
    (clock : Nat → Nat) (contract : Ensures (StoreTerms.of store) K p c w.host Q) :
    Runs store clock p c w fun trace a c' w' =>
      (∀ e ∈ World.storeEvents trace, K e.call e.before e.reply e.after) ∧ Q a c' w'.host :=
  contract.of_run store clock w id fun _ _ => rfl

/-- A silent program without a catalog stays in the state that was announced. -/
theorem state_of_silent {p : HostProg α} (silent : HostProg.Silent p) (w : World σ) :
    (∀ e ∈ Prog.calls (World.handler store clock) p w, e.before.state = w.state) ∧
      (Prog.run (World.handler store clock) p w).2.state = w.state := by
  induction p generalizing w with
  | done a => exact ⟨fun e he => absurd he List.not_mem_nil, rfl⟩
  | call call next ih =>
    have same : (World.handler store clock call w).2.state = w.state := by
      cases call with
      | store call => rfl
      | elapsed => rfl
      | enter state => exact absurd rfl (silent.1 state)
    have later := ih (World.handler store clock call w).1 (silent.2 _)
      (World.handler store clock call w).2
    rw [same] at later
    exact ⟨List.forall_mem_cons.2 ⟨rfl, later.1⟩, later.2⟩

/-- A silent program stays in the state that was announced. -/
theorem Silent.runs {p : CatalogProg α} (silent : Silent p) :
    Runs store clock p c w fun trace _ _ w' =>
      (∀ e ∈ trace, e.before.state = w.state) ∧ w'.state = w.state :=
  state_of_silent (silent c) w

end CatalogProg

end Provision
