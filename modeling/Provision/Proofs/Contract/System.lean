import Provision.Cli.Invoke
import Provision.Proofs.Contract.Log

/-!
# Systems

A system carries out whole invocations: an operating system answers the calls on files
and the command lines of which the calls on a host are made, and something keeps the
run lock and the clock.  Nothing is assumed of either.  What a program does on a host
of the system is a part of what the invocation does.

Main results:

- `System.runs_bind`: an invocation is taken apart at its first part.
- `System.runs_onHost`: a program on a host, as a part of an invocation.
- `CliEvent.announced_map_onHost`: the states that such a program announces.
-/

namespace Provision

variable {α σ : Type}

instance decidableEqExcept {ε : Type} [DecidableEq ε] [DecidableEq α] : DecidableEq (Except ε α)
  | .ok a, .ok b => decidable_of_iff (a = b) ⟨congrArg _, Except.ok.inj⟩
  | .error e, .error e' => decidable_of_iff (e = e') ⟨congrArg _, Except.error.inj⟩
  | .ok _, .error _ => .isFalse nofun
  | .error _, .ok _ => .isFalse nofun

/-- How the host whose files are at a place answers calls, on an operating system. -/
def Sysfs.answer (place : Sysfs) (os : Handler osSignature σ) : StoreHandler σ := fun c s =>
  Prog.run os (place.serve c) s

/-- The surroundings of invocations. -/
structure System (σ : Type) where
  os : Handler osSignature σ
  /-- How a request for the run lock is answered. -/
  lock : HostPath → σ → Except Error Unit × σ
  /-- The run lock is given back. -/
  unlock : σ → σ
  /-- The readings of the clock. -/
  clock : Nat → Nat

/-- An event of an invocation. -/
abbrev CliEvent (σ : Type) := Prog.Event cliSignature (World σ)

namespace CliEvent

/-- The event of an invocation that an event on a host is. -/
def onHost (place : Sysfs) (e : World.Event σ) : CliEvent σ :=
  ⟨e.before, .host place e.call, e.reply, e.after⟩

/-- The state that is announced, if one is. -/
def announced? : CliEvent σ → Option RunState
  | ⟨_, .host _ (.enter state), _, _⟩ => some state
  | _ => none

/-- Whether the run lock was asked for and found held. -/
def FoundHeld : CliEvent σ → Prop
  | ⟨_, .lock _, reply, _⟩ => ∃ path, reply = .error (.concurrentRun path)
  | _ => False

/-- Whether the run lock was found held at some event. -/
def AnyFoundHeld (trace : List (CliEvent σ)) : Prop := ∃ e ∈ trace, FoundHeld e

@[simp]
theorem anyFoundHeld_append (first second : List (CliEvent σ)) :
    AnyFoundHeld (first ++ second) ↔ AnyFoundHeld first ∨ AnyFoundHeld second := by
  simp only [AnyFoundHeld, List.mem_append, or_and_right, exists_or]

@[simp]
theorem anyFoundHeld_singleton (e : CliEvent σ) : AnyFoundHeld [e] ↔ FoundHeld e := by
  simp only [AnyFoundHeld, List.mem_singleton, exists_eq_left]

/-- The states that are announced, in order. -/
def announced (trace : List (CliEvent σ)) : List RunState := trace.filterMap announced?

@[simp]
theorem announced_append (first second : List (CliEvent σ)) :
    announced (first ++ second) = announced first ++ announced second := List.filterMap_append ..

/-- Nothing that is done on a host asks for the run lock. -/
theorem not_anyFoundHeld_onHost (place : Sysfs) (trace : List (World.Event σ)) :
    ¬ AnyFoundHeld (trace.map (onHost place)) := by
  rintro ⟨e, there, found⟩
  obtain ⟨event, _, rfl⟩ := List.mem_map.1 there
  exact found

theorem announced_map_onHost (place : Sysfs) (trace : List (World.Event σ)) :
    announced (trace.map (onHost place)) = World.entered trace := by
  have same : announced? ∘ onHost place = (World.entered? : World.Event σ → Option RunState) := by
    funext e
    obtain ⟨before, call, reply, after⟩ := e
    cases call <;> rfl
  unfold announced World.entered
  rw [List.filterMap_map, same]

end CliEvent

namespace System

variable (y : System σ)

/-- How a system answers the calls of an invocation. -/
def answer : Handler cliSignature (World σ)
  | .readText path, w =>
    let (reply, host) := Prog.run y.os (OsProg.readText path) w.host
    (reply, { w with host := host })
  | .lock path, w =>
    let (reply, host) := y.lock path w.host
    (reply, { w with host := host })
  | .unlock, w => ((), { w with host := y.unlock w.host })
  | .host place c, w => World.handler (place.answer y.os) y.clock c w

/-- What a part of an invocation does, its value, and what it leaves are as `R` says. -/
def Runs (p : CliProg α) (w : World σ) (R : List (CliEvent σ) → α → World σ → Prop) : Prop :=
  R (Prog.calls y.answer p w) (Prog.run y.answer p w).1 (Prog.run y.answer p w).2

variable {y} in
theorem Runs.mono {p : CliProg α} {w : World σ} {R R' : List (CliEvent σ) → α → World σ → Prop}
    (runs : y.Runs p w R) (weaker : ∀ trace a w', R trace a w' → R' trace a w') : y.Runs p w R' :=
  weaker _ _ _ runs

/-- A sequence is taken apart at its first part. -/
theorem runs_bind {β : Type} (p : CliProg α) (f : α → CliProg β) (w : World σ)
    {R : List (CliEvent σ) → β → World σ → Prop} :
    y.Runs (p >>= f) w R ↔
      y.Runs p w fun first a w' => y.Runs (f a) w' fun second => R (first ++ second) := by
  unfold Runs
  rw [Prog.run_bind, Prog.calls_bind]

theorem runs_call (c : CliCall) (w : World σ) {R : List (CliEvent σ) → c.Reply → World σ → Prop} :
    y.Runs (CliProg.call c) w R ↔
      R [⟨w, c, (y.answer c w).1, (y.answer c w).2⟩] (y.answer c w).1 (y.answer c w).2 := Iff.rfl

/-- A program on a host runs there as a part of an invocation. -/
theorem run_onHost (place : Sysfs) (p : HostProg α) (w : World σ) :
    Prog.run y.answer (CliProg.onHost place p) w =
      Prog.run (World.handler (place.answer y.os) y.clock) p w :=
  Prog.run_interpret y.answer _ p w

/-- What a program does on a host is done there as a part of an invocation. -/
theorem calls_onHost (place : Sysfs) (p : HostProg α) (w : World σ) :
    Prog.calls y.answer (CliProg.onHost place p) w =
      (Prog.calls (World.handler (place.answer y.os) y.clock) p w).map (CliEvent.onHost place) := by
  induction p generalizing w with
  | done a => rfl
  | call c next ih => exact congrArg (_ :: ·) (ih _ _)

/-- A program that keeps a catalog for itself runs on a host as it does alone. -/
theorem runs_onHost (place : Sysfs) (p : CatalogProg α) (c : Catalog) (w : World σ)
    {R : List (CliEvent σ) → α → World σ → Prop} :
    y.Runs (CliProg.onHost place (Prod.fst <$> p.run c)) w R ↔
      CatalogProg.Runs (place.answer y.os) y.clock p c w fun trace a _ w' =>
        R (trace.map (CliEvent.onHost place)) a w' := by
  unfold Runs CatalogProg.Runs CatalogProg.trace CatalogProg.runOn
  rw [run_onHost, calls_onHost, map_eq_pure_bind, Prog.run_bind, Prog.calls_bind]
  show R (List.map _ (_ ++ [])) _ _ ↔ _
  rw [List.append_nil]
  exact Iff.rfl

end System

end Provision
