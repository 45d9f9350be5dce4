import Provision.Engine.State
import Provision.Store.Call

/-!
# Programs on a host

What a run does to its surroundings: it makes calls on the host's resources,
reads the clock, and announces the state it enters.  Everything else about a run
is computation, so the sequence of these three is all that can be seen of it.
-/

namespace Provision

/-- What a run does to its surroundings. -/
inductive HostCall
  /-- A call on a resource of the host. -/
  | store (c : StoreCall)
  /-- The whole seconds since the run began to probe the host. -/
  | elapsed
  /-- The run enters a state. -/
  | enter (s : RunState)

/-- The reply to what a run does. -/
def HostCall.Reply : HostCall → Type
  | .store c => c.Reply
  | .elapsed => Nat
  | .enter _ => Unit

/-- The calls that runs are made of. -/
def hostSignature : Signature := ⟨HostCall, HostCall.Reply⟩

/-- A program on a host. -/
abbrev HostProg := Prog hostSignature

/-- A program on a host that may fail. -/
abbrev HostM := ExceptT Error HostProg

namespace HostM

/-- Makes a call on a resource, and fails when the call fails. -/
def ask (c : StoreCall) : HostM c.Value :=
  ExceptT.mk (Prog.perform (S := hostSignature) (.store c))

/-- The result of a program that may fail. -/
def result {α : Type} (p : HostM α) : HostProg (Except Error α) := p.run

end HostM

namespace HostProg

/-- Announces the state that a run enters. -/
def enter (s : RunState) : HostProg Unit := Prog.perform (S := hostSignature) (.enter s)

/-- The whole seconds since the run began to probe the host. -/
def elapsed : HostProg Nat := Prog.perform (S := hostSignature) .elapsed

end HostProg

/-! ## Surroundings -/

/-- How the calls on a host's resources are answered. -/
abbrev StoreHandler (σ : Type) := (c : StoreCall) → σ → c.Reply × σ

/-- The surroundings of runs: the host, the state last announced, and how often the clock was
read. -/
structure World (σ : Type) where
  host : σ
  state : RunState := .idle
  readings : Nat := 0

namespace World

variable {σ : Type}

/-- Surroundings made of a host and the readings that its clock will give. -/
def handler (store : StoreHandler σ) (clock : Nat → Nat) : Handler hostSignature (World σ)
  | .store c, w =>
    let (reply, host) := store c w.host
    (reply, { w with host := host })
  | .elapsed, w => (clock w.readings, { w with readings := w.readings + 1 })
  | .enter s, w => ((), { w with state := s })

end World

end Provision
