import Provision.Engine.Binding
import Provision.Engine.Loading
import Provision.Engine.Outcome
import Provision.Engine.Plan
import Provision.Engine.Reserving

/-!
# Setup

A setup makes the steps of its plan one after the other and notes every change.
Steps that the plan marks as satisfied are passed over.  When a step fails, or
the deadline has passed between two steps, the noted changes are undone from the
newest to the oldest; one that cannot be undone does not keep the others from
being tried.
-/

namespace Provision.Setup

/-- Makes a step; gives the change, if there was one. -/
def apply : Step → Binding.MoveM (Option Change)
  | .loadModule m => (Loading.require m : CatalogM (Option Change))
  | .mount r => (Reserving.mount r : CatalogM (Option Change))
  | .reserve r => (Reserving.reserve r : CatalogM (Option Change))
  | .rebind a driver => Binding.handOver a driver
  | .restore a _ => do
    (Binding.restore a : CatalogM Unit)
    pure none

/-! ## Undoing -/

/-- Undoes a change. -/
def undo : Change → CatalogM Unit
  | .moduleLoaded name => Loading.unload name
  | .mounted path _ => Reserving.unmount path
  | .reserved pool previous => Reserving.restoreCount pool previous
  | .rebound a prior recorded | .stranded a prior recorded => do
    Binding.bringBack a prior
    if recorded then Catalog.forgetHome a

/-- Undoes changes one by one, whatever becomes of each. -/
def undoAll : List Change → CatalogProg RollbackReport
  | [] => pure {}
  | c :: cs => do
    let result ← (undo c).run
    let report ← undoAll cs
    match result with
    | .ok _ => pure { report with reverted := report.reverted + 1 }
    | .error e => pure { report with failures := (c, e) :: report.failures }

/-- Undoes the changes of a setup that failed. -/
def abort (e : Error) (journal : Journal) : CatalogProg Outcome := do
  HostProg.enter .rollingBack
  let report ← undoAll journal.newestFirst
  HostProg.enter .failed
  pure (.rolledBack e report)

/-! ## Steps in order -/

/-- What a setup has done so far. -/
structure Progress where
  journal : Journal := []
  applied : Nat := 0
  skipped : Nat := 0
  deriving DecidableEq, Inhabited

/-- A step was passed over, or found nothing to do. -/
def Progress.skip (p : Progress) : Progress := { p with skipped := p.skipped + 1 }

/-- A step made a change. -/
def Progress.note (p : Progress) (c : Change) : Progress :=
  { p with journal := p.journal ++ [c], applied := p.applied + 1 }

/-- Whether the deadline has passed before the step at a place; the first step is always made. -/
def isLate (timeout : Option Nat) (index : Nat) : HostProg Bool :=
  match timeout with
  | some limit => if index = 0 then pure false else return decide (limit ≤ (← HostProg.elapsed))
  | none => pure false

/-- Makes the steps of a plan from a place on. -/
def applyFrom (timeout : Option Nat) (total : Nat) :
    Nat → List PlannedStep → Progress → CatalogProg Outcome
  | _, [], p => do
    HostProg.enter .committed
    pure (.committed p.journal p.applied p.skipped)
  | index, planned :: rest, p => do
    HostProg.enter (.applying (index + 1) total)
    if ← isLate timeout index then abort (.timedOut index) p.journal
    else if planned.satisfied then applyFrom timeout total (index + 1) rest p.skip
    else
      match ← (apply planned.step).run with
      | .ok (some c) => applyFrom timeout total (index + 1) rest (p.note c)
      | .ok none => applyFrom timeout total (index + 1) rest p.skip
      | .error f => abort f.error (p.journal ++ f.stranded.toList)

/-- Makes the steps of a plan. -/
def carryOut (timeout : Option Nat) (steps : List PlannedStep) : CatalogProg Outcome :=
  applyFrom timeout steps.length 0 steps {}

/-- Runs a setup. -/
def run (policy : Policy) (g : SetupGoal) : CatalogProg Outcome := do
  HostProg.enter .idle
  HostProg.enter .probing
  match ← (plan policy.filter (.setup g)).run with
  | .error e => do
    HostProg.enter .failed
    pure (.rejected e)
  | .ok steps => carryOut policy.timeout steps

end Provision.Setup
