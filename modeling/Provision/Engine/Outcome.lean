import Provision.Error
import Provision.Journal

/-!
# Outcomes of runs

How a run ends, and the exit code that tells it to the caller.

Main results:

- `Outcome.exitCode_eq_two_iff`: exit code 2 is kept for a setup whose changes
  were undone.
- `Outcome.exitCode_eq_four_iff`: exit code 4 is kept for a run that found
  another one at work.
-/

namespace Provision

/-- What undoing the changes of a setup achieved. -/
structure RollbackReport where
  /-- How many changes were undone. -/
  reverted : Nat := 0
  /-- The changes that remain, each with the reason. -/
  failures : List (Change × Error) := []
  deriving DecidableEq, Inhabited

/-- Whether every change was undone. -/
def RollbackReport.isComplete (r : RollbackReport) : Bool := r.failures.isEmpty

/-- What a teardown achieved, device by device. -/
structure TeardownReport where
  /-- The devices that are back on their home driver. -/
  restored : List PciAddress := []
  /-- The devices without a home driver on record, which were left alone. -/
  skipped : List PciAddress := []
  /-- The devices that could not be brought back, each with the reason. -/
  unrestored : List (PciAddress × Error) := []
  deriving DecidableEq, Inhabited

/-- How a run ends. -/
inductive Outcome
  /-- The setup reached its goal; the journal holds what it changed. -/
  | committed (journal : Journal) (applied skipped : Nat)
  /-- The setup failed at a step, and its changes were undone. -/
  | rolledBack (error : Error) (rollback : RollbackReport)
  /-- The run failed before it changed anything. -/
  | rejected (error : Error)
  | tornDown (report : TeardownReport)
  deriving DecidableEq, Inhabited

/-- The exit code of an outcome. -/
def Outcome.exitCode : Outcome → Nat
  | .committed _ _ _ => 0
  | .rolledBack _ _ => 2
  | .rejected (.concurrentRun _) => 4
  | .rejected _ => 1
  | .tornDown report => if report.unrestored.isEmpty then 0 else 3

/-- Exit code 2 is kept for a setup whose changes were undone. -/
theorem Outcome.exitCode_eq_two_iff (o : Outcome) :
    o.exitCode = 2 ↔ ∃ e report, o = .rolledBack e report := by
  unfold exitCode
  split
  · simp
  · simp
  · simp
  · simp
  · split <;> simp

/-- Exit code 4 is kept for a run that found another one at work. -/
theorem Outcome.exitCode_eq_four_iff (o : Outcome) :
    o.exitCode = 4 ↔ ∃ path, o = .rejected (.concurrentRun path) := by
  unfold exitCode
  split
  · simp
  · simp
  · simp
  · next e h => simp; exact fun path he => h path he
  · split <;> simp

end Provision
