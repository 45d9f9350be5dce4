import Provision.Simulation.Snapshot

/-!
# Checks on a simulated host

Checks that a simulated host is as expected, and what they say when it is not.

Main results:

- `Check.mismatch?_unchanged`: an unchanged host is one without differences.
-/

namespace Provision

/-- Something that is expected of a simulated host.  Addresses are texts, which are shown as they
were given. -/
inductive Check
  | driver (address : String) (expected : Option String)
  | pages (pool : Pool) (expected : Nat)
  | loaded (name : String) (expected : Bool)
  | home (address : String) (expected : Option String)
  | unchanged (before : Snapshot)
  deriving DecidableEq, Inhabited

/-- What is otherwise than expected. -/
inductive Mismatch
  | driver (address : String) (expected actual : Option String)
  | pages (pool : Pool) (expected actual : Nat)
  | loaded (name : String) (expected : Bool)
  | home (address : String) (expected actual : Option String)
  | changed (differences : List String)
  deriving DecidableEq, Inhabited

/-- The text of a mismatch. -/
def Mismatch.message : Mismatch → String
  | .driver address expected actual =>
    "Device " ++ address ++ ": expected driver " ++ Snapshot.showDriver expected ++ ", found " ++
      Snapshot.showDriver actual
  | .pages pool expected actual =>
    "Pool " ++ toString pool.pageKb ++ "kB/" ++ Quoted.option toString pool.node ++
      ": expected " ++ toString expected ++ " pages, found " ++ toString actual
  | .loaded name expected => "Module " ++ name ++ ": expected loaded=" ++ Quoted.bool expected
  | .home address expected actual =>
    "Device " ++ address ++ ": expected original driver " ++ Snapshot.showDriver expected ++
      ", found " ++ Snapshot.showDriver actual
  | .changed differences => "Host state changed: " ++ String.intercalate "; " differences

namespace Check

/-- The address that a text is. -/
def address (s : String) : Except Error PciAddress :=
  match PciAddress.parse? s with
  | some a => .ok a
  | none => .error (.badAddress s)

/-- What is otherwise than expected, if anything is. -/
def mismatch? (h : SimHost) : Check → Except Error (Option Mismatch)
  | .driver s expected => do
    let actual := h.driverOf (← address s)
    pure (if actual = expected then none else some (.driver s expected actual))
  | .pages pool expected =>
    let actual := h.reservedPages pool
    pure (if actual = expected then none else some (.pages pool expected actual))
  | .loaded name expected =>
    pure (if h.isLoaded name = expected then none else some (.loaded name expected))
  | .home s expected => do
    let actual := h.homes.get? (← address s)
    pure (if actual = expected then none else some (.home s expected actual))
  | .unchanged before =>
    let differences := before.differences h.snapshot
    pure (if differences.isEmpty then none else some (.changed differences))

/-- An unchanged host is one without differences. -/
theorem mismatch?_unchanged (h : SimHost) (before : Snapshot) :
    mismatch? h (.unchanged before) = .ok none ↔ before.differences h.snapshot = [] := by
  simp [mismatch?, pure, Except.pure]

end Check

end Provision
