import Provision.Hugepages
import Provision.OsError
import Provision.Pci.Address

/-!
# Errors

Why a request fails.  Every error names what it concerns, so that a report can be
acted upon.

Main results:

- `Error.entity_eq_none_iff`: only an expired deadline concerns nothing in
  particular.
-/

namespace Provision

/-- Why a request fails. -/
inductive Error
  /-- A module is loaded with another value of a parameter than the requested one. -/
  | moduleConflict (name parameter expected actual : String)
  | moduleLoadFailed (name reason : String)
  /-- Fewer pages were granted than are required. -/
  | insufficientPages (pageKb : Nat) (place : String) (requested required granted : Nat)
  | mountUnavailable (path : HostPath) (reason : String)
  | unbindFailed (address driver reason : String)
  /-- A device could not be bound; `prior` is the driver it was unbound from before. -/
  | bindFailed (address driver : String) (prior : Option String) (reason : String)
  | concurrentRun (lockPath : HostPath)
  | deviceNotFound (address : String)
  /-- The device is kept for the management of the host. -/
  | deviceReserved (address : String)
  | timedOut (completedSteps : Nat)
  /-- The shell could not be started. -/
  | shellUnavailable (command : String) (cause : OsError)
  | commandFailed (command : String) (exitCode : Int) (output : String)
  /-- A read or write of a host resource failed. -/
  | store (operation target message : String)
  | invalidConfig (field message : String)
  /-- A local file could not be used. -/
  | io (path : HostPath) (cause : OsError)
  deriving DecidableEq, Inhabited

namespace Error

/-- A device that is not there. -/
def noDevice (address : PciAddress) : Error := .deviceNotFound (toString address)

/-- A text that is no address. -/
def badAddress (s : String) : Error :=
  .invalidConfig "device" ("Invalid PCI address '" ++ s ++ "' (expected 0000:02:02.0)")

/-- The text of an error. -/
def message : Error → String
  | .moduleConflict name parameter expected actual =>
    "Module '" ++ name ++ "' is loaded with " ++ parameter ++ "=" ++ actual ++ ", but " ++
      parameter ++ "=" ++ expected ++ " was requested"
  | .moduleLoadFailed name reason => "Failed to load module '" ++ name ++ "': " ++ reason
  | .insufficientPages pageKb place requested required granted =>
    "Insufficient huge pages for " ++ toString pageKb ++ "kB pool on " ++ place ++
      ": requested " ++ toString requested ++ ", required " ++ toString required ++
      ", granted " ++ toString granted
  | .mountUnavailable path reason =>
    "Huge page mount at " ++ path.text ++ " unavailable: " ++ reason
  | .unbindFailed address driver reason =>
    "Failed to unbind " ++ address ++ " from '" ++ driver ++ "': " ++ reason
  | .bindFailed address driver _ reason =>
    "Failed to bind " ++ address ++ " to '" ++ driver ++ "': " ++ reason
  | .concurrentRun lockPath => "Another run holds the host lock " ++ lockPath.text
  | .deviceNotFound address => "Device '" ++ address ++ "' not found"
  | .deviceReserved address => "Device '" ++ address ++ "' is reserved for host management"
  | .timedOut completedSteps =>
    "Run timed out after " ++ toString completedSteps ++ " completed step(s)"
  | .shellUnavailable command cause =>
    "Failed to execute shell command '" ++ command ++ "': " ++ cause.message
  | .commandFailed command exitCode output =>
    "Shell command failed: '" ++ command ++ "' (exit code " ++ toString exitCode ++ "): " ++ output
  | .store operation target message =>
    "Resource store operation failed: " ++ operation ++ " " ++ target ++ ": " ++ message
  | .invalidConfig field message => "Invalid configuration for " ++ field ++ ": " ++ message
  | .io path cause => "IO error on " ++ path.text ++ ": " ++ cause.message

/-- What an error concerns. -/
def entity : Error → Option String
  | .moduleConflict name _ _ _ | .moduleLoadFailed name _ => some name
  | .insufficientPages pageKb place _ _ _ =>
    some ("hugepages-" ++ toString pageKb ++ "kB@" ++ place)
  | .mountUnavailable path _ => some path.text
  | .unbindFailed address _ _ | .bindFailed address _ _ _ | .deviceNotFound address
  | .deviceReserved address => some address
  | .concurrentRun lockPath => some lockPath.text
  | .timedOut _ => none
  | .shellUnavailable command _ | .commandFailed command _ _ => some command
  | .store _ target _ => some target
  | .invalidConfig field _ => some field
  | .io path _ => some path.text

/-- The failure of the operating system behind an error. -/
def cause? : Error → Option OsError
  | .shellUnavailable _ cause | .io _ cause => some cause
  | _ => none

/-- Only an expired deadline concerns nothing in particular. -/
theorem entity_eq_none_iff (e : Error) : e.entity = none ↔ ∃ n, e = .timedOut n := by
  cases e <;> simp [entity]

end Error

end Provision
