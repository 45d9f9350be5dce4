import Provision.Error
import Provision.Text.Blank
import Provision.Text.Content

/-!
# Results of commands

What a command prints and how it ends, and how that becomes an answer or an
error.

Main results:

- `ExitStatus.exitCode_ofNumber`: only the lowest byte of the number that a
  command ends with is kept.
- `ShellResult.checked_eq_ok_iff`: a checked command answers exactly when its
  exit code is zero.
-/

namespace Provision

/-- How a command ends: with a status, which is one byte, or by a signal. -/
inductive ExitStatus
  | code (n : UInt8)
  | signal (n : Nat)
  deriving DecidableEq, Inhabited

/-- The status of a command that ends with a number: the lowest byte of the number. -/
def ExitStatus.ofNumber (n : Int) : ExitStatus := .code (UInt8.ofInt n)

/-- What a command leaves behind. -/
structure ShellOutput where
  status : ExitStatus
  stdout : Content
  stderr : Content
  deriving DecidableEq, Inhabited

/-- The exit code of a command and what it printed, trimmed. -/
structure ShellResult where
  exitCode : Int
  stdout : String
  stderr : String
  deriving DecidableEq, Inhabited

/-- The exit code, which is -1 for a command that a signal ended. -/
def ExitStatus.exitCode : ExitStatus → Int
  | .code n => n.toNat
  | .signal _ => -1

/-- The exit code of a command that ends with a number is the number up to multiples of 256. -/
theorem ExitStatus.exitCode_ofNumber (n : Int) : (ofNumber n).exitCode = n % 256 := by
  have h : 0 ≤ n % 256 := Int.emod_nonneg n (by decide)
  simp [ofNumber, exitCode, UInt8.ofInt]
  omega

/-- The result that an output is. -/
def ShellOutput.result (o : ShellOutput) : ShellResult where
  exitCode := o.status.exitCode
  stdout := Text.trim o.stdout.lossy
  stderr := Text.trim o.stderr.lossy

namespace ShellResult

/-- Whether the command succeeded. -/
def success (r : ShellResult) : Bool := r.exitCode == 0

/-- What the command printed: both outputs, in two parts when both hold something. -/
def output (r : ShellResult) : String :=
  if r.stderr.isEmpty then r.stdout
  else if r.stdout.isEmpty then r.stderr
  else r.stdout ++ "\n" ++ r.stderr

/-- The standard output of a command that succeeded; a failure otherwise. -/
def checked (command : String) (r : ShellResult) : Except Error String :=
  if r.success then .ok r.stdout else .error (.commandFailed command r.exitCode r.output)

/-- A checked command answers exactly when its exit code is zero. -/
theorem checked_eq_ok_iff (command : String) (r : ShellResult) (s : String) :
    r.checked command = .ok s ↔ r.exitCode = 0 ∧ r.stdout = s := by
  unfold checked success
  split <;> simp_all

end ShellResult

end Provision
