import Provision.Files.Operations
import Provision.Program
import Provision.Shell.Outcome

/-!
# Calls to the operating system

What reading and changing a real host comes down to: file operations, command
lines for the shell, and the clock.

Main results:

- `OsProg.readText_run`: reading a text is reading a file whose content is text.
-/

namespace Provision

/-- A call to the operating system. -/
inductive OsCall
  | readFile (path : HostPath)
  | writeFile (path : HostPath) (content : String)
  /-- Whether a path leads to a directory. -/
  | leadsToDir (path : HostPath)
  | listDir (path : HostPath)
  | readLink (path : HostPath)
  /-- Makes a directory and those above it that are missing. -/
  | makeDirs (path : HostPath)
  /-- Gives a file another name, in place of what stands there. -/
  | rename (path target : HostPath)
  /-- Runs a command line in the shell. -/
  | shell (command : String)
  /-- The time, as records hold it. -/
  | timestamp
  deriving DecidableEq, Inhabited

/-- The reply to a call to the operating system. -/
abbrev OsCall.Reply : OsCall → Type
  | .readFile _ => Except OsError Content
  | .writeFile _ _ | .makeDirs _ | .rename _ _ => Except OsError Unit
  | .leadsToDir _ => Except OsError Bool
  | .listDir _ => Except OsError (List String)
  | .readLink _ => Except OsError HostPath
  | .shell _ => Except OsError ShellOutput
  | .timestamp => String

/-- The calls to the operating system. -/
def osSignature : Signature := ⟨OsCall, OsCall.Reply⟩

/-- A program that makes calls to the operating system. -/
abbrev OsProg := Prog osSignature

/-- A program that makes calls to the operating system and may fail. -/
abbrev OsM := ExceptT Error OsProg

namespace OsProg

/-- Makes a call. -/
def call (c : OsCall) : OsProg c.Reply := Prog.perform (S := osSignature) c

/-- The text of a content. -/
def textOf (content : Content) : Except OsError String :=
  match content.text? with
  | some s => .ok s
  | none => .error .notText

/-- Reads a file of text. -/
def readText (path : HostPath) : OsProg (Except OsError String) :=
  (fun reply => Except.bind reply textOf) <$> call (.readFile path)

/-- Reading a text is reading a file whose content is text. -/
theorem readText_run {σ : Type} (h : Handler osSignature σ) (path : HostPath) (s : σ) :
    Prog.run h (readText path) s =
      (Except.bind (h (.readFile path) s).1 textOf, (h (.readFile path) s).2) := rfl

/-- Runs a command line in the shell. -/
def runShell (command : String) : OsProg (Except Error ShellResult) := do
  match ← call (.shell command) with
  | .ok output => pure (.ok output.result)
  | .error e => pure (.error (.shellUnavailable command e))

/-- Runs a command line that has to succeed, and gives what it printed. -/
def runChecked (command : String) : OsProg (Except Error String) := do
  match ← runShell command with
  | .ok result => pure (result.checked command)
  | .error e => pure (.error e)

end OsProg

end Provision
