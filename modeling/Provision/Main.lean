import Provision.Cli.Invoke
import Provision.Text.Timestamp

/-!
# The program

The outer layer: it carries out on the running machine what an invocation asks
for, prints what it ends with, and gives its exit status.  It decides nothing.
Programs of the system cannot be started from here, so every command line is
answered as one for which there is no shell.
-/

namespace Provision.Outer

/-- The error number of a code, which some operations give as a negative word. -/
def errorNumber (code : UInt32) : Nat :=
  if code.toNat < Nat.pow 2 31 then code.toNat else Nat.pow 2 32 - code.toNat

/-- The failure that an exception of a file operation is. -/
def osError : IO.Error → OsError
  | .alreadyExists _ code _ | .interrupted _ code _ | .noFileOrDirectory _ code _
  | .invalidArgument _ code _ | .permissionDenied _ code _ | .resourceExhausted _ code _
  | .inappropriateType _ code _ | .noSuchThing _ code _ | .otherError code _
  | .resourceBusy code _ | .resourceVanished code _ | .unsupportedOperation code _
  | .hardwareFault code _ | .unsatisfiedConstraints code _ | .illegalOperation code _
  | .protocolError code _ | .timeExpired code _ => .errno (errorNumber code)
  | .unexpectedEof => .other "unexpected end of file"
  | .userError text => .other text

/-- Carries out an operation; its exceptions become failures. -/
def attempt {α : Type} (act : IO α) : IO (Except OsError α) := do
  try pure (.ok (← act))
  catch e => pure (.error (osError e))

/-- What stands at a path, as far as its kind goes. -/
def leadsToDir (p : HostPath) : IO Bool := do
  let target := (← IO.currentDir) / p.text
  let data ← target.metadata
  pure (data.type == .dir)

/-- The names of what stands in a directory. -/
def listDir (p : HostPath) : IO (List String) := do
  let target := (← IO.currentDir) / p.text
  let entries ← target.readDir
  pure (entries.toList.map (·.fileName))

/-- Where a link leads to in the end. -/
def readLink (p : HostPath) : IO HostPath := do
  let target := (← IO.currentDir) / p.text
  let _ ← target.metadata
  pure ⟨(← IO.FS.realPath target).toString⟩

/-- The time, as the system gives it to a file that was just made. -/
def timestamp : IO String := do
  let (_, path) ← IO.FS.createTempFile
  let time := (← path.metadata).modified
  IO.FS.removeFile path
  pure (Timestamp.ofSeconds time.sec.toNat time.nsec.toNat)

/-- Carries out a call to the operating system. -/
def carryOutOs : (c : OsCall) → IO c.Reply
  | .readFile p => attempt do pure (.ofBytes (← IO.FS.readBinFile p.text).toList)
  | .writeFile p s => attempt (IO.FS.writeFile p.text s)
  | .leadsToDir p => attempt (leadsToDir p)
  | .listDir p => attempt (listDir p)
  | .readLink p => attempt (readLink p)
  | .makeDirs p => attempt (IO.FS.createDirAll p.text)
  | .rename p q => attempt (IO.FS.rename p.text q.text)
  | .shell _ => pure (.error .noEntry)
  | .timestamp => timestamp

/-- What the outer layer keeps while an invocation is carried out. -/
structure Session where
  /-- When the run began to probe the host, in milliseconds. -/
  started : IO.Ref Nat
  /-- The file on which the run lock is held. -/
  lock : IO.Ref (Option IO.FS.Handle)

/-- Carries out a call of a run. -/
def carryOutHost (session : Session) (place : Sysfs) : (c : HostCall) → IO c.Reply
  | .store c => Prog.carryOut carryOutOs (place.serve c)
  | .elapsed => do pure (((← IO.monoMsNow) - (← session.started.get)) / 1000)
  | .enter .probing => do session.started.set (← IO.monoMsNow)
  | .enter _ => pure ()

/-- Takes the run lock. -/
def takeLock (session : Session) (p : HostPath) : IO (Except Error Unit) := do
  let opened ← attempt do
    match p.parent? with
    | some parent => if parent.text.isEmpty then pure () else IO.FS.createDirAll parent.text
    | none => pure ()
    let handle ← IO.FS.Handle.mk p.text .append
    pure (handle, ← handle.tryLock true)
  match opened with
  | .error e => pure (.error (.io p e))
  | .ok (_, false) => pure (.error (.concurrentRun p))
  | .ok (handle, true) => do
    session.lock.set (some handle)
    pure (.ok ())

/-- Carries out a call of an invocation. -/
def carryOutCli (session : Session) : (c : CliCall) → IO c.Reply
  | .readText p => Prog.carryOut carryOutOs (OsProg.readText p)
  | .lock p => takeLock session p
  | .unlock => do
    if let some handle ← session.lock.get then handle.unlock
    session.lock.set none
  | .host place c => carryOutHost session place c

end Provision.Outer

/-- Carries out a command line. -/
def main (words : List String) : IO UInt32 := do
  let session : Provision.Outer.Session := ⟨← IO.mkRef 0, ← IO.mkRef none⟩
  let ending ← Provision.Prog.carryOut (Provision.Outer.carryOutCli session)
    (Provision.Invocation.execute words)
  IO.print ending.printed
  if let some text := ending.errorText then IO.eprintln text
  pure ending.status.toUInt32
