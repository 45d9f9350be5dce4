import Provision.Proofs.Contract.System

/-!
# Requests to the operating system

A call on a host is answered by a program of calls to the operating system.  Such a
program is taken apart at its parts: what it asks for, how it ends, and which failures it
reports.

Main results:

- `OsProg.requests_then`, `OsProg.ok_of_then`, `OsProg.failed_of_then`: a sequence of
  programs that may fail.
- `Sysfs.run_readValue`: how a value is read.
- `Sysfs.requests_mount`: what a mount that succeeds has asked for.
- `Sysfs.isStore_of_pageCount`, `Sysfs.isStore_of_setPageCount`: how page counts fail.
-/

namespace Provision

/-- Whether an error reports the failure of a resource. -/
def Error.IsStore (e : Error) : Prop :=
  ∃ operation place message, e = .store operation place message

variable {α β σ : Type} {os : Handler osSignature σ} {s s' : σ}

/-! ## Sequences -/

namespace OsProg

/-- The call to the operating system that was made. -/
def request (event : Prog.Event osSignature σ) : OsCall := event.call

/-- The calls to the operating system that a program makes, without their replies. -/
def requests (os : Handler osSignature σ) (p : OsProg α) (s : σ) : List OsCall :=
  (Prog.calls os p s).map request

/-- The calls of a sequence are those of its parts. -/
theorem requests_bind (p : OsProg α) (f : α → OsProg β) :
    requests os (p >>= f) s =
      requests os p s ++ requests os (f (Prog.run os p s).1) (Prog.run os p s).2 := by
  unfold requests
  rw [Prog.calls_bind, List.map_append]

/-- A failure skips the calls that follow. -/
theorem requests_then (p : OsM α) (f : α → OsM β) :
    requests os (p >>= f).run s = requests os p.run s ++
      match (Prog.run os p.run s).1 with
      | .ok a => requests os (f a).run (Prog.run os p.run s).2
      | .error _ => [] := by
  rw [ExceptT.run_bind, requests_bind]
  cases (Prog.run os p.run s).1 <;> rfl

/-- A sequence that succeeds is one of parts that do. -/
theorem ok_of_then {p : OsM α} {f : α → OsM β} {b : β}
    (fine : (Prog.run os (p >>= f).run s).1 = .ok b) :
    ∃ a, (Prog.run os p.run s).1 = .ok a ∧
      (Prog.run os (f a).run (Prog.run os p.run s).2).1 = .ok b := by
  rw [ExceptT.run_bind, Prog.run_bind] at fine
  cases first : (Prog.run os p.run s).1 with
  | error e =>
    rw [first] at fine
    cases fine
  | ok a =>
    rw [first] at fine
    exact ⟨a, rfl, fine⟩

/-- A sequence that fails has a part that does. -/
theorem failed_of_then {p : OsM α} {f : α → OsM β} {e : Error}
    (failed : (Prog.run os (p >>= f).run s).1 = .error e) :
    (Prog.run os p.run s).1 = .error e ∨ ∃ a s', (Prog.run os (f a).run s').1 = .error e := by
  rw [ExceptT.run_bind, Prog.run_bind] at failed
  cases first : (Prog.run os p.run s).1 with
  | error cause =>
    rw [first] at failed
    cases failed
    exact .inl rfl
  | ok a =>
    rw [first] at failed
    exact .inr ⟨a, _, failed⟩

/-- Running a command line is a single call. -/
theorem requests_runChecked (line : String) : requests os (runChecked line) s = [.shell line] := by
  rw [runChecked, requests_bind, runShell, requests_bind, Prog.run_bind]
  cases Prog.run os (call (.shell line)) s with
  | mk reply s' => cases reply <;> rfl

end OsProg

open OsProg

namespace Sysfs

/-! ## Values -/

/-- A file operation is answered as the operating system answers it. -/
theorem run_attempt (operation : String) (p : HostPath) (call : OsProg (Except OsError α)) :
    Prog.run os (attempt operation p call).run s =
      ((Prog.run os call s).1.mapError (fileError operation p), (Prog.run os call s).2) := by
  show Prog.run os ((fun reply => reply.mapError (fileError operation p)) <$> call) s = _
  rw [map_eq_pure_bind, Prog.run_bind]
  rfl

/-- A value is the text of a file, without the blanks around it. -/
theorem run_readValue (p : HostPath) :
    Prog.run os (readValue p).run s =
      ((((os (.readFile p) s).1.bind textOf).mapError (fileError "read" p)).map Text.trim,
        (os (.readFile p) s).2) := by
  rw [readValue, ExceptT.run_bind, Prog.run_bind, run_attempt, readText_run]
  cases (os (.readFile p) s).1.bind textOf <;> rfl

/-- A file operation fails as one on a resource. -/
theorem isStore_of_attempt {operation : String} {p : HostPath} {call : OsProg (Except OsError α)}
    {e : Error} (failed : (Prog.run os (attempt operation p call).run s).1 = .error e) :
    e.IsStore := by
  rw [run_attempt] at failed
  cases reply : (Prog.run os call s).1 with
  | error cause =>
    rw [reply] at failed
    cases failed
    exact ⟨_, _, _, rfl⟩
  | ok a =>
    rw [reply] at failed
    cases failed

/-- A value that is not read is reported as the failure of a resource. -/
theorem isStore_of_readValue {p : HostPath} {e : Error}
    (failed : (Prog.run os (readValue p).run s).1 = .error e) : e.IsStore := by
  rcases failed_of_then failed with read | ⟨text, s', trimmed⟩
  · exact isStore_of_attempt read
  · cases trimmed

/-! ## Mounts and pages -/

/-- The command that mounts hugetlbfs at a path. -/
def mountCommand (target : HostPath) (pageKb : Nat) : String :=
  Shell.commandLine Shell.mount
    ["-t", Mounts.hugetlbfs, "-o", "pagesize=" ++ toString pageKb ++ "K", "nodev", target.text]

/-- A mount that succeeds has made the directory below the root, and has run the command for it. -/
theorem requests_mount (place : Sysfs) (p : HostPath) (pageKb : Nat)
    (made : place.answer os (.mount p pageKb) s = (.ok (), s')) :
    requests os (place.serve (.mount p pageKb)) s =
      [.makeDirs (place.hostPath p), .shell (mountCommand (place.hostPath p) pageKb)] := by
  have fine : (Prog.run os (place.mount p pageKb).run s).1 = .ok () := congrArg Prod.fst made
  obtain ⟨_, prepared, -⟩ := ok_of_then fine
  show requests os (place.mount p pageKb).run s = _
  rw [mount, requests_then, prepared]
  show [OsCall.makeDirs (place.hostPath p)] ++
    requests os (command _ _ >>= fun _ => pure ()).run _ = _
  rw [requests_then]
  show _ ++ (requests os (runChecked _) _ ++ _) = _
  rw [requests_runChecked]
  split <;> rfl

/-- A page count that is not read is reported as the failure of a resource. -/
theorem isStore_of_pageCount {place : Sysfs} {pool : Pool} {e : Error}
    (failed : (place.answer os (.pageCount pool) s).1 = .error e) : e.IsStore := by
  change (Prog.run os (place.pageCount pool).run s).1 = .error e at failed
  rcases failed_of_then failed with read | ⟨raw, s', parsed⟩
  · exact isStore_of_readValue read
  · split at parsed
    · cases parsed
    · cases parsed
      exact ⟨_, _, _, rfl⟩

/-- A page count that is not written is reported as the failure of a resource. -/
theorem isStore_of_setPageCount {place : Sysfs} {pool : Pool} {count : Nat} {e : Error}
    (failed : (place.answer os (.setPageCount pool count) s).1 = .error e) : e.IsStore :=
  isStore_of_attempt failed

end Sysfs

end Provision
