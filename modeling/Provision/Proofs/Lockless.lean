import Provision.Proofs.Contract.Engine
import Provision.Proofs.Contract.Machine
import Provision.Proofs.Contract.System

/-!
# Errors that do not report the run lock

Only a request for the run lock finds it held.  No call on a host is answered by such an
error, whatever the operating system answers; and the engine, which fails with the errors
of its calls and with some of its own, never says so by itself.

Main results:

- `Sysfs.neverLocked_serve`, `Sysfs.lockless_answer`: the calls on a host.
- `lockless_plan_setup`, `Teardown.lockless_prepare`: what runs are rejected for.
-/

namespace Provision

variable {α β σ : Type}

/-- Whether an error reports that the run lock is held. -/
def Error.reportsLock : Error → Bool
  | .concurrentRun _ => true
  | _ => false

/-- A result that does not report the run lock. -/
def Lockless (r : Except Error α) : Prop := ∀ e, r = .error e → e.reportsLock = false

/-- A result that is no error reports nothing. -/
theorem lockless_ok (a : α) : Lockless (.ok a : Except Error α) := nofun

/-- An error that is of another kind does not report the run lock. -/
theorem lockless_error {e : Error} (other : e.reportsLock = false) :
    Lockless (.error e : Except Error α) := by
  rintro _ ⟨⟩
  exact other

/-- A failure that does not report the run lock does not do so as the failure of something else. -/
theorem Lockless.failed {e : Error} (fine : Lockless (.error e : Except Error α)) :
    Lockless (.error e : Except Error β) := lockless_error (fine e rfl)

/-! ## Calls to the operating system -/

/-- A program does not report the run lock, however its calls are answered. -/
def NeverLocked (p : OsM α) : Prop :=
  Prog.Ensures Prog.free Prog.free p.run () fun r _ => Lockless r

namespace NeverLocked

/-- A program that only ends reports nothing. -/
theorem pure (a : α) : NeverLocked (Pure.pure a) := lockless_ok a

/-- A program may fail with an error of another kind. -/
theorem throw {e : Error} (other : e.reportsLock = false) :
    NeverLocked (MonadExcept.throw e : OsM α) := lockless_error other

/-- A sequence does not report the run lock when its parts do not. -/
theorem bind {p : OsM α} {f : α → OsM β} (first : NeverLocked p)
    (second : ∀ a, NeverLocked (f a)) : NeverLocked (p >>= f) := by
  refine (Prog.ensures_then p f).2 (Prog.Ensures.mono first fun r _ fine => ?_)
  exact ⟨fun a _ => second a, fun e failed => lockless_error (fine e failed)⟩

/-- Whatever is ended with, an error does not report the run lock if none that is given does. -/
theorem results (p : OsProg α) {f : α → Except Error β} (fine : ∀ a, Lockless (f a)) :
    NeverLocked (ExceptT.mk (f <$> p)) :=
  (Prog.ensures_map f p).2 ((Prog.ensures_true p).mono fun a _ _ => fine a)

/-- A program that cannot fail, inside one that may. -/
theorem lift (p : OsProg α) : NeverLocked (liftM p) := results p lockless_ok

/-- Errors that are caught do not report the run lock, and what is done about them need not. -/
theorem recover {p : OsM α} {f : Error → OsM α} (first : NeverLocked p)
    (second : ∀ e, e.reportsLock = false → NeverLocked (f e)) : NeverLocked (tryCatch p f) := by
  refine (Prog.ensures_recover p f).2 (Prog.Ensures.mono first fun r _ fine => ?_)
  exact ⟨fun a _ => lockless_ok a, fun e failed => second e (fine e failed)⟩

end NeverLocked

namespace Sysfs

/-- A call to the operating system that fails is reported with its path. -/
theorem neverLocked_attempt (operation : String) (p : HostPath)
    (call : OsProg (Except OsError α)) : NeverLocked (attempt operation p call) := by
  refine .results call fun reply => ?_
  cases reply with
  | ok a => exact lockless_ok a
  | error e => exact lockless_error rfl

/-- Reading a value fails as reading its file does. -/
theorem neverLocked_readValue (p : HostPath) : NeverLocked (readValue p) :=
  .bind (neverLocked_attempt _ _ _) fun _ => .pure _

/-- Writing a value fails as writing its file does. -/
theorem neverLocked_writeValue (p : HostPath) (value : String) :
    NeverLocked (writeValue p value) := neverLocked_attempt _ _ _

/-- A failure that is passed over reports nothing. -/
theorem neverLocked_ignore {p : OsM Unit} (fine : NeverLocked p) : NeverLocked (ignore p) :=
  .recover fine fun _ _ => .pure _

/-- A command line fails when there is no shell, or when the command says so. -/
theorem neverLocked_command (program : String) (arguments : List String) :
    NeverLocked (command program arguments) := by
  intro reply _ _
  refine ⟨trivial, ?_⟩
  cases reply with
  | error e => exact lockless_error rfl
  | ok output =>
    show Lockless (output.result.checked _)
    unfold ShellResult.checked
    split
    · exact lockless_ok _
    · exact lockless_error rfl

variable (place : Sysfs)

/-- A count of pages that is no number is reported as such. -/
theorem neverLocked_pageCount (p : Pool) : NeverLocked (place.pageCount p) := by
  refine .bind (neverLocked_readValue _) fun raw => ?_
  split
  · exact .pure _
  · exact .throw rfl

/-- The parameters of a module fail to be read as a directory does. -/
theorem neverLocked_loadedState (dir : HostPath) (name : String) :
    NeverLocked (loadedState dir name) := by
  refine .bind (.lift _) fun reply => ?_
  split
  · exact .bind (.lift _) fun ps => .pure _
  · exact .pure _
  · exact .throw rfl

/-- A module whose state cannot be read is reported as such. -/
theorem neverLocked_moduleState (name : String) : NeverLocked (place.moduleState name) := by
  refine .bind (.lift _) fun reply => ?_
  split
  · exact neverLocked_loadedState _ _
  · exact .pure _
  · exact .pure _
  · exact .throw rfl

/-- A device that is not there, or whose link cannot be read, is reported as such. -/
theorem neverLocked_boundDriver (a : PciAddress) : NeverLocked (place.boundDriver a) := by
  refine .bind (.lift _) fun reply => ?_
  split
  · exact .throw rfl
  · exact .throw rfl
  · refine .bind (.lift _) fun target => ?_
    split
    · exact .pure _
    · exact .pure _
    · exact .throw rfl

theorem neverLocked_clearOverride (a : PciAddress) : NeverLocked (place.clearOverride a) :=
  neverLocked_ignore (neverLocked_writeValue _ _)

/-- A binding fails as its writes do, also when they are looked into afterwards. -/
theorem neverLocked_bind (a : PciAddress) (driver : String) :
    NeverLocked (place.bind a driver) := by
  have requested : NeverLocked (place.requestBinding a driver) := by
    refine .recover (neverLocked_writeValue _ _) fun e fine => ?_
    refine .bind (neverLocked_boundDriver place a) fun bound => ?_
    split
    · exact .pure _
    · exact .throw fine
  refine .bind (neverLocked_ignore (neverLocked_writeValue _ _)) fun _ => ?_
  refine .bind (.recover requested fun e fine => ?_) fun _ => neverLocked_clearOverride place a
  exact .bind (neverLocked_clearOverride place a) fun _ => .throw fine

/-- A document of records that cannot be read is reported as such. -/
theorem neverLocked_loadMetadata : NeverLocked place.loadMetadata := by
  refine .bind (.lift _) fun reply => ?_
  split
  · split
    · exact .pure _
    · exact .throw rfl
  · exact .pure _
  · exact .throw rfl

/-- Replacing the document of records fails as one of its file operations does. -/
theorem neverLocked_saveMetadata (d : Metadata) : NeverLocked (place.saveMetadata d) := by
  have replaced : NeverLocked (do
      attempt "write" place.draftPath (OsProg.call (.writeFile place.draftPath d.print))
      attempt "rename" place.metadataPath
        (OsProg.call (.rename place.draftPath place.metadataPath))) :=
    .bind (neverLocked_attempt _ _ _) fun _ => neverLocked_attempt _ _ _
  unfold saveMetadata
  split
  · exact .bind (neverLocked_attempt _ _ _) fun _ => replaced
  · exact replaced

/-- No call on a host reports the run lock. -/
theorem neverLocked_serve (c : StoreCall) : NeverLocked (ExceptT.mk (place.serve c)) := by
  cases c with
  | isMounted p => exact .bind (neverLocked_readValue _) fun _ => .pure _
  | mount p pageKb =>
    exact .bind (neverLocked_attempt _ _ _) fun _ =>
      .bind (neverLocked_command _ _) fun _ => .pure _
  | unmount p => exact .bind (neverLocked_command _ _) fun _ => .pure _
  | pageCount p => exact neverLocked_pageCount place p
  | setPageCount p count => exact neverLocked_writeValue _ _
  | moduleState name => exact neverLocked_moduleState place name
  | loadModule m => exact .bind (neverLocked_command _ _) fun _ => .pure _
  | unloadModule name => exact .bind (neverLocked_command _ _) fun _ => .pure _
  | boundDriver a => exact neverLocked_boundDriver place a
  | unbind a driver =>
    exact .bind (neverLocked_writeValue _ _) fun _ => neverLocked_clearOverride place a
  | bind a driver => exact neverLocked_bind place a driver
  | listDevices filter => exact .bind (neverLocked_command _ _) fun _ => .pure _
  | homeDriver a => exact .bind (neverLocked_loadMetadata place) fun _ => .pure _
  | setHome a driver =>
    refine .bind (neverLocked_loadMetadata place) fun d => .bind (.lift _) fun time => ?_
    exact neverLocked_saveMetadata place _
  | clearHome a =>
    refine .bind (neverLocked_loadMetadata place) fun d => ?_
    split
    · exact neverLocked_saveMetadata place _
    · exact .pure _
  | recordedDevices => exact .bind (neverLocked_loadMetadata place) fun _ => .pure _

/-- A host answers no call by reporting the run lock, whatever the operating system is. -/
theorem lockless_answer (os : Handler osSignature σ) (c : StoreCall) (s : σ) :
    Lockless (place.answer os c s).1 :=
  (Prog.Ensures.of_calls (fun _ => ()) (neverLocked_serve place c) fun _ _ => trivial).2

end Sysfs

/-! ## Runs -/

open StoreTerms CatalogProg

/-- The terms on which no call reports the run lock. -/
def StoreTerms.lockless : StoreTerms σ := fun _ _ r _ => Lockless r

variable {c : Catalog} {s : σ}

/-- A host that reports no run lock keeps these terms. -/
theorem CatalogProg.Ensures.of_lockless {store : StoreHandler σ} {K : StoreTerms σ}
    {p : CatalogProg α} {Q : α → Catalog → σ → Prop}
    (sober : ∀ call s, Lockless (store call s).1) (contract : Ensures lockless K p c s Q) :
    Ensures (of store) K p c s Q := by
  refine contract.weaken (fun call s r s' answered => ?_) fun _ _ _ _ _ kept => kept
  have reply : (store call s).1 = r := congrArg Prod.fst answered
  exact reply ▸ sober call s

namespace Catalog

/-- Taking in a listing fails as asking for the records does. -/
theorem lockless_enlistAll (index : Nat) (ds : List Descriptor) :
    Ensures lockless free (enlistAll index ds).run c s fun r _ _ => Lockless r := by
  induction ds generalizing index c s with
  | nil => exact lockless_ok _
  | cons d ds ih =>
    rw [ensures_enlistAll_cons]
    intro reply s' fine
    refine ⟨trivial, ?_⟩
    cases reply with
    | error e => exact Lockless.failed fine
    | ok home =>
      apply (ih (index + 1)).mono
      intro others c' s' fine'
      cases others with
      | error e => exact fine'.failed
      | ok others => exact lockless_ok _

/-- A listing fails as its calls do. -/
theorem lockless_enumerate (filter : DeviceFilter) :
    Ensures lockless free (enumerate filter).run c s fun r _ _ => Lockless r := by
  rw [ensures_enumerate]
  intro reply s' fine
  refine ⟨trivial, ?_⟩
  cases reply with
  | error e => exact Lockless.failed fine
  | ok ds => exact lockless_enlistAll 0 ds

/-- Devices on record that cannot be read are passed over, not reported. -/
theorem lockless_adoptAll (recorded : List (PciAddress × String)) :
    Ensures lockless free (adoptAll recorded).run c s fun r _ _ => Lockless r := by
  induction recorded generalizing c s with
  | nil => exact lockless_ok _
  | cons entry rest ih =>
    obtain ⟨a, home⟩ := entry
    rw [ensures_adoptAll_cons]
    split
    · exact ih
    · intro reply s' _
      refine ⟨trivial, ?_⟩
      cases reply with
      | ok current => exact ih
      | error e =>
        apply ih.mono
        intro missing c' s' fine
        cases missing with
        | error e => exact fine
        | ok missing => exact lockless_ok _

/-- Taking in the devices on record fails as its calls do. -/
theorem lockless_adoptRecorded :
    Ensures lockless free adoptRecorded.run c s fun r _ _ => Lockless r := by
  rw [ensures_adoptRecorded]
  intro reply s' fine
  refine ⟨trivial, ?_⟩
  cases reply with
  | error e => exact Lockless.failed fine
  | ok recorded => exact lockless_adoptAll _

end Catalog

/-- A device that a setup may not name is no reason to report the run lock. -/
theorem Plan.lockless_admissible (c : Catalog) (devices : List PciAddress) :
    Lockless (admissible c devices) := by
  unfold admissible
  rw [List.forM_eq_forM]
  induction devices with
  | nil => exact lockless_ok _
  | cons a rest ih =>
    rw [List.forM_cons]
    split
    · exact lockless_error rfl
    · split
      · exact lockless_error rfl
      · exact ih

/-- A setup is rejected for its listing or for its devices, never for the run lock. -/
theorem lockless_plan_setup (filter : DeviceFilter) (g : SetupGoal) :
    Ensures lockless free (plan filter (.setup g)).run c s fun r _ _ => Lockless r := by
  rw [ensures_plan_setup]
  apply (Catalog.lockless_enumerate filter).mono
  intro listed c' s' fine
  cases listed with
  | error e => exact Lockless.failed fine
  | ok candidates =>
    rw [skipOnError_ok]
    cases judged : Plan.admissible c' g.devices.toList with
    | error e => exact (judged ▸ Plan.lockless_admissible c' g.devices.toList).failed
    | ok _ => exact (HostProg.ensures_true _).mono fun v _ _ => lockless_ok _

/-- A teardown is rejected for its records, never for the run lock. -/
theorem Teardown.lockless_prepare (filter : DeviceFilter) :
    Ensures lockless free (prepare filter).run c s fun r _ _ => Lockless r := by
  rw [ensures_prepare]
  apply (Catalog.lockless_enumerate filter).mono
  intro _ c' s' _
  apply Catalog.lockless_adoptRecorded.mono
  intro adopted c'' s'' fine
  cases adopted with
  | error e => exact Lockless.failed fine
  | ok _ => exact lockless_ok _

end Provision
