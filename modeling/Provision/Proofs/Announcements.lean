import Provision.Proofs.Contract.Engine
import Provision.Proofs.Contract.Trace

/-!
# Announcements of runs

Only the frame of a run announces states: it announces that it probes, each step
that it comes to, and how it ends.  The programs that it is made of announce
nothing, so whatever they do is done in the state that the frame announced last.
Plans and reports announce nothing at all.

Main results:

- `Setup.silent_apply`, `Setup.silent_undoAll`: making steps and undoing changes
  announces nothing.
- `Setup.runs_abort`: all that is undone is undone while the setup rolls back.
- `Setup.runs_applyFrom_cons`: the trace of one step of a setup.
- `Setup.runs_run`: the trace of a setup.
- `Teardown.runs_restoreFrom_cons`, `Teardown.runs_run`: the trace of a teardown.
- `silent_plan`, `Engine.silent_status`: plans and reports.
-/

namespace Provision

open CatalogProg

variable {α σ : Type}

/-! ## Programs that announce nothing -/

/-- A call whose failure is looked at announces nothing. -/
theorem CatalogProg.silent_look_at (call : StoreCall) :
    Silent (liftM (HostM.ask call).result : CatalogM (Except Error call.Value)).run :=
  fun _ => ⟨nofun, fun _ => trivial⟩

namespace Catalog

/-- Asking for a home driver announces nothing, whether the catalog or the host answers. -/
theorem silent_homeDriver (a : PciAddress) : Silent (homeDriver a).run := by
  refine silent_then silent_look fun c => ?_
  split
  · exact silent_pure _
  · exact silent_ask _

/-- Putting a home driver on record announces nothing, whether a record is made or not. -/
theorem silent_recordHome (a : PciAddress) (driver : String) :
    Silent (recordHome a driver).run := by
  refine silent_then silent_look fun c => ?_
  split
  · exact silent_pure _
  · refine silent_then (silent_homeDriver a) fun home => ?_
    split
    · exact silent_pure _
    · refine silent_then (silent_ask _) fun _ => ?_
      exact silent_then (silent_note _) fun _ => silent_pure _

/-- Taking a record back announces nothing. -/
theorem silent_forgetHome (a : PciAddress) : Silent (forgetHome a).run :=
  silent_then (silent_ask _) fun _ => silent_note _

theorem silent_discard (a : PciAddress) : Silent (discard a).run :=
  silent_then (silent_ask _) fun _ => silent_note _

/-- Taking in a listing announces nothing, however long it is. -/
theorem silent_enlistAll (index : Nat) (ds : List Descriptor) :
    Silent (enlistAll index ds).run := by
  induction ds generalizing index with
  | nil => exact silent_pure _
  | cons d ds ih =>
    refine silent_then (silent_ask _) fun home => silent_then silent_look fun c => ?_
    refine silent_then (silent_note _) fun _ => silent_then (ih (index + 1)) fun others => ?_
    exact silent_pure _

/-- Listing the devices announces nothing. -/
theorem silent_enumerate (filter : DeviceFilter) : Silent (enumerate filter).run :=
  silent_then (silent_ask _) fun ds => silent_enlistAll 0 ds

/-- Taking in devices on record announces nothing, whether they can be read or not. -/
theorem silent_adoptAll (recorded : List (PciAddress × String)) :
    Silent (adoptAll recorded).run := by
  induction recorded with
  | nil => exact silent_pure _
  | cons entry rest ih =>
    refine silent_then silent_look fun c => ?_
    split
    · exact ih
    · refine silent_then (silent_look_at _) fun result => ?_
      split
      · exact silent_then (silent_note _) fun _ => ih
      · exact silent_then ih fun missing => silent_pure _

/-- Looking for devices on record announces nothing. -/
theorem silent_adoptRecorded : Silent adoptRecorded.run :=
  silent_then (silent_ask _) fun recorded => silent_adoptAll recorded.entries

end Catalog

namespace Binding

/-- Unbinding a device announces nothing, nor does taking its record back when that fails. -/
theorem silent_detach (a : PciAddress) (driver : String) (recorded : Bool) :
    Silent (detach a driver recorded).run := by
  refine silent_then (silent_look_at _) fun result => ?_
  split
  · show Silent (ExceptT.run (if recorded then _ else _))
    split
    · refine silent_then ?_ fun _ => silent_pure _
      exact silent_recover (Catalog.silent_forgetHome a) fun _ => silent_pure _
    · exact silent_pure _
  · exact silent_note _

/-- Putting a device on record and unbinding it announces nothing. -/
theorem silent_release (a : PciAddress) (current : Option String) :
    Silent (release a current).run := by
  cases current with
  | none => exact silent_pure _
  | some driver =>
    refine silent_then (Catalog.silent_recordHome a driver) fun recorded => ?_
    exact silent_then (silent_detach a driver recorded) fun _ => silent_pure _

/-- Binding a device announces nothing, also when it is stranded. -/
theorem silent_attach (a : PciAddress) (target : String) (prior : Option String)
    (recorded : Bool) : Silent (attach a target prior recorded).run := by
  refine silent_then (fun _ => ⟨nofun, fun _ => trivial⟩) fun result => ?_
  split
  · exact silent_pure _
  · exact silent_then (silent_note _) fun _ => silent_pure _

/-- Handing a device over announces nothing. -/
theorem silent_handOver (a : PciAddress) (target : String) : Silent (handOver a target).run := by
  refine silent_then (silent_move (silent_ask _)) fun current => ?_
  split
  · exact silent_then (silent_note _) fun _ => silent_pure _
  · refine silent_then (silent_move (silent_release a current)) fun recorded => ?_
    exact silent_map _ (silent_attach a target current recorded)

/-- Binding a device to the driver that it had before announces nothing. -/
theorem silent_reattach (a : PciAddress) (prior current : Option String) :
    Silent (reattach a prior current).run := by
  cases prior with
  | none => exact silent_pure _
  | some driver =>
    refine silent_then (silent_look_at _) fun result => ?_
    split
    · exact silent_pure _
    · exact silent_note _

/-- Bringing a device back announces nothing. -/
theorem silent_bringBack (a : PciAddress) (prior : Option String) :
    Silent (bringBack a prior).run := by
  refine silent_then (silent_ask _) fun current => ?_
  split
  · exact silent_note _
  · cases current with
    | none => exact silent_reattach a prior none
    | some driver =>
      exact silent_then (silent_detach a driver false) fun _ => silent_reattach a prior _

/-- Restoring a device announces nothing. -/
theorem silent_restore (a : PciAddress) : Silent (restore a).run := by
  refine silent_then (Catalog.silent_homeDriver a) fun home => ?_
  split
  · exact silent_pure _
  · exact silent_then (silent_bringBack a _) fun _ => Catalog.silent_discard a

end Binding

/-- Requiring a module announces nothing, whether it has to be loaded or not. -/
theorem Loading.silent_require (m : ModuleRequest) : HostProg.Silent (require m).run := by
  refine HostProg.silent_then (HostProg.silent_ask _) fun state => ?_
  split
  · split <;> trivial
  · refine HostProg.silent_mapOk _ (HostProg.silent_then ?_ fun _ => ?_)
    · exact HostProg.silent_adapt _ (HostProg.silent_ask _)
    · refine HostProg.silent_then (HostProg.silent_ask _) fun after => ?_
      split <;> trivial

/-- Mounting announces nothing. -/
theorem Reserving.silent_mount (r : Reservation) : HostProg.Silent (mount r).run := by
  refine HostProg.silent_then (HostProg.silent_ask _) fun mounted => ?_
  split
  · trivial
  · refine HostProg.silent_then ?_ fun _ => HostProg.silent_pure _
    exact HostProg.silent_adapt _ (HostProg.silent_ask _)

/-- Reserving pages announces nothing, whether the pool has to be resized or not. -/
theorem Reserving.silent_reserve (r : Reservation) : HostProg.Silent (reserve r).run := by
  refine HostProg.silent_then (HostProg.silent_ask _) fun mounted => ?_
  split
  · refine HostProg.silent_then (HostProg.silent_ask _) fun previous => ?_
    split
    · trivial
    · refine HostProg.silent_mapOk _ (HostProg.silent_then (HostProg.silent_ask _) fun _ => ?_)
      exact HostProg.silent_then (HostProg.silent_ask _) fun granted => HostProg.silent_pure _
  · trivial

namespace Survey

/-- A single look at a resource announces nothing. -/
theorem silent_observe (call : StoreCall) : HostProg.Silent (observe call) :=
  HostProg.silent_map _ (HostProg.silent_ask call)

theorem silent_modules (ms : List ModuleRequest) (v : HostView) :
    HostProg.Silent (modules ms v) := by
  induction ms generalizing v with
  | nil => trivial
  | cons m ms ih => exact HostProg.silent_bind (silent_observe _) fun state => ih _

theorem silent_drivers (devices : List PciAddress) (v : HostView) :
    HostProg.Silent (drivers devices v) := by
  induction devices generalizing v with
  | nil => trivial
  | cons a rest ih => exact HostProg.silent_bind (silent_observe _) fun driver => ih _

/-- A survey announces nothing, with pages or without them. -/
theorem silent_take (ms : List ModuleRequest) (r : Option Reservation) (devices : List PciAddress) :
    HostProg.Silent (take ms r devices) := by
  refine HostProg.silent_bind (silent_modules ms {}) fun v => ?_
  cases r with
  | none => exact silent_drivers devices v
  | some r =>
    refine HostProg.silent_bind ?_ fun v => silent_drivers devices v
    refine HostProg.silent_bind (silent_observe _) fun mounted => ?_
    exact HostProg.silent_bind (silent_observe _) fun count => HostProg.silent_pure _

end Survey

/-- Making the plan of a setup announces nothing. -/
theorem silent_plan_setup (filter : DeviceFilter) (g : SetupGoal) :
    Silent (plan filter (.setup g)).run := by
  refine silent_then (Catalog.silent_enumerate filter) fun _ => silent_then silent_look fun c => ?_
  refine silent_then (silent_pure _) fun _ => silent_then ?_ fun v => silent_pure _
  exact silent_succeed (silent_lift (Survey.silent_take _ _ _))

/-- Finding out what is to be restored announces nothing. -/
theorem Plan.silent_restoreSteps (v : HostView) (devices : List PciAddress) :
    Silent (restoreSteps v devices).run := by
  induction devices with
  | nil => exact silent_pure _
  | cons a rest ih =>
    refine silent_then (Catalog.silent_homeDriver a) fun home => ?_
    cases home with
    | none => exact ih
    | some driver => exact silent_then ih fun others => silent_pure _

/-- Making a plan announces nothing. -/
theorem silent_plan (filter : DeviceFilter) (goal : Goal) : Silent (plan filter goal).run := by
  cases goal with
  | setup g => exact silent_plan_setup filter g
  | teardown devices =>
    refine silent_then (Catalog.silent_enumerate filter) fun _ => ?_
    refine silent_then Catalog.silent_adoptRecorded fun _ => silent_then ?_ fun v => ?_
    · exact silent_succeed (silent_lift (Survey.silent_take _ _ _))
    · exact Plan.silent_restoreSteps v _

namespace Engine

variable (policy : Policy)

/-- Telling which devices a setup may name announces nothing. -/
theorem silent_eligibleDevices : Silent (eligibleDevices policy).run :=
  silent_then (Catalog.silent_enumerate _) fun _ => silent_pure _

/-- Telling which devices are on record announces nothing. -/
theorem silent_recordedDevices : Silent (recordedDevices policy).run := by
  refine silent_then (silent_then (Catalog.silent_enumerate _) fun _ => silent_pure _) fun _ => ?_
  exact silent_then Catalog.silent_adoptRecorded fun _ =>
    silent_then silent_look fun _ => silent_pure _

/-- Reporting what a setup would find announces nothing. -/
theorem silent_status (r : Reservation) (ms : List ModuleRequest) :
    Silent (status policy r ms).run := by
  refine silent_then (Catalog.silent_enumerate _) fun _ => silent_then ?_ fun v => silent_pure _
  exact silent_succeed (silent_lift (Survey.silent_take _ _ _))

end Engine

namespace Setup

/-- Making a step announces nothing. -/
theorem silent_apply (step : Step) : Silent (apply step).run := by
  cases step with
  | loadModule m => exact silent_move (silent_attempt (Loading.silent_require m))
  | mount r => exact silent_move (silent_attempt (Reserving.silent_mount r))
  | reserve r => exact silent_move (silent_attempt (Reserving.silent_reserve r))
  | rebind a driver => exact Binding.silent_handOver a driver
  | restore a driver =>
    exact silent_then (silent_move (Binding.silent_restore a)) fun _ => silent_pure _

/-- Undoing a change announces nothing. -/
theorem silent_undo (ch : Change) : Silent (undo ch).run := by
  have device (a : PciAddress) (prior : Option String) (recorded : Bool) :
      Silent (undo (.rebound a prior recorded)).run := by
    refine silent_then (Binding.silent_bringBack a prior) fun _ => ?_
    split
    · exact Catalog.silent_forgetHome a
    · exact silent_pure _
  cases ch with
  | moduleLoaded name => exact silent_attempt (HostProg.silent_ask _)
  | mounted path pageKb => exact silent_attempt (HostProg.silent_ask _)
  | reserved pool previous => exact silent_attempt (HostProg.silent_ask _)
  | rebound a prior recorded => exact device a prior recorded
  | stranded a prior recorded => exact device a prior recorded

/-- Undoing changes announces nothing. -/
theorem silent_undoAll (changes : List Change) : Silent (undoAll changes) := by
  induction changes with
  | nil => exact silent_pure _
  | cons ch older ih =>
    refine silent_bind (silent_undo ch) fun result => silent_bind ih fun report => ?_
    cases result <;> exact silent_pure _

/-- Looking at the clock announces nothing. -/
theorem silent_isLate (timeout : Option Nat) (index : Nat) :
    HostProg.Silent (isLate timeout index) := by
  unfold isLate
  split
  · split
    · trivial
    · exact HostProg.silent_bind ⟨nofun, fun _ => trivial⟩ fun _ => HostProg.silent_pure _
  · trivial

/-! ## Traces of a setup -/

variable {store : StoreHandler σ} {clock : Nat → Nat} {c : Catalog} {w : World σ}
  {R : List (World.Event σ) → Outcome → Catalog → World σ → Prop}

/-- Looking at the clock makes no call. -/
theorem runs_isLate (timeout : Option Nat) (index : Nat) :
    Runs store clock (liftM (isLate timeout index)) c w fun reading _ _ w' =>
      World.storeEvents reading = [] ∧ w'.state = w.state ∧ w'.host = w.host := by
  have contract : CatalogProg.Ensures (.of store) (fun _ _ _ _ => False)
      (liftM (isLate timeout index)) c w.host fun _ _ s' => s' = w.host :=
    (ensures_lift _).2 (ensures_isLate timeout index fun _ => rfl)
  apply ((silent_lift (silent_isLate timeout index)).runs.and (contract.runs clock)).mono
  intro reading late c' w' read
  obtain ⟨⟨_, state⟩, none, host⟩ := read
  exact ⟨List.eq_nil_iff_forall_not_mem.2 none, state, host⟩

/-- All that is undone is undone while the setup rolls back. -/
theorem runs_abort (e : Error) (journal : Journal) :
    Runs store clock (abort e journal) c w R ↔
      Runs store clock (undoAll journal.newestFirst) c (w.announce .rollingBack)
        fun undoing report c' w' =>
          R (w.announcing .rollingBack :: (undoing ++ [w'.announcing .failed]))
            (.rolledBack e report) c' (w'.announce .failed) := by
  unfold abort
  rw [runs_bind, runs_announce, runs_bind]
  exact Iff.rfl

/-- After the last step, all that a setup does is to announce that it is committed. -/
theorem runs_applyFrom_nil (timeout : Option Nat) (total index : Nat) (p : Progress) :
    Runs store clock (applyFrom timeout total index [] p) c w R ↔
      R [w.announcing .committed] (.committed p.journal p.applied p.skipped) c
        (w.announce .committed) := by
  rw [applyFrom, runs_bind, runs_announce]
  exact Iff.rfl

/-- What remains of a setup after a step was made. -/
def afterStep (timeout : Option Nat) (total index : Nat) (rest : List PlannedStep) (p : Progress) :
    Except Binding.Failure (Option Change) → CatalogProg Outcome
  | .ok (some ch) => applyFrom timeout total (index + 1) rest (p.note ch)
  | .ok none => applyFrom timeout total (index + 1) rest p.skip
  | .error f => abort f.error (p.journal ++ f.stranded.toList)

/-- A step is announced before the clock is looked at, and then passed over or made. -/
theorem runs_applyFrom_cons (timeout : Option Nat) (total index : Nat) (planned : PlannedStep)
    (rest : List PlannedStep) (p : Progress) :
    Runs store clock (applyFrom timeout total index (planned :: rest) p) c w R ↔
      Runs store clock (liftM (isLate timeout index)) c (w.announce (.applying (index + 1) total))
        fun reading late c' w' =>
          let R' trace := R (w.announcing (.applying (index + 1) total) :: (reading ++ trace))
          if late then Runs store clock (abort (.timedOut index) p.journal) c' w' R'
          else if planned.satisfied then
            Runs store clock (applyFrom timeout total (index + 1) rest p.skip) c' w' R'
          else Runs store clock (apply planned.step).run c' w' fun making result c'' w'' =>
            Runs store clock (afterStep timeout total index rest p result) c'' w''
              fun later => R' (making ++ later) := by
  rw [applyFrom, runs_bind, runs_announce, runs_bind]
  apply runs_congr
  intro reading late c' w'
  by_cases hl : late
  · rw [if_pos hl, if_pos hl]
    exact Iff.rfl
  · rw [if_neg hl, if_neg hl]
    by_cases hp : planned.satisfied
    · rw [if_pos hp, if_pos hp]
      exact Iff.rfl
    · rw [if_neg hp, if_neg hp, runs_bind]
      apply runs_congr
      intro making result c'' w''
      rcases result with f | _ | ch <;> exact Iff.rfl

/-- A setup announces that it probes before it makes its plan. -/
theorem runs_run (policy : Policy) (g : SetupGoal) :
    Runs store clock (run policy g) c w R ↔
      Runs store clock (plan policy.filter (.setup g)).run c
        ((w.announce .idle).announce .probing) fun planning result c' w' =>
          let R' trace := R (w.announcing .idle :: (w.announce .idle).announcing .probing ::
            (planning ++ trace))
          match result with
          | .error e => R' [w'.announcing .failed] (.rejected e) c' (w'.announce .failed)
          | .ok steps => Runs store clock (carryOut policy.timeout steps) c' w' R' := by
  unfold run
  rw [runs_bind, runs_announce, runs_bind, runs_announce, runs_bind]
  apply runs_congr
  intro planning result c' w'
  cases result <;> exact Iff.rfl

end Setup

/-! ## Traces of a teardown -/

namespace Teardown

/-- Bringing one device back announces nothing. -/
theorem silent_restoreOne (a : PciAddress) : Silent (restoreOne a) := by
  refine silent_bind (Catalog.silent_homeDriver a) fun home => ?_
  rcases home with e | _ | driver
  · exact silent_pure _
  · exact silent_bind (fun _ => trivial) fun c => silent_pure _
  · refine silent_bind (Setup.silent_apply _) fun result => ?_
    cases result <;> exact silent_pure _

/-- Finding the devices of a teardown announces nothing, also when the listing fails. -/
theorem silent_prepare (filter : DeviceFilter) : Silent (prepare filter).run := by
  refine silent_then (silent_recover ?_ fun _ => silent_pure _) fun _ => ?_
  · exact silent_map _ (Catalog.silent_enumerate filter)
  · exact silent_map _ Catalog.silent_adoptRecorded

variable {store : StoreHandler σ} {clock : Nat → Nat} {c : Catalog} {w : World σ}

theorem runs_restoreFrom_nil (total index : Nat)
    {R : List (World.Event σ) → TeardownReport → Catalog → World σ → Prop} :
    Runs store clock (restoreFrom total index []) c w R ↔ R [] {} c w := Iff.rfl

/-- A device is announced before it is brought back. -/
theorem runs_restoreFrom_cons (total index : Nat) (a : PciAddress) (rest : List PciAddress)
    {R : List (World.Event σ) → TeardownReport → Catalog → World σ → Prop} :
    Runs store clock (restoreFrom total index (a :: rest)) c w R ↔
      Runs store clock (restoreOne a) c (w.announce (.applying (index + 1) total))
        fun restoring fate c' w' =>
          Runs store clock (restoreFrom total (index + 1) rest) c' w' fun later report =>
            R (w.announcing (.applying (index + 1) total) :: (restoring ++ later))
              (note a fate report) := by
  rw [restoreFrom, runs_bind, runs_announce, runs_bind]
  apply runs_congr
  intro restoring fate c' w'
  rw [runs_bind]
  apply runs_congr
  intro later report c'' w''
  show R ([_] ++ (restoring ++ (later ++ []))) _ _ _ ↔ _
  rw [List.append_nil]
  exact Iff.rfl

/-- A teardown announces that it probes before it comes to its devices. -/
theorem runs_run (policy : Policy) (devices : SortedSet PciAddress)
    {R : List (World.Event σ) → Outcome → Catalog → World σ → Prop} :
    Runs store clock (run policy devices) c w R ↔
      Runs store clock (prepare policy.filter).run c ((w.announce .idle).announce .probing)
        fun preparing result c' w' =>
          let R' trace := R (w.announcing .idle :: (w.announce .idle).announcing .probing ::
            (preparing ++ trace))
          match result with
          | .error e => R' [w'.announcing .failed] (.rejected e) c' (w'.announce .failed)
          | .ok _ =>
            Runs store clock (restoreFrom devices.toList.length 0 devices.toList) c' w'
              fun restoring report c'' w'' =>
                let ends := if report.unrestored.isEmpty then RunState.committed else .failed
                R' (restoring ++ [w''.announcing ends]) (.tornDown report) c''
                  (w''.announce ends) := by
  unfold run
  rw [runs_bind, runs_announce, runs_bind, runs_announce, runs_bind]
  apply runs_congr
  intro preparing result c' w'
  cases result with
  | error e => exact Iff.rfl
  | ok _ =>
    rw [runs_bind]
    exact Iff.rfl

end Teardown

end Provision
