import Provision.Engine.Run
import Provision.Proofs.Contract.Host

/-!
# Contracts of the engine's programs

One rule for each program of the engine: what its contract comes to, as conditions
on the calls that it makes and on the programs that it is made of.  All that is
proved about the engine is proved from these rules, on whatever terms the calls
are answered.

Main results:

- `Binding.ensures_handOver`, `Binding.ensures_bringBack`: moving a device to a
  driver, and back.
- `Setup.ensures_undoAll_cons`: changes are undone one by one.
- `Setup.ensures_applyFrom_cons`: one step of a setup.
- `Teardown.ensures_restoreOne`: one device of a teardown.
-/

namespace Provision

open StoreTerms CatalogProg

variable {α σ : Type} {A K : StoreTerms σ} {c : Catalog} {s : σ}

/-! ## The catalog -/

namespace Catalog

/-- The home driver of a device, as far as the catalog knows it. -/
def home? (c : Catalog) (a : PciAddress) : Option String := (c.device? a).bind (·.homeDriver)

/-- The catalog is asked first, and the durable record only when the catalog knows nothing. -/
theorem ensures_homeDriver (a : PciAddress)
    {Q : Except Error (Option String) → Catalog → σ → Prop} :
    Ensures A K (homeDriver a).run c s Q ↔
      match c.home? a with
      | some driver => Q (.ok (some driver)) c s
      | none => Asks A K (.homeDriver a) s fun r s' => Q r c s' := by
  unfold homeDriver
  rw [ensures_then, ensures_look]
  show Ensures A K (ExceptT.run (match c.home? a with
    | some driver => pure (some driver)
    | none => liftM (HostM.ask (.homeDriver a)))) c s Q ↔ _
  cases c.home? a <;> exact Iff.rfl

/-- Nothing is put on record for a driver that hands devices to user space, or over a record. -/
theorem ensures_recordHome (a : PciAddress) (driver : String)
    {Q : Except Error Bool → Catalog → σ → Prop} :
    Ensures A K (recordHome a driver).run c s Q ↔
      if c.isPassthrough driver then Q (.ok false) c s
      else Ensures A K (homeDriver a).run c s (skipOnError Q fun home c s =>
        match home with
        | some _ => Q (.ok false) c s
        | none => Asks A K (.setHome a driver) s fun r s' =>
            skipOnError Q (fun _ c s => Q (.ok true) (c.noteHome a (some driver)) s) r c s') := by
  unfold recordHome
  rw [ensures_then, ensures_look, skipOnError_ok]
  by_cases h : c.isPassthrough driver
  · rw [if_pos h, if_pos h, ensures_done]
  · rw [if_neg h, if_neg h, ensures_then]
    refine ensures_congr fun r c' s' => skipOnError_congr fun home => ?_
    cases home with
    | some d => exact Iff.rfl
    | none => exact ensures_then _ _

/-- That a record was taken back is noted when it was. -/
theorem ensures_forgetHome (a : PciAddress) {Q : Except Error Unit → Catalog → σ → Prop} :
    Ensures A K (forgetHome a).run c s Q ↔
      Asks A K (.clearHome a) s fun r s' =>
        skipOnError Q (fun _ c s => Q (.ok ()) (c.noteHome a none) s) r c s' :=
  ensures_then _ _

/-- A device is forgotten when its record was removed. -/
theorem ensures_discard (a : PciAddress) {Q : Except Error Unit → Catalog → σ → Prop} :
    Ensures A K (discard a).run c s Q ↔
      Asks A K (.clearHome a) s fun r s' =>
        skipOnError Q (fun _ c s => Q (.ok ()) (c.drop a) s) r c s' :=
  ensures_then _ _

theorem ensures_enlistAll_nil (index : Nat)
    {Q : Except Error (List Candidate) → Catalog → σ → Prop} :
    Ensures A K (enlistAll index []).run c s Q ↔ Q (.ok []) c s := Iff.rfl

/-- A device of the listing is taken in with its durable record. -/
theorem ensures_enlistAll_cons (index : Nat) (d : Descriptor) (ds : List Descriptor)
    {Q : Except Error (List Candidate) → Catalog → σ → Prop} :
    Ensures A K (enlistAll index (d :: ds)).run c s Q ↔
      Asks A K (.homeDriver d.address) s fun r s' =>
        skipOnError Q (fun home c s =>
          Ensures A K (enlistAll (index + 1) ds).run (c.enlist index (d.tracked home)) s
            (skipOnError Q fun others c' s' =>
              Q (.ok (⟨d.tracked home, decide (index < c.reserveLeading)⟩ :: others)) c' s'))
          r c s' := by
  rw [enlistAll]
  refine (ensures_then _ _).trans (asks_congr fun r s' => skipOnError_congr fun home => ?_)
  rw [ensures_then, ensures_look, skipOnError_ok, ensures_then, ensures_note, skipOnError_ok,
    ensures_then]
  exact ensures_congr fun r c' s' => skipOnError_congr fun others => Iff.rfl

/-- The devices are taken in when they can be listed. -/
theorem ensures_enumerate (filter : DeviceFilter)
    {Q : Except Error (List Candidate) → Catalog → σ → Prop} :
    Ensures A K (enumerate filter).run c s Q ↔
      Asks A K (.listDevices filter) s fun r s' =>
        skipOnError Q (fun ds c s => Ensures A K (enlistAll 0 ds).run c s Q) r c s' :=
  ensures_then _ _

theorem ensures_adoptAll_nil {Q : Except Error (List PciAddress) → Catalog → σ → Prop} :
    Ensures A K (adoptAll []).run c s Q ↔ Q (.ok []) c s := Iff.rfl

/-- A device on record that is not known is taken in when its driver can be read. -/
theorem ensures_adoptAll_cons (a : PciAddress) (home : String) (rest : List (PciAddress × String))
    {Q : Except Error (List PciAddress) → Catalog → σ → Prop} :
    Ensures A K (adoptAll ((a, home) :: rest)).run c s Q ↔
      if (c.device? a).isSome then Ensures A K (adoptAll rest).run c s Q
      else Asks A K (.boundDriver a) s fun r s' =>
        match r with
        | .ok current =>
          Ensures A K (adoptAll rest).run
            { c with records := c.records.insert a (adopted a current home) } s' Q
        | .error _ =>
          Ensures A K (adoptAll rest).run c s'
            (skipOnError Q fun missing c s => Q (.ok (a :: missing)) c s) := by
  rw [adoptAll, ensures_then, ensures_look, skipOnError_ok]
  by_cases h : (c.device? a).isSome
  · rw [if_pos h, if_pos h]
  · rw [if_neg h, if_neg h]
    refine (ensures_then _ _).trans (asks_congr fun r s' => ?_)
    cases r with
    | ok current => exact ensures_then _ _
    | error e => exact ensures_then _ _

/-- The devices on record are taken in when the records can be read. -/
theorem ensures_adoptRecorded {Q : Except Error (List PciAddress) → Catalog → σ → Prop} :
    Ensures A K adoptRecorded.run c s Q ↔
      Asks A K .recordedDevices s fun r s' =>
        skipOnError Q (fun recorded c s => Ensures A K (adoptAll recorded.entries).run c s Q)
          r c s' :=
  ensures_then _ _

end Catalog

/-! ## Moving devices -/

namespace Binding

/-- A record that was made for a device is taken back when the device cannot be unbound. -/
theorem ensures_detach (a : PciAddress) (driver : String) (recorded : Bool)
    {Q : Except Error Unit → Catalog → σ → Prop} :
    Ensures A K (detach a driver recorded).run c s Q ↔
      Asks A K (.unbind a driver) s fun r s' =>
        match r with
        | .ok _ => Q (.ok ()) (c.noteBinding a none) s'
        | .error e =>
          if recorded then
            Asks A K (.clearHome a) s' fun r s' =>
              match r with
              | .ok _ =>
                Q (.error (.unbindFailed (toString a) driver e.message)) (c.noteHome a none) s'
              | .error _ => Q (.error (.unbindFailed (toString a) driver e.message)) c s'
          else Q (.error (.unbindFailed (toString a) driver e.message)) c s' := by
  unfold detach
  refine (ensures_then _ _).trans (asks_congr fun r s' => ?_)
  cases r with
  | ok _ => exact Iff.rfl
  | error e =>
    cases recorded with
    | false => exact Iff.rfl
    | true =>
      refine (ensures_then _ _).trans ?_
      rw [ensures_recover, Catalog.ensures_forgetHome]
      apply asks_congr
      intro r s''
      cases r <;> exact Iff.rfl

/-- A device is unbound after it was put on record, and not when that fails. -/
theorem ensures_release (a : PciAddress) (current : Option String)
    {Q : Except Error Bool → Catalog → σ → Prop} :
    Ensures A K (release a current).run c s Q ↔
      match current with
      | none => Q (.ok false) c s
      | some driver =>
        Ensures A K (Catalog.recordHome a driver).run c s (skipOnError Q fun recorded c s =>
          Ensures A K (detach a driver recorded).run c s
            (skipOnError Q fun _ c s => Q (.ok recorded) c s)) := by
  cases current with
  | none => exact Iff.rfl
  | some driver =>
    refine (ensures_then _ _).trans ?_
    exact ensures_congr fun r c' s' => skipOnError_congr fun recorded => ensures_then _ _

/-- A device that was unbound and cannot be bound is stranded. -/
theorem ensures_attach (a : PciAddress) (target : String) (prior : Option String) (recorded : Bool)
    {Q : Except Failure Change → Catalog → σ → Prop} :
    Ensures A K (attach a target prior recorded).run c s Q ↔
      Asks A K (.bind a target) s fun r s' =>
        match r with
        | .ok _ => Q (.ok (.rebound a prior recorded)) (c.noteBinding a (some target)) s'
        | .error e =>
          Q (.error ⟨.bindFailed (toString a) target prior e.message,
            prior.map fun _ => .stranded a prior recorded⟩) c s' := by
  unfold attach
  refine (ensures_then _ _).trans (asks_congr fun r s' => ?_)
  cases r <;> exact Iff.rfl

/-- A device is moved only when it is not bound to the driver already. -/
theorem ensures_handOver (a : PciAddress) (target : String)
    {Q : Except Failure (Option Change) → Catalog → σ → Prop} :
    Ensures A K (handOver a target).run c s Q ↔
      Asks A K (.boundDriver a) s fun r s' =>
        match r with
        | .error e => Q (.error (.plain e)) c s'
        | .ok current =>
          if current = some target then Q (.ok none) (c.noteBinding a current) s'
          else Ensures A K (release a current).run c s' fun r c s =>
            match r with
            | .error e => Q (.error (.plain e)) c s
            | .ok recorded =>
              Ensures A K (attach a target current recorded).run c s fun r c s =>
                Q (r.map some) c s := by
  unfold handOver
  refine (ensures_then _ _).trans ((ensures_move _).trans (asks_congr fun r s' => ?_))
  cases r with
  | error e => exact Iff.rfl
  | ok current =>
    show Ensures A K (ExceptT.run (if current = some target then _ else _)) c s' Q ↔
      if current = some target then _ else _
    by_cases h : current = some target
    · rw [if_pos h, if_pos h]
      exact Iff.rfl
    · rw [if_neg h, if_neg h, ensures_then, ensures_move]
      apply ensures_congr
      intro r c' s'
      cases r with
      | error e => exact Iff.rfl
      | ok recorded => exact ensures_map _ _

/-- A device that is not bound any more is bound to the driver it had before. -/
theorem ensures_reattach (a : PciAddress) (prior current : Option String)
    {Q : Except Error Unit → Catalog → σ → Prop} :
    Ensures A K (reattach a prior current).run c s Q ↔
      match prior with
      | none => Q (.ok ()) c s
      | some driver => Asks A K (.bind a driver) s fun r s' =>
          match r with
          | .ok _ => Q (.ok ()) (c.noteBinding a (some driver)) s'
          | .error e => Q (.error (.bindFailed (toString a) driver current e.message)) c s' := by
  cases prior with
  | none => exact Iff.rfl
  | some driver =>
    refine (ensures_then _ _).trans (asks_congr fun r s' => ?_)
    cases r <;> exact Iff.rfl

/-- A device is brought back whatever it is bound to now. -/
theorem ensures_bringBack (a : PciAddress) (prior : Option String)
    {Q : Except Error Unit → Catalog → σ → Prop} :
    Ensures A K (bringBack a prior).run c s Q ↔
      Asks A K (.boundDriver a) s fun r s' =>
        match r with
        | .error e => Q (.error e) c s'
        | .ok current =>
          if current = prior then Q (.ok ()) (c.noteBinding a prior) s'
          else
            match current with
            | none => Ensures A K (reattach a prior current).run c s' Q
            | some driver =>
              Ensures A K (detach a driver false).run c s'
                (skipOnError Q fun _ c s => Ensures A K (reattach a prior current).run c s Q) := by
  unfold bringBack
  refine (ensures_then _ _).trans (asks_congr fun r s' => ?_)
  cases r with
  | error e => exact Iff.rfl
  | ok current =>
    show Ensures A K (ExceptT.run (if current = prior then _ else _)) c s' Q ↔
      if current = prior then _ else _
    by_cases h : current = prior
    · rw [if_pos h, if_pos h]
      exact Iff.rfl
    · rw [if_neg h, if_neg h]
      cases current with
      | none => exact Iff.rfl
      | some driver => exact ensures_then _ _

/-- A device without a record cannot be restored. -/
theorem ensures_restore (a : PciAddress) {Q : Except Error Unit → Catalog → σ → Prop} :
    Ensures A K (restore a).run c s Q ↔
      Ensures A K (Catalog.homeDriver a).run c s (skipOnError Q fun home c s =>
        match home with
        | none => Q (.error (.store "restore" (toString a) "no original driver on record")) c s
        | some driver =>
          Ensures A K (bringBack a (some driver)).run c s
            (skipOnError Q fun _ c s => Ensures A K (Catalog.discard a).run c s Q)) := by
  unfold restore
  refine (ensures_then _ _).trans (ensures_congr fun r c' s' => skipOnError_congr fun home => ?_)
  cases home with
  | none => exact Iff.rfl
  | some driver => exact ensures_then _ _

end Binding

/-! ## Modules and pages -/

namespace Loading

/-- A module is loaded when it is there afterwards; its parameters are not looked at. -/
theorem ensures_loadAbsent (m : ModuleRequest) {Q : Except Error Change → σ → Prop} :
    HostProg.Ensures A K (loadAbsent m).run s Q ↔
      Asks A K (.loadModule m) s fun r s' =>
        match r with
        | .error e => Q (.error (.moduleLoadFailed m.name e.message)) s'
        | .ok _ => Asks A K (.moduleState m.name) s' fun r s' =>
            match r with
            | .error e => Q (.error e) s'
            | .ok after =>
              if after.loaded then Q (.ok (.moduleLoaded m.name)) s'
              else Q (.error (.moduleLoadFailed m.name "module not present after modprobe")) s' := by
  unfold loadAbsent
  rw [HostProg.ensures_then, ExceptT.run_adapt, HostProg.ensures_map]
  apply asks_congr
  intro r s'
  cases r with
  | error e => exact Iff.rfl
  | ok _ =>
    refine (HostProg.ensures_then _ _).trans (asks_congr fun r s' => ?_)
    cases r with
    | error e => exact Iff.rfl
    | ok after =>
      show HostProg.Ensures A K (ExceptT.run (if after.loaded then _ else _)) s' Q ↔
        if after.loaded then _ else _
      by_cases h : after.loaded
      · rw [if_pos h, if_pos h]
        exact Iff.rfl
      · rw [if_neg h, if_neg h]
        exact Iff.rfl

/-- A module is loaded only when it is not loaded, and left alone when it is. -/
theorem ensures_require (m : ModuleRequest) {Q : Except Error (Option Change) → σ → Prop} :
    HostProg.Ensures A K (require m).run s Q ↔
      Asks A K (.moduleState m.name) s fun r s' =>
        match r with
        | .error e => Q (.error e) s'
        | .ok state =>
          if state.loaded then
            match conflict? m state with
            | some (parameter, expected, actual) =>
              Q (.error (.moduleConflict state.name parameter expected actual)) s'
            | none => Q (.ok none) s'
          else HostProg.Ensures A K (loadAbsent m).run s' fun r s' => Q (r.map some) s' := by
  unfold require
  refine (HostProg.ensures_then _ _).trans (asks_congr fun r s' => ?_)
  cases r with
  | error e => exact Iff.rfl
  | ok state =>
    show HostProg.Ensures A K (ExceptT.run (if state.loaded then _ else _)) s' Q ↔
      if state.loaded then _ else _
    by_cases h : state.loaded
    · rw [if_pos h, if_pos h]
      cases conflict? m state <;> exact Iff.rfl
    · rw [if_neg h, if_neg h]
      exact HostProg.ensures_mapOk _ _

end Loading

namespace Reserving

/-- Nothing is mounted where something is mounted already. -/
theorem ensures_mount (r : Reservation) {Q : Except Error (Option Change) → σ → Prop} :
    HostProg.Ensures A K (mount r).run s Q ↔
      Asks A K (.isMounted r.mountPath) s fun reply s' =>
        match reply with
        | .error e => Q (.error e) s'
        | .ok mounted =>
          if mounted then Q (.ok none) s'
          else Asks A K (.mount r.mountPath r.pageKb) s' fun reply s' =>
            match reply with
            | .error e => Q (.error (.mountUnavailable r.mountPath e.message)) s'
            | .ok _ => Q (.ok (some (.mounted r.mountPath r.pageKb))) s' := by
  unfold mount
  refine (HostProg.ensures_then _ _).trans (asks_congr fun reply s' => ?_)
  cases reply with
  | error e => exact Iff.rfl
  | ok mounted =>
    cases mounted with
    | true => exact Iff.rfl
    | false =>
      refine (HostProg.ensures_then _ _).trans ?_
      rw [ExceptT.run_adapt, HostProg.ensures_map]
      apply asks_congr
      intro reply s'
      cases reply <;> exact Iff.rfl

/-- What a pool holds afterwards decides, not what it was asked for. -/
theorem ensures_resize (r : Reservation) (previous : Nat) {Q : Except Error Change → σ → Prop} :
    HostProg.Ensures A K (resize r previous).run s Q ↔
      Asks A K (.setPageCount r.pool r.count) s fun reply s' =>
        match reply with
        | .error e => Q (.error e) s'
        | .ok _ => Asks A K (.pageCount r.pool) s' fun reply s' =>
            match reply with
            | .error e => Q (.error e) s'
            | .ok granted => Q (judge r previous granted) s' := by
  unfold resize
  refine (HostProg.ensures_then _ _).trans (asks_congr fun reply s' => ?_)
  cases reply with
  | error e => exact Iff.rfl
  | ok _ =>
    refine (HostProg.ensures_then _ _).trans (asks_congr fun reply s' => ?_)
    cases reply <;> exact Iff.rfl

/-- A pool is resized only under a mount, and only when it does not do as it is. -/
theorem ensures_reserve (r : Reservation) {Q : Except Error (Option Change) → σ → Prop} :
    HostProg.Ensures A K (reserve r).run s Q ↔
      Asks A K (.isMounted r.mountPath) s fun reply s' =>
        match reply with
        | .error e => Q (.error e) s'
        | .ok mounted =>
          if mounted then
            Asks A K (.pageCount r.pool) s' fun reply s' =>
              match reply with
              | .error e => Q (.error e) s'
              | .ok previous =>
                if r.isMetBy previous then Q (.ok none) s'
                else HostProg.Ensures A K (resize r previous).run s' fun x s' => Q (x.map some) s'
          else
            Q (.error (.mountUnavailable r.mountPath "not mounted; refusing to reserve pages"))
              s' := by
  unfold reserve
  refine (HostProg.ensures_then _ _).trans (asks_congr fun reply s' => ?_)
  cases reply with
  | error e => exact Iff.rfl
  | ok mounted =>
    cases mounted with
    | false => exact Iff.rfl
    | true =>
      refine (HostProg.ensures_then _ _).trans (asks_congr fun reply s' => ?_)
      cases reply with
      | error e => exact Iff.rfl
      | ok previous =>
        show HostProg.Ensures A K (ExceptT.run (if r.isMetBy previous then _ else _)) s' Q ↔
          if r.isMetBy previous then _ else _
        by_cases h : r.isMetBy previous
        · rw [if_pos h, if_pos h]
          exact Iff.rfl
        · rw [if_neg h, if_neg h]
          exact HostProg.ensures_mapOk _ _

end Reserving

/-! ## Surveys and plans -/

namespace Survey

theorem ensures_modules_nil (v : HostView) {Q : HostView → σ → Prop} :
    HostProg.Ensures A K (modules [] v) s Q ↔ Q v s := Iff.rfl

/-- A module is looked at by its name, and shown under the name that the kernel gives it. -/
theorem ensures_modules_cons (m : ModuleRequest) (ms : List ModuleRequest) (v : HostView)
    {Q : HostView → σ → Prop} :
    HostProg.Ensures A K (modules (m :: ms) v) s Q ↔
      Asks A K (.moduleState m.name) s fun r s' =>
        HostProg.Ensures A K
          (modules ms { v with
            modules := v.modules.insert (KernelModule.normalize m.name) (Observed.ofResult r) })
          s' Q :=
  HostProg.ensures_bind _ _

/-- Of a reservation its mount is looked at, and then its pool. -/
theorem ensures_pages (r : Reservation) (v : HostView) {Q : HostView → σ → Prop} :
    HostProg.Ensures A K (pages r v) s Q ↔
      Asks A K (.isMounted r.mountPath) s fun mounted s' =>
        Asks A K (.pageCount r.pool) s' fun count s' =>
          Q { v with
            mounts := v.mounts.put r.mountPath (Observed.ofResult mounted)
            pools := v.pools.insert r.pool (Observed.ofResult count) } s' := by
  unfold pages
  refine (HostProg.ensures_bind _ _).trans (asks_congr fun mounted s' => ?_)
  exact HostProg.ensures_bind _ _

theorem ensures_drivers_nil (v : HostView) {Q : HostView → σ → Prop} :
    HostProg.Ensures A K (drivers [] v) s Q ↔ Q v s := Iff.rfl

/-- The drivers of devices are looked at one after the other. -/
theorem ensures_drivers_cons (a : PciAddress) (rest : List PciAddress) (v : HostView)
    {Q : HostView → σ → Prop} :
    HostProg.Ensures A K (drivers (a :: rest) v) s Q ↔
      Asks A K (.boundDriver a) s fun r s' =>
        HostProg.Ensures A K
          (drivers rest { v with drivers := v.drivers.insert a (Observed.ofResult r) }) s' Q :=
  HostProg.ensures_bind _ _

/-- A survey looks at modules, then at the pages, and at devices in the end. -/
theorem ensures_take (ms : List ModuleRequest) (r : Reservation) (devices : List PciAddress)
    {Q : HostView → σ → Prop} :
    HostProg.Ensures A K (take ms (some r) devices) s Q ↔
      HostProg.Ensures A K (modules ms {}) s fun v s =>
        HostProg.Ensures A K (pages r v) s fun v s =>
          HostProg.Ensures A K (drivers devices v) s Q := by
  unfold take
  refine (HostProg.ensures_bind _ _).trans (HostProg.ensures_congr fun v s' => ?_)
  exact HostProg.ensures_bind _ _

/-- Without a reservation, a survey is about modules and devices only. -/
theorem ensures_take_none (ms : List ModuleRequest) (devices : List PciAddress)
    {Q : HostView → σ → Prop} :
    HostProg.Ensures A K (take ms none devices) s Q ↔
      HostProg.Ensures A K (modules ms {}) s fun v s =>
        HostProg.Ensures A K (drivers devices v) s Q := by
  unfold take
  exact HostProg.ensures_bind _ _

end Survey

/-- A setup is planned for devices that are known and do not stay with the host. -/
theorem ensures_plan_setup (filter : DeviceFilter) (g : SetupGoal)
    {Q : Except Error (List PlannedStep) → Catalog → σ → Prop} :
    Ensures A K (plan filter (.setup g)).run c s Q ↔
      Ensures A K (Catalog.enumerate filter).run c s (skipOnError Q fun _ c s =>
        match Plan.admissible c g.devices.toList with
        | .error e => Q (.error e) c s
        | .ok _ =>
          HostProg.Ensures A K (Survey.take g.modules (some g.pages) g.devices.toList) s
            fun v s => Q (.ok (Plan.setupSteps v g)) c s) := by
  unfold plan
  refine (ensures_then _ _).trans (ensures_congr fun r c' s' => skipOnError_congr fun _ => ?_)
  show Ensures A K (Plan.setup g).run c' s' Q ↔ _
  unfold Plan.setup
  rw [ensures_then, ensures_look, skipOnError_ok]
  refine (ensures_then _ _).trans ?_
  show skipOnError Q _ (Plan.admissible c' g.devices.toList) c' s' ↔ _
  cases Plan.admissible c' g.devices.toList with
  | error e => exact Iff.rfl
  | ok _ =>
    refine (ensures_then _ _).trans ?_
    exact (ensures_succeed _).trans (ensures_lift _)

namespace Plan

/-- A device is to be restored when its home driver is known. -/
theorem ensures_restoreSteps_cons (v : HostView) (a : PciAddress) (rest : List PciAddress)
    {Q : Except Error (List PlannedStep) → Catalog → σ → Prop} :
    Ensures A K (restoreSteps v (a :: rest)).run c s Q ↔
      Ensures A K (Catalog.homeDriver a).run c s (skipOnError Q fun home c s =>
        match home with
        | none => Ensures A K (restoreSteps v rest).run c s Q
        | some driver =>
          Ensures A K (restoreSteps v rest).run c s (skipOnError Q fun others c s =>
            Q (.ok (⟨.restore a driver, v.hasBinding a driver⟩ :: others)) c s)) := by
  rw [restoreSteps]
  refine (ensures_then _ _).trans (ensures_congr fun r c' s' => skipOnError_congr fun home => ?_)
  cases home with
  | none => exact Iff.rfl
  | some driver => exact ensures_then _ _

end Plan

/-- A teardown is planned from what is listed and what is on record. -/
theorem ensures_plan_teardown (filter : DeviceFilter) (devices : SortedSet PciAddress)
    {Q : Except Error (List PlannedStep) → Catalog → σ → Prop} :
    Ensures A K (plan filter (.teardown devices)).run c s Q ↔
      Ensures A K (Catalog.enumerate filter).run c s (skipOnError Q fun _ c s =>
        Ensures A K Catalog.adoptRecorded.run c s (skipOnError Q fun _ c s =>
          HostProg.Ensures A K (Survey.take [] none devices.toList) s fun v s =>
            Ensures A K (Plan.restoreSteps v devices.toList).run c s Q)) := by
  unfold plan
  refine (ensures_then _ _).trans (ensures_congr fun r c' s' => skipOnError_congr fun _ => ?_)
  show Ensures A K (Plan.teardown devices.toList).run c' s' Q ↔ _
  unfold Plan.teardown
  refine (ensures_then _ _).trans (ensures_congr fun r c' s' => skipOnError_congr fun _ => ?_)
  refine (ensures_then _ _).trans ?_
  exact (ensures_succeed _).trans (ensures_lift _)

/-! ## Setup -/

namespace Setup

/-- To make a step about a module is to require the module. -/
theorem ensures_apply_loadModule (m : ModuleRequest)
    {Q : Except Binding.Failure (Option Change) → Catalog → σ → Prop} :
    Ensures A K (apply (.loadModule m)).run c s Q ↔
      HostProg.Ensures A K (Loading.require m).run s fun r s' => Q (r.mapError .plain) c s' :=
  (ensures_move _).trans (ensures_attempt _)

/-- To make a step about a mount is to mount it. -/
theorem ensures_apply_mount (r : Reservation)
    {Q : Except Binding.Failure (Option Change) → Catalog → σ → Prop} :
    Ensures A K (apply (.mount r)).run c s Q ↔
      HostProg.Ensures A K (Reserving.mount r).run s fun x s' => Q (x.mapError .plain) c s' :=
  (ensures_move _).trans (ensures_attempt _)

/-- To make a step about a pool is to reserve its pages. -/
theorem ensures_apply_reserve (r : Reservation)
    {Q : Except Binding.Failure (Option Change) → Catalog → σ → Prop} :
    Ensures A K (apply (.reserve r)).run c s Q ↔
      HostProg.Ensures A K (Reserving.reserve r).run s fun x s' => Q (x.mapError .plain) c s' :=
  (ensures_move _).trans (ensures_attempt _)

/-- A device that is restored leaves no change to be undone. -/
theorem ensures_apply_restore (a : PciAddress) (driver : String)
    {Q : Except Binding.Failure (Option Change) → Catalog → σ → Prop} :
    Ensures A K (apply (.restore a driver)).run c s Q ↔
      Ensures A K (Binding.restore a).run c s fun r c' s' =>
        Q ((r.map fun _ => none).mapError .plain) c' s' := by
  refine (ensures_then _ _).trans ((ensures_move _).trans (ensures_congr fun r c' s' => ?_))
  cases r <;> exact Iff.rfl

/-- A module that was loaded is unloaded. -/
theorem ensures_undo_moduleLoaded (name : String) {Q : Except Error Unit → Catalog → σ → Prop} :
    Ensures A K (undo (.moduleLoaded name)).run c s Q ↔
      Asks A K (.unloadModule name) s fun r s' => Q r c s' := Iff.rfl

/-- What was mounted is unmounted. -/
theorem ensures_undo_mounted (path : HostPath) (pageKb : Nat)
    {Q : Except Error Unit → Catalog → σ → Prop} :
    Ensures A K (undo (.mounted path pageKb)).run c s Q ↔
      Asks A K (.unmount path) s fun r s' => Q r c s' := Iff.rfl

/-- A pool is asked for the pages that it held before. -/
theorem ensures_undo_reserved (pool : Pool) (previous : Nat)
    {Q : Except Error Unit → Catalog → σ → Prop} :
    Ensures A K (undo (.reserved pool previous)).run c s Q ↔
      Asks A K (.setPageCount pool previous) s fun r s' => Q r c s' := Iff.rfl

/-- A device is brought back before its record is taken back. -/
theorem ensures_undo_rebound (a : PciAddress) (prior : Option String) (recorded : Bool)
    {Q : Except Error Unit → Catalog → σ → Prop} :
    Ensures A K (undo (.rebound a prior recorded)).run c s Q ↔
      Ensures A K (Binding.bringBack a prior).run c s (skipOnError Q fun _ c s =>
        if recorded then Ensures A K (Catalog.forgetHome a).run c s Q else Q (.ok ()) c s) := by
  refine (ensures_then _ _).trans (ensures_congr fun r c' s' => skipOnError_congr fun _ => ?_)
  cases recorded <;> exact Iff.rfl

theorem ensures_undoAll_nil {Q : RollbackReport → Catalog → σ → Prop} :
    Ensures A K (undoAll []) c s Q ↔ Q {} c s := Iff.rfl

/-- The report of a rollback, after one more change was tried before the others. -/
def countUndone (ch : Change) (result : Except Error Unit) (report : RollbackReport) :
    RollbackReport :=
  match result with
  | .ok _ => { report with reverted := report.reverted + 1 }
  | .error e => { report with failures := (ch, e) :: report.failures }

/-- A change that cannot be undone does not keep the others from being tried. -/
theorem ensures_undoAll_cons (ch : Change) (cs : List Change)
    {Q : RollbackReport → Catalog → σ → Prop} :
    Ensures A K (undoAll (ch :: cs)) c s Q ↔
      Ensures A K (undo ch).run c s fun result c s =>
        Ensures A K (undoAll cs) c s fun report c s => Q (countUndone ch result report) c s := by
  rw [undoAll]
  refine (ensures_bind _ _).trans (ensures_congr fun result c' s' => ?_)
  refine (ensures_bind _ _).trans (ensures_congr fun report c' s' => ?_)
  cases result <;> exact Iff.rfl

/-- A setup that is given up undoes its changes, the newest first. -/
theorem ensures_abort (e : Error) (journal : Journal) {Q : Outcome → Catalog → σ → Prop} :
    Ensures A K (abort e journal) c s Q ↔
      Ensures A K (undoAll journal.newestFirst) c s fun report c s =>
        Q (.rolledBack e report) c s := by
  unfold abort
  rw [ensures_bind, ensures_announce, ensures_bind]
  apply ensures_congr
  intro report c' s'
  rw [ensures_bind, ensures_announce, ensures_pure]

/-- The deadline may have passed or not, whatever the host is. -/
theorem ensures_isLate (timeout : Option Nat) (index : Nat) {Q : Bool → σ → Prop}
    (next : ∀ late, Q late s) : HostProg.Ensures A K (isLate timeout index) s Q := by
  unfold isLate
  cases timeout with
  | none => exact next false
  | some limit =>
    show HostProg.Ensures A K (if index = 0 then _ else _) s Q
    by_cases first : index = 0
    · rw [if_pos first]
      exact next false
    · rw [if_neg first, HostProg.ensures_bind, HostProg.ensures_elapsed]
      exact fun n => next _

/-- After the last step the setup is committed. -/
theorem ensures_applyFrom_nil (timeout : Option Nat) (total index : Nat) (p : Progress)
    {Q : Outcome → Catalog → σ → Prop} :
    Ensures A K (applyFrom timeout total index [] p) c s Q ↔
      Q (.committed p.journal p.applied p.skipped) c s := by
  rw [applyFrom, ensures_bind, ensures_announce, ensures_pure]

/-- What remains of a setup after a step was made. -/
def AfterStep (A K : StoreTerms σ) (timeout : Option Nat) (total index : Nat)
    (rest : List PlannedStep) (p : Progress) (Q : Outcome → Catalog → σ → Prop) :
    Except Binding.Failure (Option Change) → Catalog → σ → Prop
  | .ok (some ch), c, s =>
    Ensures A K (applyFrom timeout total (index + 1) rest (p.note ch)) c s Q
  | .ok none, c, s => Ensures A K (applyFrom timeout total (index + 1) rest p.skip) c s Q
  | .error f, c, s => Ensures A K (abort f.error (p.journal ++ f.stranded.toList)) c s Q

/-- A step is passed over when it is satisfied, and made otherwise; when the deadline has passed
before it, or when it fails, the setup is undone. -/
theorem ensures_applyFrom_cons (timeout : Option Nat) (total index : Nat) (planned : PlannedStep)
    (rest : List PlannedStep) (p : Progress) {Q : Outcome → Catalog → σ → Prop} :
    Ensures A K (applyFrom timeout total index (planned :: rest) p) c s Q ↔
      HostProg.Ensures A K (isLate timeout index) s fun late s =>
        if late then Ensures A K (abort (.timedOut index) p.journal) c s Q
        else if planned.satisfied then
          Ensures A K (applyFrom timeout total (index + 1) rest p.skip) c s Q
        else Ensures A K (apply planned.step).run c s
          (AfterStep A K timeout total index rest p Q) := by
  rw [applyFrom, ensures_bind, ensures_announce, ensures_bind, ensures_lift]
  apply HostProg.ensures_congr
  intro late s'
  by_cases hl : late
  · rw [if_pos hl, if_pos hl]
  · rw [if_neg hl, if_neg hl]
    by_cases hp : planned.satisfied
    · rw [if_pos hp, if_pos hp]
    · rw [if_neg hp, if_neg hp]
      refine (ensures_bind _ _).trans (ensures_congr fun result c' s' => ?_)
      rcases result with f | _ | ch <;> exact Iff.rfl

/-- A setup whose plan cannot be made is rejected. -/
theorem ensures_run (policy : Policy) (g : SetupGoal) {Q : Outcome → Catalog → σ → Prop} :
    Ensures A K (run policy g) c s Q ↔
      Ensures A K (plan policy.filter (.setup g)).run c s fun result c s =>
        match result with
        | .error e => Q (.rejected e) c s
        | .ok steps => Ensures A K (carryOut policy.timeout steps) c s Q := by
  unfold run
  rw [ensures_bind, ensures_announce, ensures_bind, ensures_announce]
  refine (ensures_bind _ _).trans (ensures_congr fun result c' s' => ?_)
  cases result with
  | ok steps => exact Iff.rfl
  | error e =>
    refine (ensures_bind _ _).trans ?_
    rw [ensures_announce, ensures_pure]

end Setup

/-! ## Teardown -/

namespace Teardown

/-- A device without a record is left alone when it is there. -/
theorem ensures_restoreOne (a : PciAddress) {Q : Fate → Catalog → σ → Prop} :
    Ensures A K (restoreOne a) c s Q ↔
      Ensures A K (Catalog.homeDriver a).run c s fun home c s =>
        match home with
        | .error e => Q (.unrestored e) c s
        | .ok none => Q (if (c.device? a).isNone then .unrestored (.noDevice a) else .skipped) c s
        | .ok (some _) =>
          Ensures A K (Binding.restore a).run c s fun result c s =>
            match result with
            | .ok _ => Q .restored c s
            | .error e => Q (.unrestored e) c s := by
  unfold restoreOne
  refine (ensures_bind _ _).trans (ensures_congr fun home c' s' => ?_)
  rcases home with e | _ | driver
  · exact Iff.rfl
  · exact Iff.rfl
  · refine (ensures_bind _ _).trans ((Setup.ensures_apply_restore _ _).trans ?_)
    apply ensures_congr
    intro result c' s'
    cases result <;> exact Iff.rfl

theorem ensures_restoreFrom_nil (total index : Nat) {Q : TeardownReport → Catalog → σ → Prop} :
    Ensures A K (restoreFrom total index []) c s Q ↔ Q {} c s := Iff.rfl

/-- What becomes of one device does not keep the others from being tried. -/
theorem ensures_restoreFrom_cons (total index : Nat) (a : PciAddress) (rest : List PciAddress)
    {Q : TeardownReport → Catalog → σ → Prop} :
    Ensures A K (restoreFrom total index (a :: rest)) c s Q ↔
      Ensures A K (restoreOne a) c s fun fate c s =>
        Ensures A K (restoreFrom total (index + 1) rest) c s fun report c s =>
          Q (note a fate report) c s := by
  rw [restoreFrom, ensures_bind, ensures_announce, ensures_bind]
  apply ensures_congr
  intro fate c' s'
  rw [ensures_bind]
  exact ensures_congr fun report c' s' => ensures_pure _

/-- A listing that fails does not keep a teardown from using the records. -/
theorem ensures_prepare (filter : DeviceFilter) {Q : Except Error Unit → Catalog → σ → Prop} :
    Ensures A K (prepare filter).run c s Q ↔
      Ensures A K (Catalog.enumerate filter).run c s fun _ c s =>
        Ensures A K Catalog.adoptRecorded.run c s fun result c s =>
          Q (result.map fun _ => ()) c s := by
  have adopt (c : Catalog) (s : σ) :
      Ensures A K (ExceptT.run (discard Catalog.adoptRecorded)) c s Q ↔
        Ensures A K Catalog.adoptRecorded.run c s fun result c s =>
          Q (result.map fun _ => ()) c s :=
    ensures_map _ _
  unfold prepare
  rw [ensures_then, ensures_recover]
  refine (ensures_map _ _).trans (ensures_congr fun result c' s' => ?_)
  cases result <;> exact adopt c' s'

/-- A teardown whose devices cannot be found is rejected. -/
theorem ensures_run (policy : Policy) (devices : SortedSet PciAddress)
    {Q : Outcome → Catalog → σ → Prop} :
    Ensures A K (run policy devices) c s Q ↔
      Ensures A K (prepare policy.filter).run c s fun result c s =>
        match result with
        | .error e => Q (.rejected e) c s
        | .ok _ =>
          Ensures A K (restoreFrom devices.toList.length 0 devices.toList) c s fun report c s =>
            Q (.tornDown report) c s := by
  unfold run
  rw [ensures_bind, ensures_announce, ensures_bind, ensures_announce]
  refine (ensures_bind _ _).trans (ensures_congr fun result c' s' => ?_)
  cases result with
  | error e =>
    refine (ensures_bind _ _).trans ?_
    rw [ensures_announce, ensures_pure]
  | ok _ =>
    refine (ensures_bind _ _).trans (ensures_congr fun report c' s' => ?_)
    rw [ensures_bind, ensures_announce, ensures_pure]

end Teardown

end Provision
