import Provision.Proofs.Contract.Engine
import Provision.Proofs.Contract.System
import Provision.Simulation.Host
import Provision.Simulation.Machine
import Provision.Simulation.Topology

/-!
# Modules that are required

A module that is required is loaded in the end.  When it was loaded before, it carries
the requested parameters.  When it had to be loaded, that is for the loader to see to:
the parameters of a module that was just loaded are not looked at, and what the loader
left is found out only by the next request, which is then refused.

Main results:

- `Loading.delivers_require`: what is required is loaded.
- `Loading.require_of_loaded`: what comes of requiring a loaded module.
- `Loading.require_delivers`: a request, and the same request made once more.
-/

namespace Provision.Loading

open StoreTerms

variable {σ : Type} {store : StoreHandler σ} {m : ModuleRequest}

/-- What is said of a loaded module that is required. -/
def verdict (m : ModuleRequest) (state : ModuleState) : Except Error (Option Change) :=
  match conflict? m state with
  | some (parameter, expected, actual) =>
    .error (.moduleConflict state.name parameter expected actual)
  | none => .ok none

/-- A loaded module is left alone without complaint exactly when it satisfies the request. -/
theorem verdict_eq_ok_iff {state : ModuleState} (loaded : state.loaded = true)
    {change : Option Change} :
    verdict m state = .ok change ↔ change = none ∧ m.satisfiedBy state = true := by
  rw [← conflict?_eq_none_iff loaded]
  unfold verdict
  cases conflict? m state with
  | none => simp [eq_comm]
  | some conflict => simp

/-- A module that was required without a failure is loaded: it was so before, and satisfies the
request, or the loader has loaded it. -/
def Delivered (store : StoreHandler σ) (m : ModuleRequest) (change : Option Change)
    (before after : σ) : Prop :=
  ∃ state, (store (.moduleState m.name) after).1 = .ok state ∧ state.loaded = true ∧
    ((change = none ∧ after = before ∧ m.satisfiedBy state = true) ∨
      (change = some (.moduleLoaded m.name) ∧ store (.loadModule m) before = (.ok (), after)))

/-- On a host that is left alone by reading what is loaded, a module that is required is loaded. -/
theorem delivers_require (steady : ∀ s, (store (.moduleState m.name) s).2 = s) (s : σ) :
    HostProg.Ensures (of store) free (require m).run s fun result s' =>
      ∀ change, result = .ok change → Delivered store m change s s' := by
  rw [ensures_require, asks_of, steady]
  refine ⟨trivial, ?_⟩
  cases read : (store (.moduleState m.name) s).1 with
  | error e => exact nofun
  | ok state =>
    show if state.loaded then _ else _
    by_cases loaded : state.loaded
    · rw [if_pos loaded]
      have judged : ∀ change, verdict m state = .ok change → Delivered store m change s s := by
        intro change fine
        obtain ⟨none, satisfied⟩ := (verdict_eq_ok_iff loaded).1 fine
        exact ⟨state, read, loaded, .inl ⟨none, rfl, satisfied⟩⟩
      unfold verdict at judged
      cases conflict : conflict? m state with
      | none => simpa [conflict] using judged
      | some _ => exact nofun
    · rw [if_neg loaded, ensures_loadAbsent, asks_of]
      refine ⟨trivial, ?_⟩
      cases replied : store (.loadModule m) s with
      | mk reply after =>
        cases reply with
        | error e => exact nofun
        | ok _ =>
          show Asks (of store) free (.moduleState m.name) after _
          rw [asks_of, steady]
          refine ⟨trivial, ?_⟩
          cases seen : (store (.moduleState m.name) after).1 with
          | error e => exact nofun
          | ok state' =>
            show if state'.loaded then _ else _
            by_cases there : state'.loaded
            · rw [if_pos there]
              rintro change ⟨⟩
              exact ⟨state', seen, there, .inr ⟨rfl, replied⟩⟩
            · rw [if_neg there]
              exact nofun

/-- Requiring a loaded module changes nothing, and only its parameters decide what is said. -/
theorem require_of_loaded {clock : Nat → Nat} {w : World σ} {state : ModuleState}
    (read : store (.moduleState m.name) w.host = (.ok state, w.host))
    (loaded : state.loaded = true) :
    Prog.run (World.handler store clock) (require m).run w = (verdict m state, w) := by
  have asked : Prog.run (World.handler store clock) (HostM.ask (.moduleState m.name)).run w =
      (.ok state, w) := by
    show ((store (.moduleState m.name) w.host).1,
      { w with host := (store (.moduleState m.name) w.host).2 }) = _
    rw [read]
  unfold require verdict
  rw [ExceptT.run_bind, Prog.run_bind, asked]
  show Prog.run _ (ExceptT.run (if state.loaded then _ else _)) w = _
  rw [if_pos loaded]
  cases conflict? m state <;> rfl

/-- A module that was required without a failure is loaded.  Unless the loader was at work, nothing
was changed and the module satisfies the request; what the loader left may be anything.  The same
request made once more changes nothing, and is refused exactly when the module does not satisfy
it. -/
theorem require_delivers (store : StoreHandler σ) (m : ModuleRequest)
    (steady : ∀ s, (store (.moduleState m.name) s).2 = s) (clock : Nat → Nat) (w : World σ)
    (change : Option Change)
    (fine : (Prog.run (World.handler store clock) (require m).run w).1 = .ok change) :
    let after := (Prog.run (World.handler store clock) (require m).run w).2
    ∃ state, (store (.moduleState m.name) after.host).1 = .ok state ∧ state.loaded = true ∧
      ((change = none ∧ after.host = w.host ∧ m.satisfiedBy state = true) ∨
        (change = some (.moduleLoaded m.name) ∧
          store (.loadModule m) w.host = (.ok (), after.host))) ∧
      Prog.run (World.handler store clock) (require m).run after = (verdict m state, after) ∧
      (verdict m state = .ok none ↔ m.satisfiedBy state = true) := by
  intro after
  obtain ⟨state, read, loaded, how⟩ := (delivers_require steady w.host).of_run clock w change fine
  refine ⟨state, read, loaded, how, require_of_loaded (Prod.ext read (steady _)) loaded, ?_⟩
  rw [verdict_eq_ok_iff loaded]
  simp

/-- A simulated host whose loader leaves the parameters out. -/
def answerBare : StoreHandler SimHost
  | .loadModule m, h => h.loadModule ⟨m.name, ∅⟩
  | call, h => SimHost.answer call h

/-- The request for `vfio` that allows it without an IOMMU. -/
def unsafeVfio : ModuleRequest :=
  ⟨KernelModule.vfio, SortedMap.ofList [(KernelModule.noIommuParameter, "1")]⟩

/-- The loader has loaded `vfio`, and what it left is what the next request is judged by. -/
theorem unsafeVfio_delivered :
    let start : World SimHost := { host := Topology.twoNics }
    let first := Prog.run (World.handler answerBare fun _ => 0) (require unsafeVfio).run start
    first.1 = .ok (some (.moduleLoaded "vfio")) ∧
      ∃ state, (answerBare (.moduleState "vfio") first.2.host).1 = .ok state ∧
        state.loaded = true ∧
        Prog.run (World.handler answerBare fun _ => 0) (require unsafeVfio).run first.2 =
          (verdict unsafeVfio state, first.2) := by
  intro start first
  refine ⟨rfl, ?_⟩
  obtain ⟨state, read, loaded, _, again, _⟩ := require_delivers answerBare unsafeVfio
    (fun _ => rfl) (fun _ => 0) start (some (.moduleLoaded "vfio")) rfl
  exact ⟨state, read, loaded, again⟩

/-- On a machine whose loader succeeds and leaves another value of the parameter, the request
succeeds, the module does not satisfy it, and the same request made once more is refused. -/
theorem unsafeVfio_refused_next :
    let store := (Sysfs.mk ⟨"root"⟩ ⟨"state"⟩).answer Machine.answer
    let parameter : HostPath :=
      ⟨"root/sys/module/vfio/parameters/enable_unsafe_noiommu_mode"⟩
    let machine : Machine := { rules := [
      { command := "/sbin/modprobe \"vfio\" \"enable_unsafe_noiommu_mode=1\""
        puts := [(parameter, .file (.text "N\n"))] }] }
    let first := Prog.run (World.handler store fun _ => 0) (require unsafeVfio).run
      { host := machine }
    first.1 = .ok (some (.moduleLoaded "vfio")) ∧
      (store (.moduleState "vfio") first.2.host).1.map unsafeVfio.satisfiedBy = .ok false ∧
      (Prog.run (World.handler store fun _ => 0) (require unsafeVfio).run first.2).1 =
        .error (.moduleConflict "vfio" "enable_unsafe_noiommu_mode" "1" "N") := by
  decide +kernel

end Provision.Loading
