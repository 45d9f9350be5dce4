import Provision.Engine.Run
import Provision.Proofs.Simulation.Frame
import Provision.Simulation.Topology

/-!
# What a run leaves alone

A run touches nothing that its goal does not name.  This holds after every single
call, on a host on which any calls fail, whatever the catalog holds, and also while
a setup is undone: a rollback is led by the journal, and every change in the journal
is about a resource of the goal.

Main results:

- `SimHost.keptOutside_answer`: one call leaves everything alone but its resource.
- `Engine.within_run`: a run keeps to the resources that its goal names.
- `Engine.untouched_outside_goal`: after every call of a run, all that its goal does
  not name is as it was before the run.
-/

namespace Provision

open StoreTerms CatalogProg

/-! ## Goals -/

/-- Whether a goal names a resource. -/
def Goal.Names : Goal → Resource → Prop
  | .setup g, .module name => ∃ m ∈ g.modules, KernelModule.normalize m.name = name
  | .setup g, .mount key => g.pages.mountPath.key = key
  | .setup g, .pool p => g.pages.pool = p
  | .setup g, .device a => a ∈ g.devices.toList
  | .teardown devices, .device a => a ∈ devices.toList
  | .teardown _, .module _ | .teardown _, .mount _ | .teardown _, .pool _ => False

/-- The resources of a setup are those that its goal names. -/
theorem SetupGoal.names_of_mem_resources {g : SetupGoal} {r : Resource} (h : r ∈ g.resources) :
    (Goal.setup g).Names r := by
  obtain ⟨step, isStep, rfl⟩ := List.mem_map.1 h
  rcases mem_steps.1 isStep with ⟨m, hm, rfl⟩ | rfl | rfl | ⟨a, ha, rfl⟩
  · exact ⟨m, hm, rfl⟩
  · rfl
  · rfl
  · exact ha

/-- A run keeps to the resources that its goal names. -/
theorem Engine.within_run {σ : Type} {A : StoreTerms σ} {c : Catalog} {s : σ} (policy : Policy)
    (goal : Goal) :
    Ensures A (within goal.Names) (run policy goal) c s fun _ _ _ => True := by
  cases goal with
  | setup g => exact Setup.within_run policy g fun r hr => SetupGoal.names_of_mem_resources hr
  | teardown devices => exact Teardown.within_run policy devices fun a ha => ha

/-! ## Hosts -/

namespace SimHost

/-- The devices of the listing with an address. -/
def devicesAt (h : SimHost) (a : PciAddress) : List Descriptor :=
  h.devices.filter (·.address == a)

/-- All that does not stand at a resource of a set is the same on two hosts. -/
structure KeptOutside (F : Resource → Prop) (h h' : SimHost) : Prop where
  modules : ∀ name, ¬ F (.module name) → h'.modules.get? name = h.modules.get? name
  mounts : ∀ key, ¬ F (.mount key) → h'.mounts.get? key = h.mounts.get? key
  pools : ∀ p, ¬ F (.pool p) → h'.pools.get? p = h.pools.get? p
  bindings : ∀ a, ¬ F (.device a) → h'.devicesAt a = h.devicesAt a
  records : ∀ a, ¬ F (.device a) → h'.homes.get? a = h.homes.get? a

variable {F : Resource → Prop} {h h' h'' : SimHost}

theorem KeptOutside.refl (F : Resource → Prop) (h : SimHost) : KeptOutside F h h :=
  ⟨fun _ _ => rfl, fun _ _ => rfl, fun _ _ => rfl, fun _ _ => rfl, fun _ _ => rfl⟩

theorem KeptOutside.trans (first : KeptOutside F h h') (second : KeptOutside F h' h'') :
    KeptOutside F h h'' where
  modules name out := (second.modules name out).trans (first.modules name out)
  mounts key out := (second.mounts key out).trans (first.mounts key out)
  pools p out := (second.pools p out).trans (first.pools p out)
  bindings a out := (second.bindings a out).trans (first.bindings a out)
  records a out := (second.records a out).trans (first.records a out)

/-- Moving a device moves no device with another address, also where several devices share one. -/
theorem filter_moveDevice_of_ne {a b : PciAddress} (driver : Option String) (ds : List Descriptor)
    (ne : b ≠ a) :
    (moveDevice a driver ds).filter (·.address == b) = ds.filter (·.address == b) := by
  induction ds with
  | nil => rfl
  | cons d ds ih =>
    by_cases hd : d.address = a
    · have hb : ¬ a = b := fun e => ne e.symm
      simp [moveDevice, hd, hb]
    · simp [moveDevice, hd, List.filter_cons, ih]

/-- A call moves no device but the one that it is about. -/
theorem devicesAt_answer_of_ne {call : StoreCall} {a : PciAddress}
    (other : call.resource? ≠ some (.device a)) (h : SimHost) :
    (answer call h).2.devicesAt a = h.devicesAt a := by
  have moved {b : PciAddress} (driver : Option String)
      (ne : some (Resource.device b) ≠ some (.device a)) :
      (moveDevice b driver h.devices).filter (·.address == a) = h.devicesAt a :=
    filter_moveDevice_of_ne driver h.devices fun e => ne (congrArg (some ∘ Resource.device) e.symm)
  cases call with
  | unbind b driver =>
    simp only [answer, unbind]
    repeat' split
    all_goals first | rfl | exact moved none other
  | bind b driver =>
    simp only [answer, bind]
    repeat' split
    all_goals first | rfl | exact moved (some driver) other
  | mount path pageKb =>
    simp only [answer, mount]
    split <;> rfl
  | unmount path =>
    simp only [answer, unmount]
    split <;> rfl
  | setPageCount p count =>
    simp only [answer, setPages]
    split <;> rfl
  | loadModule m =>
    simp only [answer, loadModule]
    split <;> rfl
  | unloadModule name =>
    simp only [answer, unloadModule]
    split <;> rfl
  | _ => rfl

/-- One call leaves everything alone but its resource. -/
theorem keptOutside_answer {call : StoreCall} (inside : ∀ r, call.resource? = some r → F r)
    (h : SimHost) : KeptOutside F h (answer call h).2 := by
  have elsewhere {r : Resource} (out : ¬ F r) : call.resource? ≠ some r := fun about =>
    out (inside r about)
  exact
    { modules := fun name out => view_answer_of_ne (elsewhere out) h
      mounts := fun key out => view_answer_of_ne (elsewhere out) h
      pools := fun p out => view_answer_of_ne (elsewhere out) h
      bindings := fun a out => devicesAt_answer_of_ne (elsewhere out) h
      records := fun a out => congrArg Prod.snd (view_answer_of_ne (elsewhere out) h) }

end SimHost

/-! ## Runs -/

namespace Engine

/-- A run touches nothing outside its goal.  Whatever the host and the catalog hold, whichever
calls fail, and whatever the clock shows: after every call, and at the end, every module, mount,
pool and device that the goal does not name is as it was before the run, and so are the records.
A setup names its modules up to spelling, its mount path by components, its pool and its devices;
a teardown names its devices only. -/
theorem untouched_outside_goal (policy : Policy) (goal : Goal) (c : Catalog)
    (fails : Nat → Option Error) (clock : Nat → Nat) (w : World (SimHost × Nat)) :
    (∀ e ∈ storeCalls (SimHost.answer.unreliable fails) clock (run policy goal) c w,
      w.host.1.KeptOutside goal.Names e.after.1) ∧
    w.host.1.KeptOutside goal.Names
      (runOn (SimHost.answer.unreliable fails) clock (run policy goal) c w).2.host.1 := by
  have kept : Ensures (orFails SimHost.answer) _ (run policy goal) c w.host.1 _ :=
    (within_run policy goal).invariant (J := w.host.1.KeptOutside goal.Names)
      (fun call s r s' answered inside holds => by
        rcases SimHost.after_orFails answered with same | after
        · exact same ▸ holds
        · exact after ▸ holds.trans (SimHost.keptOutside_answer inside s))
      (SimHost.KeptOutside.refl _ _)
  have concluded := kept.of_run (SimHost.answer.unreliable fails) clock w Prod.fst
    fun call t => SimHost.answer.answer_unreliable fails call t
  exact ⟨fun e he => (concluded.1 e he).2.2, concluded.2.2⟩

/-- On a machine with two controllers, one cannot be bound to `vfio-pci` and its record cannot be
cleared afterwards: the setup changes resources and is undone in part, and touches nothing else. -/
theorem twoNics_rest_untouched :
    let fails (place : Nat) : Option Error :=
      if place = 27 then some (.store "clear" "home" "Input/output error") else none
    let store := SimHost.answer.unreliable fails
    let goal := Goal.setup (Topology.handOver [Topology.dataNic])
    let w : World (SimHost × Nat) :=
      { host := (Topology.twoNics.failBind Topology.dataNic "vfio-pci", 0) }
    (∃ e ∈ storeCalls store (fun _ => 0) (run {} goal) (Policy.freshCatalog {}) w,
      e.call = .clearHome Topology.dataNic ∧ e.reply.toOption.isNone) ∧
    ∀ e ∈ storeCalls store (fun _ => 0) (run {} goal) (Policy.freshCatalog {}) w,
      w.host.1.KeptOutside goal.Names e.after.1 :=
  ⟨by decide +kernel, (untouched_outside_goal {} _ _ _ _ _).1⟩

end Engine

end Provision
