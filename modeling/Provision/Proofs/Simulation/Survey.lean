import Provision.Proofs.ReservedDevices
import Provision.Proofs.Simulation.Frame

/-!
# Plans on a simulated host

A survey of a simulated host shows what the host holds, under every spelling of a
module's name, so a plan marks a step as satisfied exactly when the step holds.  A
listing fails or succeeds as a whole, so a plan is made unless the host lists no
devices or the goal names one that it may not name.

Main results:

- `Survey.shows_take`: what a survey shows.
- `Plan.satisfied_iff_holds`: a step is marked as satisfied exactly when it holds.
- `Catalog.ensures_enumerate_of`: how a listing ends.
- `Plan.ensures_made`: how the making of a plan ends.
-/

namespace Provision

open StoreTerms CatalogProg

/-- The state of a module does not depend on the spelling of its name. -/
theorem SimHost.readModule_congr (h : SimHost) {name name' : String}
    (same : KernelModule.normalize name = KernelModule.normalize name') :
    h.readModule name = h.readModule name' := by
  unfold readModule ModuleState.absent
  rw [same]

/-! ## Steps that hold -/

/-- A step holds when there is nothing to do for it. -/
def Step.Holds (h : SimHost) : Step → Prop
  | .loadModule m => m.satisfiedBy (h.readModule m.name) = true
  | .mount r => h.isMounted r.mountPath = true
  | .reserve r =>
    h.isMounted r.mountPath = true ∧ ∃ n, h.readPages r.pool = .ok n ∧ r.isMetBy n = true
  | .rebind a driver | .restore a driver => h.readDriver a = .ok (some driver)

namespace Survey

open KernelModule (normalize)

variable {h : SimHost} {v : HostView}

/-! ## Surveys -/

/-- A view shows the module of a name. -/
def ShowsModule (h : SimHost) (v : HostView) (name : String) : Prop :=
  v.modules.get? (normalize name) = some (.known (h.readModule name))

/-- A view shows the driver of a device. -/
def ShowsDriver (h : SimHost) (v : HostView) (a : PciAddress) : Prop :=
  v.drivers.get? a = some (.ofResult (h.readDriver a))

/-- Reading one more module shows it, under all spellings of its name, and the others as before. -/
theorem showsModule_insert {m : ModuleRequest} {name : String}
    (shown : ShowsModule h v name ∨ normalize m.name = normalize name) :
    ShowsModule h
      { v with modules := v.modules.insert (normalize m.name) (.known (h.readModule m.name)) }
      name := by
  unfold ShowsModule
  rw [SortedMap.get?_insert]
  by_cases same : normalize name = normalize m.name
  · rw [if_pos same, h.readModule_congr same]
  · rw [if_neg same]
    exact shown.resolve_right fun e => same e.symm

theorem shows_modules (ms : List ModuleRequest) :
    HostProg.Ensures (of SimHost.answer) free (modules ms v) h fun v' h' =>
      h' = h ∧ ∀ name, ShowsModule h v name ∨ (∃ m ∈ ms, normalize m.name = normalize name) →
        ShowsModule h v' name := by
  induction ms generalizing v with
  | nil =>
    rw [ensures_modules_nil]
    refine ⟨rfl, fun name shown => ?_⟩
    exact shown.resolve_right fun ⟨m, hm, _⟩ => List.not_mem_nil hm
  | cons m ms ih =>
    rw [ensures_modules_cons, SimHost.asks_of_read rfl]
    refine ih.mono fun v' h' read => ⟨read.1, fun name shown => read.2 name ?_⟩
    rcases shown with before | ⟨m', hm', same⟩
    · exact .inl (showsModule_insert (.inl before))
    · rcases List.mem_cons.1 hm' with rfl | later
      · exact .inl (showsModule_insert (.inr same))
      · exact .inr ⟨m', later, same⟩

/-- Reading one more driver shows it, and the others as before. -/
theorem showsDriver_insert {a b : PciAddress} (shown : ShowsDriver h v a ∨ a = b) :
    ShowsDriver h { v with drivers := v.drivers.insert b (.ofResult (h.readDriver b)) } a := by
  unfold ShowsDriver
  rw [SortedMap.get?_insert]
  by_cases same : a = b
  · rw [if_pos same, same]
  · rw [if_neg same]
    exact shown.resolve_right same

theorem shows_drivers (devices : List PciAddress) :
    HostProg.Ensures (of SimHost.answer) free (drivers devices v) h fun v' h' =>
      h' = h ∧ (v'.modules = v.modules ∧ v'.mounts = v.mounts ∧ v'.pools = v.pools) ∧
        ∀ a, ShowsDriver h v a ∨ a ∈ devices → ShowsDriver h v' a := by
  induction devices generalizing v with
  | nil =>
    rw [ensures_drivers_nil]
    exact ⟨rfl, ⟨rfl, rfl, rfl⟩, fun a shown => shown.resolve_right List.not_mem_nil⟩
  | cons b rest ih =>
    rw [ensures_drivers_cons, SimHost.asks_of_read rfl]
    refine ih.mono fun v' h' read => ⟨read.1, read.2.1, fun a shown => read.2.2 a ?_⟩
    rcases shown with before | named
    · exact .inl (showsDriver_insert (.inl before))
    · rcases List.mem_cons.1 named with here | later
      · exact .inl (showsDriver_insert (.inr here))
      · exact .inr later

/-- A view shows everything that a setup is about. -/
structure Shows (h : SimHost) (g : SetupGoal) (v : HostView) : Prop where
  modules : ∀ m ∈ g.modules, ShowsModule h v m.name
  mount : v.mounts.find? g.pages.mountPath = some (.known (h.isMounted g.pages.mountPath))
  pool : v.pools.get? g.pages.pool = some (.ofResult (h.readPages g.pages.pool))
  drivers : ∀ a ∈ g.devices.toList, ShowsDriver h v a

/-- A survey shows everything that it is about. -/
theorem shows_take (g : SetupGoal) :
    HostProg.Ensures (of SimHost.answer) free (take g.modules (some g.pages) g.devices.toList) h
      fun v h' => h' = h ∧ Shows h g v := by
  rw [ensures_take]
  apply (shows_modules g.modules).mono
  intro v₁ h₁ read
  obtain ⟨rfl, modules⟩ := read
  rw [ensures_pages, SimHost.asks_of_read rfl, SimHost.asks_of_read rfl]
  apply (shows_drivers g.devices.toList).mono
  intro v₂ h₂ read
  obtain ⟨rfl, ⟨sameModules, sameMounts, samePools⟩, drivers⟩ := read
  refine ⟨rfl, fun m hm => ?_, ?_, ?_, fun a ha => drivers a (.inr ha)⟩
  · unfold ShowsModule
    rw [sameModules]
    exact modules m.name (.inr ⟨m, hm, rfl⟩)
  · rw [sameMounts]
    exact PathMap.find?_put_self ..
  · rw [samePools]
    exact SortedMap.get?_insert_self ..

end Survey

/-- A step is marked as satisfied exactly when it holds. -/
theorem Plan.satisfied_iff_holds {h : SimHost} {g : SetupGoal} {v : HostView}
    (shows : Survey.Shows h g v) {planned : PlannedStep} (hplanned : planned ∈ setupSteps v g) :
    planned.satisfied = true ↔ planned.step.Holds h := by
  have mount : v.hasMount g.pages = true ↔ h.isMounted g.pages.mountPath = true := by
    unfold HostView.hasMount
    rw [shows.mount]
    simp
  have pool : v.hasPages g.pages = true ↔
      ∃ n, h.readPages g.pages.pool = .ok n ∧ g.pages.isMetBy n = true := by
    unfold HostView.hasPages
    rw [shows.pool, Option.any_some, Observed.holds_ofResult]
  unfold setupSteps at hplanned
  simp only [List.mem_append, List.mem_map, List.mem_cons, List.not_mem_nil, or_false] at hplanned
  rcases hplanned with (⟨m, hm, rfl⟩ | rfl | rfl) | ⟨a, ha, rfl⟩
  · have shown : v.modules.get? (KernelModule.normalize m.name) = _ := shows.modules m hm
    show v.hasModule m = true ↔ m.satisfiedBy (h.readModule m.name) = true
    unfold HostView.hasModule
    rw [shown]
    simp
  · exact mount
  · show (v.hasMount g.pages && v.hasPages g.pages) = true ↔ _
    rw [Bool.and_eq_true, mount, pool]
    rfl
  · have shown : v.drivers.get? a = _ := shows.drivers a ha
    show v.hasBinding a g.target = true ↔ h.readDriver a = .ok (some g.target)
    unfold HostView.hasBinding
    rw [shown, Option.any_some, Observed.holds_ofResult]
    simp

/-! ## Listings -/

variable {c : Catalog} {h : SimHost}

theorem Catalog.ensures_enlistAll_of (index : Nat) (ds : List Descriptor) :
    Ensures (of SimHost.answer) free (enlistAll index ds).run c h fun result c' h' =>
      h' = h ∧ (∃ candidates, result = .ok candidates) ∧
        ∃ ts : List TrackedDevice, ts.map (·.address) = ds.map (·.address) ∧
          c' = c.enlistEach index ts := by
  induction ds generalizing index c with
  | nil =>
    rw [ensures_enlistAll_nil]
    exact ⟨rfl, ⟨[], rfl⟩, [], rfl, rfl⟩
  | cons d ds ih =>
    rw [ensures_enlistAll_cons, SimHost.asks_of_read rfl]
    apply (ih (index + 1)).mono
    intro others c' h' taken
    obtain ⟨rfl, ⟨candidates, rfl⟩, ts, addresses, rfl⟩ := taken
    refine ⟨rfl, ⟨_, rfl⟩, d.tracked (h'.homes.get? d.address) :: ts, ?_, rfl⟩
    rw [List.map_cons, List.map_cons, addresses]
    rfl

/-- A listing fails, or takes in every device that is listed. -/
theorem Catalog.ensures_enumerate_of (filter : DeviceFilter) :
    Ensures (of SimHost.answer) free (enumerate filter).run c h fun result c' h' =>
      h' = h ∧ ((h.faults.listing = true ∧ ∃ e, result = .error e) ∨
        h.faults.listing = false ∧ (∃ candidates, result = .ok candidates) ∧
          ∃ ts : List TrackedDevice, ts.map (·.address) = h.listed filter ∧
            c' = c.enlistEach 0 ts) := by
  rw [ensures_enumerate, SimHost.asks_of_read rfl]
  show skipOnError _ _ (h.listDevices filter) c h
  unfold SimHost.listDevices
  by_cases fails : h.faults.listing
  · rw [if_pos fails, skipOnError_error]
    exact ⟨rfl, .inl ⟨fails, _, rfl⟩⟩
  · rw [if_neg fails, skipOnError_ok]
    apply (ensures_enlistAll_of 0 _).mono
    intro result c' h' taken
    exact ⟨taken.1, .inr ⟨Bool.eq_false_iff.2 fails, taken.2⟩⟩

/-! ## Plans -/

/-- How the making of a plan ends. -/
inductive Plan.Ends (filter : DeviceFilter) (g : SetupGoal) (c : Catalog) (h : SimHost) :
    Except Error (List PlannedStep) → Catalog → Prop
  | unlisted {e : Error} {c' : Catalog} : h.faults.listing = true → Ends filter g c h (.error e) c'
  | refused {e : Error} {ts : List TrackedDevice} : ts.map (·.address) = h.listed filter →
    admissible (c.enlistEach 0 ts) g.devices.toList = .error e →
    Ends filter g c h (.error e) (c.enlistEach 0 ts)
  | made {v : HostView} {ts : List TrackedDevice} : h.faults.listing = false →
    ts.map (·.address) = h.listed filter →
    admissible (c.enlistEach 0 ts) g.devices.toList = .ok () → Survey.Shows h g v →
    Ends filter g c h (.ok (setupSteps v g)) (c.enlistEach 0 ts)

/-- A plan is made unless no devices are listed or one is named that may not be named. -/
theorem Plan.ensures_made (filter : DeviceFilter) (g : SetupGoal) :
    Ensures (of SimHost.answer) free (plan filter (.setup g)).run c h fun result c' h' =>
      h' = h ∧ Ends filter g c h result c' := by
  rw [ensures_plan_setup]
  apply (Catalog.ensures_enumerate_of filter).mono
  intro result c' h' listing
  obtain ⟨rfl, ⟨fails, e, rfl⟩ | ⟨works, ⟨candidates, rfl⟩, ts, addresses, rfl⟩⟩ := listing
  · exact ⟨rfl, .unlisted fails⟩
  · rw [skipOnError_ok]
    cases admitted : admissible (c.enlistEach 0 ts) g.devices.toList with
    | error e => exact ⟨rfl, .refused addresses admitted⟩
    | ok _ =>
      apply (Survey.shows_take g).mono
      intro v h'' read
      obtain ⟨rfl, shows⟩ := read
      exact ⟨rfl, .made works addresses admitted shows⟩

end Provision
