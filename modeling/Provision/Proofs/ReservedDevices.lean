import Provision.Proofs.Contract.World
import Provision.Proofs.Footprint
import Provision.Simulation.Topology

/-!
# Reserved devices

The first devices of a listing stay with the host.  Which ones they are is decided
anew by every listing, whatever the catalog held before: a device of the listing
is reserved exactly when it stands at one of the first places.  A setup that names
such a device is refused before it changes anything, and every other setup leaves
these devices alone, also while it is undone.

Main results:

- `Catalog.isReserved_enlistEach`: what a listing says of its devices does not
  depend on the catalog before it.
- `Plan.admissible_eq_ok_iff`: the devices that a setup may name.
- `Setup.reserved_devices_untouched`: reserved devices are never repurposed.
-/

namespace Provision

open StoreTerms CatalogProg

variable {α σ τ : Type}

/-! ## Taking in a listing -/

namespace Catalog

/-- Takes in devices from a place of the listing on. -/
def enlistEach : Nat → List TrackedDevice → Catalog → Catalog
  | _, [], c => c
  | index, d :: ds, c => enlistEach (index + 1) ds (c.enlist index d)

/-- Taking in a listing does not change how many devices are reserved. -/
@[simp]
theorem reserveLeading_enlistEach (index : Nat) (ds : List TrackedDevice) (c : Catalog) :
    (c.enlistEach index ds).reserveLeading = c.reserveLeading := by
  induction ds generalizing index c with
  | nil => rfl
  | cons d ds ih => exact ih (index + 1) (c.enlist index d)

/-- A device does not change whether another one is reserved. -/
theorem isReserved_enlist_of_ne {index : Nat} {d : TrackedDevice} {c : Catalog} {a : PciAddress}
    (h : a ≠ d.address) : (c.enlist index d).isReserved a = c.isReserved a := by
  unfold enlist isReserved SortedMap.contains
  by_cases first : index < c.reserveLeading
  · simp only [first, if_true, SortedSet.add, SortedMap.get?_insert_of_ne _ _ h]
  · simp only [first, if_false, SortedMap.get?_erase_of_ne _ h]

/-- A listing does not change whether a device outside it is reserved. -/
theorem isReserved_enlistEach_of_notMem {index : Nat} {ds : List TrackedDevice} {c : Catalog}
    {a : PciAddress} (h : a ∉ ds.map (·.address)) :
    (c.enlistEach index ds).isReserved a = c.isReserved a := by
  induction ds generalizing index c with
  | nil => rfl
  | cons d ds ih =>
    rw [List.map_cons, List.mem_cons, not_or] at h
    rw [enlistEach, ih h.2, isReserved_enlist_of_ne h.1]

/-- A listing does not change what is known of a device outside it. -/
theorem device?_enlistEach_of_notMem {index : Nat} {ds : List TrackedDevice} {c : Catalog}
    {a : PciAddress} (h : a ∉ ds.map (·.address)) :
    (c.enlistEach index ds).device? a = c.device? a := by
  induction ds generalizing index c with
  | nil => rfl
  | cons d ds ih =>
    rw [List.map_cons, List.mem_cons, not_or] at h
    rw [enlistEach, ih h.2, device?_enlist_of_ne h.1]

/-- Every device of a listing is known after it. -/
theorem isSome_device?_enlistEach {index : Nat} {ds : List TrackedDevice} {c : Catalog}
    {a : PciAddress} (h : a ∈ ds.map (·.address)) :
    ((c.enlistEach index ds).device? a).isSome = true := by
  induction ds generalizing index c with
  | nil => simp at h
  | cons d ds ih =>
    rw [enlistEach]
    by_cases later : a ∈ ds.map (·.address)
    · exact ih later
    · have here : a = d.address := by
        rw [List.map_cons, List.mem_cons] at h
        exact h.resolve_right later
      rw [device?_enlistEach_of_notMem later, here]
      simp [enlist, device?]

/-- A device of a listing is reserved exactly when it stands at one of the first places, whatever
the catalog held before. -/
theorem isReserved_enlistEach {index place : Nat} {ds : List TrackedDevice} {c : Catalog}
    {a : PciAddress} (distinct : (ds.map (·.address)).Nodup)
    (stands : (ds.map (·.address))[place]? = some a) :
    (c.enlistEach index ds).isReserved a = decide (index + place < c.reserveLeading) := by
  induction ds generalizing index place c with
  | nil => simp at stands
  | cons d ds ih =>
    rw [List.map_cons, List.nodup_cons] at distinct
    rw [List.map_cons] at stands
    rw [enlistEach]
    cases place with
    | zero =>
      have here : d.address = a := by simpa using stands
      rw [← here, isReserved_enlistEach_of_notMem distinct.1, isReserved_enlist, Nat.add_zero]
    | succ place =>
      have later : ((c.enlist index d).enlistEach (index + 1) ds).isReserved a =
          decide (index + 1 + place < (c.enlist index d).reserveLeading) :=
        ih distinct.2 (by simpa using stands)
      have places : index + 1 + place = index + (place + 1) := by omega
      rw [later, places]
      rfl

/-- Whether a device of a listing is reserved depends on the addresses in the listing only. -/
theorem isReserved_enlistEach_congr {index : Nat} {ds ds' : List TrackedDevice} {c c' : Catalog}
    {a : PciAddress} (addresses : ds'.map (·.address) = ds.map (·.address))
    (leading : c'.reserveLeading = c.reserveLeading) (listed : a ∈ ds'.map (·.address)) :
    (c'.enlistEach index ds').isReserved a = (c.enlistEach index ds).isReserved a := by
  induction ds' generalizing index ds c c' with
  | nil => exact absurd listed List.not_mem_nil
  | cons d' rest' ih =>
    cases ds with
    | nil => cases addresses
    | cons d rest =>
      rw [List.map_cons, List.map_cons, List.cons.injEq] at addresses
      obtain ⟨here, later⟩ := addresses
      rw [enlistEach, enlistEach]
      by_cases inRest : a ∈ rest'.map (·.address)
      · exact ih later leading inRest
      · have first : a = d'.address := (List.mem_cons.1 listed).resolve_right inRest
        rw [isReserved_enlistEach_of_notMem inRest,
          isReserved_enlistEach_of_notMem (later ▸ inRest), first, isReserved_enlist, here,
          isReserved_enlist, leading]

variable {A : StoreTerms σ} {c : Catalog} {s : σ}

/-- A listing that was taken in to its end was taken in device by device. -/
theorem ensures_enlistAll_ok (index : Nat) (ds : List Descriptor) :
    Ensures A free (enlistAll index ds).run c s fun result c' _ =>
      ∀ candidates, result = .ok candidates →
        ∃ ts : List TrackedDevice, ts.map (·.address) = ds.map (·.address) ∧
          c' = c.enlistEach index ts := by
  induction ds generalizing index c s with
  | nil =>
    intro candidates _
    exact ⟨[], rfl, rfl⟩
  | cons d ds ih =>
    rw [ensures_enlistAll_cons]
    intro reply s' _
    refine ⟨trivial, ?_⟩
    cases reply with
    | error e => exact nofun
    | ok home =>
      apply (ih (index + 1)).mono
      intro others c' s'' taken
      cases others with
      | error e => exact nofun
      | ok others =>
        intro candidates _
        obtain ⟨ts, addresses, rfl⟩ := taken others rfl
        refine ⟨d.tracked home :: ts, ?_, rfl⟩
        rw [List.map_cons, List.map_cons, addresses]
        rfl

end Catalog

/-! ## Admissible devices -/

/-- A setup may name the devices that are known and do not stay with the host. -/
theorem Plan.admissible_eq_ok_iff (c : Catalog) (devices : List PciAddress) :
    admissible c devices = .ok () ↔
      ∀ a ∈ devices, (c.device? a).isSome = true ∧ c.isReserved a = false := by
  unfold admissible
  rw [List.forM_eq_forM]
  induction devices with
  | nil => simp [pure, Except.pure]
  | cons a rest ih =>
    rw [List.forM_cons, List.forall_mem_cons, ← ih]
    cases known : c.device? a with
    | none => simp [bind, Except.bind]
    | some d =>
      cases kept : c.isReserved a with
      | true => simp [bind, Except.bind]
      | false => simp [bind, Except.bind]

/-! ## Setups -/

namespace Setup

variable {store : StoreHandler τ} {clock : Nat → Nat} {policy : Policy} {g : SetupGoal}
  {c : Catalog} {w : World τ}

/-- The devices that a listing leaves with the host. -/
def leading (c : Catalog) (ds : List Descriptor) : List PciAddress :=
  (ds.take c.reserveLeading).map (·.address)

/-- A device that the listing leaves with the host is reserved once the listing was taken in. -/
theorem isReserved_of_mem_leading {ds : List Descriptor} {ts : List TrackedDevice} {a : PciAddress}
    (taken : ts.map (·.address) = ds.map (·.address)) (distinct : (ds.map (·.address)).Nodup)
    (h : a ∈ leading c ds) : (c.enlistEach 0 ts).isReserved a = true := by
  unfold leading at h
  rw [List.map_take] at h
  obtain ⟨place, hplace, stands⟩ := List.mem_iff_getElem.1 h
  have first : place < c.reserveLeading := by
    have := hplace
    rw [List.length_take] at this
    omega
  have stands' : (ts.map (·.address))[place]? = some a := by
    rw [taken, ← stands, List.getElem_take]
    exact List.getElem?_eq_getElem _
  rw [Catalog.isReserved_enlistEach (taken ▸ distinct) stands']
  simp only [Nat.zero_add, first, decide_true]

/-- A setup that names a device which stays with the host is refused, and changes nothing. -/
theorem refuses_leading {ds : List Descriptor} {a : PciAddress}
    (listed : (store (.listDevices policy.filter) w.host).1 = .ok ds)
    (distinct : (ds.map (·.address)).Nodup) (reserved : a ∈ leading c ds)
    (named : a ∈ g.devices.toList) :
    Ensures (of store) (within fun _ => False) (run policy g) c w.host fun outcome _ _ =>
      ∃ e, outcome = .rejected e := by
  rw [ensures_run, ensures_plan_setup, Catalog.ensures_enumerate, asks_of, listed]
  refine ⟨nofun, ?_⟩
  refine ((Catalog.within_enlistAll 0 ds).also (Catalog.ensures_enlistAll_ok 0 ds)).mono ?_
  intro result c' s' taken
  cases result with
  | error e => exact ⟨e, rfl⟩
  | ok candidates =>
    obtain ⟨ts, addresses, rfl⟩ := taken.2 candidates rfl
    have stays := isReserved_of_mem_leading addresses distinct reserved
    have refused : Plan.admissible (c.enlistEach 0 ts) g.devices.toList ≠ .ok () := by
      intro admitted
      have free := ((Plan.admissible_eq_ok_iff _ _).1 admitted a named).2
      rw [stays] at free
      cases free
    rw [skipOnError_ok]
    cases admitted : Plan.admissible (c.enlistEach 0 ts) g.devices.toList with
    | error e => exact ⟨e, rfl⟩
    | ok _ => exact absurd admitted refused

/-- Reserved devices are never repurposed.  Whatever the catalog held before, however the calls
are answered, and whatever the clock shows: no call of a setup unbinds, binds, or writes or clears
the record of a device that the listing of this run, the first call that it makes, leaves with the
host; and a setup that names such a device is refused without a changing call. -/
theorem reserved_devices_untouched (store : StoreHandler τ) (clock : Nat → Nat) (policy : Policy)
    (g : SetupGoal) (c : Catalog) (w : World τ) (ds : List Descriptor)
    (listed : (store (.listDevices policy.filter) w.host).1 = .ok ds)
    (distinct : (ds.map (·.address)).Nodup) :
    (∀ a ∈ leading c ds, ∀ e ∈ storeCalls store clock (run policy g) c w,
      e.call.resource? ≠ some (.device a)) ∧
    ((∃ a ∈ leading c ds, a ∈ g.devices.toList) →
      (∃ e, (runOn store clock (run policy g) c w).1.1 = .rejected e) ∧
      ∀ e ∈ storeCalls store clock (run policy g) c w, e.call.writes = false) := by
  have refused : ∀ a ∈ leading c ds, a ∈ g.devices.toList →
      (∀ e ∈ storeCalls store clock (run policy g) c w, e.call.resource? = none) ∧
        ∃ e, (runOn store clock (run policy g) c w).1.1 = .rejected e := by
    intro a reserved named
    have concluded := (refuses_leading listed distinct reserved named).of_run store clock w id
      fun call t => rfl
    refine ⟨fun e he => ?_, concluded.2⟩
    exact Option.eq_none_iff_forall_ne_some.2 fun r hr => concluded.1 e he r hr
  constructor
  · intro a reserved e he about
    by_cases named : a ∈ g.devices.toList
    · have none := (refused a reserved named).1 e he
      rw [about] at none
      cases none
    · have kept := (within_run (A := of store) (F := fun r => r ∈ g.resources) (c := c)
        (s := w.host) policy g fun r hr => hr).of_run store clock w id fun call t => rfl
      have inside := kept.1 e he (.device a) about
      exact named (SetupGoal.device_mem_resources.1 inside)
  · rintro ⟨a, reserved, named⟩
    have concluded := refused a reserved named
    refine ⟨concluded.2, fun e he => ?_⟩
    rw [← StoreCall.isSome_resource?, concluded.1 e he]
    rfl

/-- On a machine with two controllers, a setup that names both is refused without a changing call:
the first of them serves the management of the machine. -/
theorem twoNics_both_refused :
    (∃ e, (runOn SimHost.answer (fun _ => 0)
      (run {} (Topology.handOver [Topology.managementNic, Topology.dataNic]))
      (Policy.freshCatalog {}) { host := Topology.twoNics }).1.1 = .rejected e) ∧
    ∀ e ∈ storeCalls SimHost.answer (fun _ => 0)
      (run {} (Topology.handOver [Topology.managementNic, Topology.dataNic]))
      (Policy.freshCatalog {}) { host := Topology.twoNics }, e.call.writes = false :=
  (reserved_devices_untouched SimHost.answer (fun _ => 0) {}
    (Topology.handOver [Topology.managementNic, Topology.dataNic]) (Policy.freshCatalog {})
    { host := Topology.twoNics } Topology.twoNics.devices.tail rfl (by decide)).2
      ⟨Topology.managementNic, by decide, by decide⟩

end Setup

end Provision
