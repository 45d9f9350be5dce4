import Provision.Proofs.Mirror

/-!
# The devices on record

An engine gathers the devices on record from three places: the matching devices that
the listing shows with a record, the devices on record whose driver cannot be read, and
what the catalog knows.  It asks for no driver of a device that the catalog knows
already, so a stale record in the catalog would add a device and a missing one would lose
it.  The catalog mirrors the host, and together the three places are the records.

Main results:

- `Catalog.lists_recorded_enumerate`: the listing shows devices with their records.
- `Catalog.covers_adoptRecorded`: every device on record is known or reported missing.
- `Catalog.Mirrors.mem_known_iff`: what a mirror knows to be on record.
- `Engine.none_overlooked`: the devices on record, after any operations.
-/

namespace Provision

open StoreTerms CatalogProg

/-! ## Hosts that answer -/

/-- Whether a call asks for the driver of a device that the host lacks. -/
def SimHost.misses (h : SimHost) : StoreCall → Bool
  | .boundDriver a => (h.find? a).isNone
  | _ => false

/-- The terms of a host on which no call fails but those about the drivers of devices that it
lacks. -/
def StoreTerms.attentive : StoreTerms SimHost := fun call h r h' =>
  orFails SimHost.answer call h r h' ∧ (r.isOk = true ∨ h.misses call = true)

variable {α : Type} {call : StoreCall} {c c' : Catalog} {h : SimHost}

/-- A call that reads leaves the host as it is, whether it is answered or not. -/
theorem StoreTerms.attentive.same {r : call.Reply} {h' : SimHost} (answered : attentive call h r h')
    (reads : call.writes = false) : h' = h := by
  rcases answered.1 with made | ⟨e, -, same⟩
  · rw [← SimHost.answer_of_read (h := h) reads, made]
  · exact same

/-- A call that reads is answered, unless it asks for the driver of a missing device. -/
theorem asks_attentive {Q : call.Reply → SimHost → Prop} (reads : call.writes = false)
    (there : h.misses call = false)
    (succeeds : ∀ v, (SimHost.answer call h).1 = .ok v → Q (.ok v) h) :
    Asks attentive free call h Q := by
  intro r h' answered
  obtain rfl : h' = h := answered.same reads
  have fine : r.isOk = true := answered.2.resolve_right (by simp [there])
  cases r with
  | error e => cases fine
  | ok v =>
    rcases answered.1 with made | ⟨e, impossible, -⟩
    · exact ⟨trivial, succeeds v (congrArg Prod.fst made)⟩
    · cases impossible

/-- What a host on which any call may fail ensures, one that answers does. -/
theorem CatalogProg.Ensures.of_unreliable {p : CatalogProg α} {Q : α → Catalog → SimHost → Prop}
    (contract : Ensures (orFails SimHost.answer) free p c h Q) : Ensures attentive free p c h Q :=
  contract.weaken (fun _ _ _ _ answered => answered.1) fun _ _ _ _ _ _ => trivial

namespace Catalog

/-! ## The listing -/

/-- Devices with the records that a host holds of them. -/
def Shown (h : SimHost) (found : List Candidate) : Prop :=
  ∀ candidate ∈ found, h.homes.get? candidate.device.address = candidate.device.homeDriver

theorem lists_recorded_enlistAll (index : Nat) (ds : List Descriptor) :
    Ensures attentive free (enlistAll index ds).run c h fun r _ h' =>
      h' = h ∧ ∃ found, r = .ok found ∧ Shown h found := by
  induction ds generalizing index c with
  | nil =>
    rw [ensures_enlistAll_nil]
    exact ⟨rfl, [], rfl, nofun⟩
  | cons d ds ih =>
    rw [ensures_enlistAll_cons]
    refine asks_attentive rfl rfl fun home read => ?_
    obtain rfl : h.homes.get? d.address = home := Except.ok.inj read
    apply (ih (index + 1)).mono
    rintro r c' h' ⟨rfl, others, rfl, shown⟩
    exact ⟨rfl, _, rfl, List.forall_mem_cons.2 ⟨rfl, shown⟩⟩

/-- The listing succeeds, and shows the devices with their records. -/
theorem lists_recorded_enumerate (filter : DeviceFilter) :
    Ensures attentive free (enumerate filter).run c h fun r _ h' =>
      h' = h ∧ ∃ found, r = .ok found ∧ Shown h found := by
  rw [ensures_enumerate]
  exact asks_attentive rfl rfl fun ds _ => lists_recorded_enlistAll 0 ds

/-! ## The records -/

/-- A catalog covers addresses together with a list: each of them is known or in the list, and
the list holds nothing else. -/
structure Covers (c : Catalog) (missing addresses : List PciAddress) : Prop where
  sound : ∀ a ∈ missing, a ∈ addresses
  complete : ∀ a ∈ addresses, (c.device? a).isSome ∨ a ∈ missing

/-- A device that is known stays known when another one is taken in. -/
theorem known_insert {a b : PciAddress} {d : TrackedDevice} (known : (c.device? a).isSome) :
    (device? { c with records := c.records.insert b d } a).isSome := by
  show ((c.records.insert b d).get? a).isSome
  rw [SortedMap.get?_insert]
  by_cases same : a = b
  · rw [if_pos same]
    rfl
  · rw [if_neg same]
    exact known

/-- Devices on record are taken in one after the other, or put down as missing; none that is
known is forgotten. -/
theorem covers_adoptAll (recorded : List (PciAddress × String)) :
    Ensures attentive free (adoptAll recorded).run c h fun r c' h' =>
      h' = h ∧ (∀ a, (c.device? a).isSome → (c'.device? a).isSome) ∧
        ∃ missing, r = .ok missing ∧ c'.Covers missing (recorded.map Prod.fst) := by
  induction recorded generalizing c with
  | nil =>
    rw [ensures_adoptAll_nil]
    exact ⟨rfl, fun _ known => known, [], rfl, nofun, nofun⟩
  | cons entry rest ih =>
    obtain ⟨b, home⟩ := entry
    -- once `b` is known the rest covers it too
    have settled {c : Catalog} (here : (c.device? b).isSome) :
        Ensures attentive free (adoptAll rest).run c h fun r c' h' =>
          h' = h ∧ (∀ a, (c.device? a).isSome → (c'.device? a).isSome) ∧
            ∃ missing, r = .ok missing ∧ c'.Covers missing (b :: rest.map Prod.fst) := by
      apply (ih (c := c)).mono
      rintro r c' h' ⟨rfl, stays, missing, rfl, covers⟩
      refine ⟨rfl, stays, missing, rfl, fun a lost => .tail b (covers.sound a lost), ?_⟩
      exact List.forall_mem_cons.2 ⟨.inl (stays b here), covers.complete⟩
    rw [ensures_adoptAll_cons, List.map_cons]
    by_cases known : (c.device? b).isSome
    · rw [if_pos known]
      exact settled known
    · rw [if_neg known]
      intro r h' answered
      obtain rfl : h' = h := answered.same rfl
      refine ⟨trivial, ?_⟩
      cases r with
      | ok current =>
        have here : (device? { c with records := c.records.insert b (adopted b current home) }
            b).isSome := by
          show ((c.records.insert b _).get? b).isSome
          rw [SortedMap.get?_insert_self]
          rfl
        apply (settled here).mono
        rintro r c' h'' ⟨rfl, stays, covers⟩
        exact ⟨rfl, fun a before => stays a (known_insert before), covers⟩
      | error e =>
        apply (ih (c := c)).mono
        rintro r c' h'' ⟨rfl, stays, missing, rfl, covers⟩
        refine ⟨rfl, stays, b :: missing, rfl, ?_, ?_⟩
        · exact fun a lost => List.mem_cons.2 ((List.mem_cons.1 lost).imp_right (covers.sound a))
        · refine List.forall_mem_cons.2 ⟨.inr (List.mem_cons_self ..), fun a later => ?_⟩
          exact (covers.complete a later).imp_right (List.mem_cons_of_mem b)

/-- Every device on record is known afterwards, or reported missing. -/
theorem covers_adoptRecorded :
    Ensures attentive free adoptRecorded.run c h fun r c' h' =>
      h' = h ∧ ∃ missing, r = .ok missing ∧ c'.Covers missing h.homes.keys := by
  rw [ensures_adoptRecorded]
  refine asks_attentive rfl rfl fun recorded read => ?_
  obtain rfl : h.homes = recorded := Except.ok.inj read
  rw [skipOnError_ok]
  apply (covers_adoptAll h.homes.entries).mono
  rintro r c' h' ⟨rfl, -, covers⟩
  exact ⟨rfl, covers⟩

/-- What a mirror knows to be on record are the known devices that are on record. -/
theorem Mirrors.mem_known_iff (mirrors : c.Mirrors h) (a : PciAddress) :
    a ∈ (c.devices.filter (·.homeDriver.isSome)).map (·.address) ↔
      (c.device? a).isSome ∧ (h.homes.get? a).isSome := by
  rw [List.mem_map]
  constructor
  · rintro ⟨d, listed, rfl⟩
    obtain ⟨known, recorded⟩ := List.mem_filter.1 listed
    obtain ⟨⟨b, d⟩, entry, rfl⟩ := List.mem_map.1 known
    have filed : c.device? b = some d := SortedMap.get?_of_mem entry
    obtain ⟨rfl, mirrored⟩ := mirrors.devices b d filed
    rw [filed, mirrored.record]
    exact ⟨rfl, recorded⟩
  · rintro ⟨known, recorded⟩
    obtain ⟨d, filed⟩ := Option.isSome_iff_exists.1 known
    obtain ⟨rfl, mirrored⟩ := mirrors.devices a d filed
    refine ⟨d, List.mem_filter.2 ⟨?_, mirrored.record ▸ recorded⟩, rfl⟩
    exact List.mem_map.2 ⟨(d.address, d), Entries.mem_of_get? filed, rfl⟩

end Catalog

/-! ## The devices on record -/

namespace Engine

/-- The three places together are the records. -/
theorem mem_gathered_iff {found : List Candidate} {missing : List PciAddress}
    (shown : Catalog.Shown h found) (covers : c.Covers missing h.homes.keys)
    (mirrors : c.Mirrors h) (a : PciAddress) :
    a ∈ ((found.map (·.device)).filter (·.homeDriver.isSome)).map (·.address) ++ missing ++
        (c.devices.filter (·.homeDriver.isSome)).map (·.address) ↔
      (h.homes.get? a).isSome := by
  rw [List.mem_append, List.mem_append, mirrors.mem_known_iff]
  constructor
  · rintro ((listed | lost) | ⟨-, there⟩)
    · obtain ⟨d, taken, rfl⟩ := List.mem_map.1 listed
      obtain ⟨taken, home⟩ := List.mem_filter.1 taken
      obtain ⟨candidate, among, rfl⟩ := List.mem_map.1 taken
      rw [shown candidate among]
      exact home
    · exact (h.homes.mem_keys a).1 (covers.sound a lost)
    · exact there
  · intro there
    rcases covers.complete a ((h.homes.mem_keys a).2 there) with known | lost
    · exact .inr ⟨known, there⟩
    · exact .inl (.inr lost)

theorem ensures_recordedDevices {A K : StoreTerms SimHost} (policy : Policy)
    {Q : Except Error (List PciAddress) → Catalog → SimHost → Prop} :
    Ensures A K (recordedDevices policy).run c h Q ↔
      Ensures A K (Catalog.enumerate policy.filter).run c h (skipOnError Q fun found c h =>
        Ensures A K Catalog.adoptRecorded.run c h (skipOnError Q fun missing c h =>
          Q (.ok (SortedSet.ofList
            (((found.map (·.device)).filter (·.homeDriver.isSome)).map (·.address) ++ missing ++
              (c.devices.filter (·.homeDriver.isSome)).map (·.address))).toList) c h)) := by
  unfold recordedDevices Catalog.discoverRecorded
  rw [ensures_then, ensures_then]
  apply ensures_congr
  intro r c' h'
  cases r with
  | error e => exact Iff.rfl
  | ok found =>
    show Ensures A K (Catalog.adoptRecorded >>= _).run c' h' Q ↔ _
    rw [ensures_then]
    exact Iff.rfl

/-- An engine whose catalog mirrors a host that answers finds the devices on record. -/
theorem finds_recordedDevices (policy : Policy) (mirrors : c.Mirrors h) :
    Ensures attentive free (recordedDevices policy).run c h fun r _ _ =>
      ∃ found, r = .ok found ∧ found.Pairwise (fun a b => compare a b = .lt) ∧ found.Nodup ∧
        ∀ a, a ∈ found ↔ (h.homes.get? a).isSome := by
  rw [ensures_recordedDevices]
  apply ((Catalog.lists_recorded_enumerate policy.filter).also
    (Ensures.of_unreliable (mirroring_enumerate policy.filter mirrors))).mono
  rintro r c' h' ⟨⟨rfl, found, rfl, shown⟩, mirrors'⟩
  apply (Catalog.covers_adoptRecorded.also
    (Ensures.of_unreliable (mirroring_adoptRecorded mirrors'))).mono
  rintro r c'' h'' ⟨⟨rfl, missing, rfl, covers⟩, mirrors''⟩
  refine ⟨_, rfl, SortedSet.ascending_toList _, SortedSet.nodup_toList _, fun a => ?_⟩
  rw [SortedSet.mem_toList, SortedSet.contains_ofList]
  exact mem_gathered_iff shown covers mirrors'' a

/-- No recorded device is overlooked.  Operations have been carried out on one catalog that was
fresh at first, on a host on which calls failed without effect at any places.  When an engine then
asks for the devices on record, and no call fails except that the driver of a device that the host
lacks may not be read, it gives the devices that have a durable record, each once and in ascending
order, whether or not the filter matches them and the host has them. -/
theorem none_overlooked (policy : Policy) (operations : List Operation)
    (fails : Nat → Option Error) (clock : Nat → Nat) (w : World (SimHost × Nat))
    (distinct : (w.host.1.devices.map (·.address)).Nodup) :
    let store := SimHost.answer.unreliable fails
    let before := runOn store clock (Session.run policy operations) policy.freshCatalog w
    (∀ e ∈ storeCalls store clock (recordedDevices policy).run before.1.2 before.2,
        e.reply.isOk = true ∨ e.before.1.misses e.call = true) →
      ∃ found,
        (runOn store clock (recordedDevices policy).run before.1.2 before.2).1.1 = .ok found ∧
        found.Pairwise (fun a b => compare a b = .lt) ∧ found.Nodup ∧
        ∀ a, a ∈ found ↔ (before.2.host.1.homes.get? a).isSome := by
  intro store before answers
  have start : policy.freshCatalog.Mirrors w.host.1 := Catalog.mirrors_new _ _ distinct
  have mirrors : before.1.2.Mirrors before.2.host.1 :=
    ((mirroring_session policy operations start).of_run store clock w Prod.fst
      fun call s => StoreHandler.answer_unreliable SimHost.answer fails call s).2
  have attends : ∀ e ∈ storeCalls store clock (recordedDevices policy).run before.1.2 before.2,
      attentive e.call e.before.1 e.reply e.after.1 := by
    intro e made
    have answered := StoreHandler.answer_unreliable SimHost.answer fails e.call e.before
    have replied : SimHost.answer.unreliable fails e.call e.before = (e.reply, e.after) :=
      answer_of_mem_storeCalls made
    rw [replied] at answered
    exact ⟨answered, answers e made⟩
  exact ((finds_recordedDevices policy mirrors).of_storeCalls before.2 Prod.fst attends).2

/-- A display controller that no filter matches and a device that the host lacks are on record
from before, and a setup leaves a controller stranded with its record.  The engine finds all
three. -/
theorem all_three_found :
    let lost : PciAddress := ⟨0, 3, 0, 0⟩
    let store := SimHost.answer.unreliable fun place =>
      if place ∈ [27, 29] then some (.noDevice Topology.dataNic) else none
    let before := runOn store (fun _ => 0)
      (Session.run {} [.eligibleDevices, .run (.setup (Topology.handOver [Topology.dataNic]))])
      (Policy.freshCatalog {})
      { host := ({ Topology.twoNics with
          homes := SortedMap.ofList [(Topology.display, "vmwgfx"), (lost, "igb")] }, 0) }
    let result := (runOn store (fun _ => 0) (recordedDevices {}).run before.1.2 before.2).1.1
    result.toOption = some [Topology.display, Topology.dataNic, lost] ∧
      ∃ found, result = .ok found ∧ found.Pairwise (fun a b => compare a b = .lt) ∧
        found.Nodup ∧ ∀ a, a ∈ found ↔ (before.2.host.1.homes.get? a).isSome := by
  refine ⟨by decide +kernel, ?_⟩
  exact none_overlooked {} _ _ (fun _ => 0) _ (by decide) (by decide +kernel)

end Engine

end Provision
