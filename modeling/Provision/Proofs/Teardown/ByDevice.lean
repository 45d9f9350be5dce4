import Provision.Proofs.Histories
import Provision.Proofs.Teardown.Settlement

/-!
# Teardowns device by device

A teardown of several devices does to each of them what a teardown of that device alone
does.  What becomes of a device is settled on the host as the teardown finds it, and what
is settled of one device leaves the others as they are; so the order does not matter, and
neither does it matter whether one catalog serves all devices or each has a fresh one.

Main results:

- `Teardown.settles_run`: a teardown settles every device that it names.
- `Teardown.settles_history`: so do teardowns of the devices one after the other.
- `Teardown.LeavesAll.unique`: the order of the devices does not matter.
- `Teardown.decomposes_by_device`: a teardown is the teardowns of its devices.
-/

namespace Provision

open StoreTerms CatalogProg

/-! ## Reports -/

namespace TeardownReport

/-- The part of a report that is about one device. -/
def only (report : TeardownReport) (a : PciAddress) : TeardownReport where
  restored := report.restored.filter (· == a)
  skipped := report.skipped.filter (· == a)
  unrestored := report.unrestored.filter (·.1 == a)

/-- A report puts every device of a set in exactly one of its lists, each of which is in the order
of addresses. -/
structure Partitions (report : TeardownReport) (devices : SortedSet PciAddress) : Prop where
  restored : report.restored.Pairwise fun a b => compare a b = .lt
  skipped : report.skipped.Pairwise fun a b => compare a b = .lt
  unrestored : (report.unrestored.map Prod.fst).Pairwise fun a b => compare a b = .lt
  once : (report.restored ++ report.skipped ++ report.unrestored.map Prod.fst).Perm devices.toList

end TeardownReport

namespace Teardown

variable {a b : PciAddress} {devices : List PciAddress} {fate : PciAddress → Fate}

/-- The report of devices of which it is known what becomes of them. -/
def reportOf (fate : PciAddress → Fate) (devices : List PciAddress) : TeardownReport :=
  devices.foldr (fun a report => note a (fate a) report) {}

theorem only_note_self (a : PciAddress) (x : Fate) (report : TeardownReport) :
    (note a x report).only a = note a x (report.only a) := by
  cases x <;> simp [note, TeardownReport.only]

theorem only_note_of_ne (x : Fate) (report : TeardownReport) (ne : b ≠ a) :
    (note b x report).only a = report.only a := by
  cases x <;> simp [note, TeardownReport.only, ne]

/-- A report about other devices says nothing of a device. -/
theorem only_reportOf_of_notMem (other : a ∉ devices) : (reportOf fate devices).only a = {} := by
  induction devices with
  | nil => rfl
  | cons b rest ih =>
    rw [List.mem_cons, not_or] at other
    exact (only_note_of_ne _ _ fun same => other.1 same.symm).trans (ih other.2)

/-- A report says of a device what becomes of it. -/
theorem only_reportOf (distinct : devices.Nodup) (named : a ∈ devices) :
    (reportOf fate devices).only a = reportOf fate [a] := by
  induction devices with
  | nil => exact absurd named List.not_mem_nil
  | cons b rest ih =>
    obtain ⟨first, later⟩ := List.nodup_cons.1 distinct
    rcases List.mem_cons.1 named with rfl | named
    · refine (only_note_self _ _ _).trans (congrArg (note a (fate a)) ?_)
      exact only_reportOf_of_notMem first
    · have elsewhere : b ≠ a := fun same => first (same ▸ named)
      exact (only_note_of_ne _ _ elsewhere).trans (ih later named)

/-- A device is reported as restored when that is what became of it. -/
theorem mem_restored_reportOf :
    a ∈ (reportOf fate devices).restored ↔ a ∈ devices ∧ fate a = .restored := by
  induction devices with
  | nil => simp [reportOf]
  | cons b rest ih =>
    show a ∈ (note b (fate b) (reportOf fate rest)).restored ↔ _
    by_cases here : a = b
    · subst here
      cases became : fate a <;> simp [note, ih, became]
    · cases fate b <;> simp [note, ih, here]

/-- A device is reported as left behind when that is what became of it, with the error that it
met. -/
theorem mem_unrestored_reportOf {e : Error} :
    (a, e) ∈ (reportOf fate devices).unrestored ↔ a ∈ devices ∧ fate a = .unrestored e := by
  induction devices with
  | nil => simp [reportOf]
  | cons b rest ih =>
    show (a, e) ∈ (note b (fate b) (reportOf fate rest)).unrestored ↔ _
    by_cases here : a = b
    · subst here
      cases became : fate a with
      | unrestored e' => simp [note, ih, became, eq_comm]
      | restored => simp [note, ih, became]
      | skipped => simp [note, ih, became]
    · cases fate b <;> simp [note, ih, here]

/-- The devices of each list of a report stand in the order in which they were named. -/
theorem sublist_reportOf (fate : PciAddress → Fate) (devices : List PciAddress) :
    (reportOf fate devices).restored.Sublist devices ∧
      (reportOf fate devices).skipped.Sublist devices ∧
      ((reportOf fate devices).unrestored.map Prod.fst).Sublist devices := by
  induction devices with
  | nil => exact ⟨.slnil, .slnil, .slnil⟩
  | cons a rest ih =>
    obtain ⟨restored, skipped, unrestored⟩ := ih
    show (note a (fate a) (reportOf fate rest)).restored.Sublist _ ∧
      (note a (fate a) (reportOf fate rest)).skipped.Sublist _ ∧
      ((note a (fate a) (reportOf fate rest)).unrestored.map Prod.fst).Sublist _
    cases fate a with
    | restored => exact ⟨restored.cons_cons a, skipped.cons a, unrestored.cons a⟩
    | skipped => exact ⟨restored.cons a, skipped.cons_cons a, unrestored.cons a⟩
    | unrestored e => exact ⟨restored.cons a, skipped.cons a, unrestored.cons_cons a⟩

/-- Every device that was named stands in one of the lists of a report, and in no other. -/
theorem perm_reportOf (fate : PciAddress → Fate) (devices : List PciAddress) :
    ((reportOf fate devices).restored ++ (reportOf fate devices).skipped ++
      (reportOf fate devices).unrestored.map Prod.fst).Perm devices := by
  induction devices with
  | nil => exact .refl _
  | cons a rest ih =>
    refine List.Perm.trans ?_ (ih.cons a)
    show ((note a (fate a) (reportOf fate rest)).restored ++
      (note a (fate a) (reportOf fate rest)).skipped ++
      (note a (fate a) (reportOf fate rest)).unrestored.map Prod.fst).Perm _
    cases fate a with
    | restored => exact .refl _
    | skipped => exact List.perm_middle.append_right _
    | unrestored e => exact List.perm_middle

/-- The report of a teardown puts every device in exactly one of its lists. -/
theorem partitions_reportOf (fate : PciAddress → Fate) (devices : SortedSet PciAddress) :
    (reportOf fate devices.toList).Partitions devices := by
  obtain ⟨restored, skipped, unrestored⟩ := sublist_reportOf fate devices.toList
  have ascending := devices.ascending_toList
  exact ⟨ascending.sublist restored, ascending.sublist skipped, ascending.sublist unrestored,
    perm_reportOf fate devices.toList⟩

/-! ## Preparing -/

variable {c c' : Catalog} {h h' h'' : SimHost} {listed : PciAddress → Bool}

/-- A device is taken in with its record. -/
theorem InStep.enlist {x : Bool} (index : Nat) (d : Descriptor) (inStep : InStep x a c h) :
    InStep (x || d.address == a) a (c.enlist index (d.tracked (h.homes.get? d.address))) h := by
  constructor
  · intro driver known
    rw [Catalog.home?_enlist] at known
    change (if a = d.address then h.homes.get? d.address else c.home? a) = some driver at known
    by_cases here : a = d.address
    · rwa [if_pos here, ← here] at known
    · rw [if_neg here] at known
      exact inStep.home driver known
  · intro unrecorded
    by_cases here : a = d.address
    · subst here
      simp [Catalog.enlist, Catalog.device?, Descriptor.tracked]
    · have elsewhere : d.address ≠ a := fun same => here same.symm
      rw [Catalog.device?_enlist_of_ne here, inStep.known unrecorded]
      simp [elsewhere]

/-- A device on record is taken in with its record. -/
theorem InStep.adopt {x : Bool} {current : Option String} {home : String} (inStep : InStep x a c h)
    (recorded : h.homes.get? b = some home) :
    InStep x a { c with records := c.records.insert b (Catalog.adopted b current home) } h := by
  constructor
  · intro driver known
    rw [Catalog.home?_adopted] at known
    by_cases here : a = b
    · rw [if_pos here] at known
      rw [here, recorded, known]
    · rw [if_neg here] at known
      exact inStep.home driver known
  · intro unrecorded
    have here : a ≠ b := fun same => by
      rw [same, recorded] at unrecorded
      cases unrecorded
    rw [← inStep.known unrecorded]
    exact congrArg Option.isSome (SortedMap.get?_insert_of_ne _ _ here)

/-- The devices of a listing are taken in, in order, up to one whose record cannot be read. -/
theorem inStep_enlistUpTo (hit : StoreCall → Prop) (index : Nat) (ds : List Descriptor)
    (inStep : ∀ a, InStep (listed a) a c h) :
    Ensures (failing SimHost.answer hit) free (Catalog.enlistAll index ds).run c h
      fun result c' h' => h' = h ∧ ∃ taken : List PciAddress,
        (∀ a, InStep (listed a || taken.contains a) a c' h) ∧
          match result with
          | .ok _ => ds.map (·.address) = taken
          | .error _ => ∃ a later, hit (.homeDriver a) ∧ ds.map (·.address) = taken ++ a :: later := by
  induction ds generalizing index c listed with
  | nil =>
    rw [Catalog.ensures_enlistAll_nil]
    exact ⟨rfl, [], fun a => by simpa using inStep a, rfl⟩
  | cons d ds ih =>
    rw [Catalog.ensures_enlistAll_cons]
    intro reply h₁ answered
    refine ⟨trivial, ?_⟩
    rcases answered with answered | ⟨fails, e, rfl, rfl⟩
    · cases answered
      apply (ih (index + 1) fun a => (inStep a).enlist index d).mono
      intro others c' h' ends
      obtain ⟨rfl, taken, inStep', reached⟩ := ends
      have known (a : PciAddress) :
          InStep (listed a || (d.address :: taken).contains a) a c' h' := by
        rw [List.contains_cons, ← Bool.or_assoc, Bool.beq_comm]
        exact inStep' a
      cases others with
      | ok others => exact ⟨rfl, d.address :: taken, known, congrArg (d.address :: ·) reached⟩
      | error e =>
        obtain ⟨a, later, fails, addresses⟩ := reached
        exact ⟨rfl, d.address :: taken, known, a, later, fails,
          congrArg (d.address :: ·) addresses⟩
    · exact ⟨rfl, [], fun a => by simpa using inStep a, d.address, _, fails, rfl⟩

/-- On a host on which no record is unreadable, a listing is taken in to its end. -/
theorem inStep_enlistAll (index : Nat) (ds : List Descriptor)
    (inStep : ∀ a, InStep (listed a) a c h) :
    Ensures (of SimHost.answer) free (Catalog.enlistAll index ds).run c h fun result c' h' =>
      (∃ candidates, result = .ok candidates) ∧ h' = h ∧
        ∀ a, InStep (listed a || (ds.map (·.address)).contains a) a c' h := by
  apply (inStep_enlistUpTo (fun _ => False) index ds inStep).of_failing.mono
  intro result c' h' ends
  obtain ⟨same, taken, inStep', reached⟩ := ends
  cases result with
  | ok candidates => exact ⟨⟨candidates, rfl⟩, same, reached ▸ inStep'⟩
  | error e =>
    obtain ⟨_, _, fails, _⟩ := reached
    exact fails.elim

/-- The devices on record are taken in, whether what they are bound to can be read or not. -/
theorem inStep_adoptAll (recorded : List (PciAddress × String))
    (there : ∀ entry ∈ recorded, h.homes.get? entry.1 = some entry.2)
    (inStep : ∀ a, InStep (listed a) a c h) :
    Ensures (orFails SimHost.answer) free (Catalog.adoptAll recorded).run c h fun result c' h' =>
      (∃ missing, result = .ok missing) ∧ h' = h ∧ ∀ a, InStep (listed a) a c' h := by
  induction recorded generalizing c with
  | nil =>
    rw [Catalog.ensures_adoptAll_nil]
    exact ⟨⟨[], rfl⟩, rfl, inStep⟩
  | cons entry rest ih =>
    obtain ⟨b, home⟩ := entry
    obtain ⟨here, later⟩ := List.forall_mem_cons.1 there
    rw [Catalog.ensures_adoptAll_cons]
    by_cases known : (c.device? b).isSome
    · rw [if_pos known]
      exact ih later inStep
    · rw [if_neg known]
      intro reply h₁ answered
      obtain rfl : h₁ = h := (SimHost.after_orFails answered).elim id id
      refine ⟨trivial, ?_⟩
      cases reply with
      | ok current => exact ih later fun a => (inStep a).adopt here
      | error e =>
        apply (ih later inStep).mono
        intro result c' h' ends
        obtain ⟨⟨missing, rfl⟩, rfl, inStep'⟩ := ends
        exact ⟨⟨b :: missing, rfl⟩, rfl, inStep'⟩

/-- Whether a host lists a device, if it can list any. -/
def lists (filter : DeviceFilter) (h : SimHost) (a : PciAddress) : Bool :=
  !h.faults.listing && (h.listed filter).contains a

/-- Which devices are listed does not depend on what was done to them. -/
theorem lists_congr {filter : DeviceFilter} (machine : SimHost.SameMachine h h') (a : PciAddress) :
    lists filter h' a = lists filter h a := by
  rw [lists, machine.listed_eq, machine.faults, lists]

/-- A listing fails when the host cannot list its devices, and the catalog is in step with the
host afterwards in any case. -/
theorem inStep_enumerate (policy : Policy) (h : SimHost) :
    Ensures (of SimHost.answer) free (Catalog.enumerate policy.filter).run policy.freshCatalog h
      fun result c' h' =>
        (result.map fun _ => ()) = ((h.listDevices policy.filter).map fun _ => ()) ∧ h' = h ∧
          ∀ a, InStep (lists policy.filter h a) a c' h := by
  have fresh (a : PciAddress) : InStep false a policy.freshCatalog h := ⟨nofun, fun _ => rfl⟩
  rw [Catalog.ensures_enumerate, SimHost.asks_of_read rfl]
  show skipOnError _ _ (h.listDevices policy.filter) _ _
  unfold SimHost.listDevices lists
  cases h.faults.listing with
  | true => exact ⟨rfl, rfl, fresh⟩
  | false =>
    rw [if_neg Bool.false_ne_true, skipOnError_ok]
    apply (inStep_enlistAll 0 _ fresh).mono
    intro result c' h' ends
    obtain ⟨⟨candidates, rfl⟩, rfl, inStep⟩ := ends
    exact ⟨rfl, rfl, inStep⟩

/-- Taking in the devices on record keeps the catalog in step with the host, as long as the records
can be read. -/
theorem inStep_adoptReadable (hit : StoreCall → Prop) (readable : ¬ hit .recordedDevices)
    (inStep : ∀ a, InStep (listed a) a c h) :
    Ensures (failing SimHost.answer hit) free Catalog.adoptRecorded.run c h fun result c' h' =>
      (∃ missing, result = .ok missing) ∧ h' = h ∧ ∀ a, InStep (listed a) a c' h := by
  rw [Catalog.ensures_adoptRecorded]
  intro reply h₁ answered
  refine ⟨trivial, ?_⟩
  cases answered.resolve_right fun fails => readable fails.1
  rw [skipOnError_ok]
  exact (inStep_adoptAll _ (fun _ entry => SortedMap.get?_of_mem entry) inStep).of_orFails

theorem inStep_adoptRecorded (inStep : ∀ a, InStep (listed a) a c h) :
    Ensures (of SimHost.answer) free Catalog.adoptRecorded.run c h fun result c' h' =>
      (∃ missing, result = .ok missing) ∧ h' = h ∧ ∀ a, InStep (listed a) a c' h :=
  (inStep_adoptReadable (fun _ => False) id inStep).of_failing

/-- A teardown is prepared whether the devices can be listed or not, and then the catalog is in
step with the host. -/
theorem inStep_prepare (policy : Policy) (h : SimHost) :
    Ensures (of SimHost.answer) free (prepare policy.filter).run policy.freshCatalog h
      fun result c' h' =>
        result = .ok () ∧ h' = h ∧ ∀ a, InStep (lists policy.filter h a) a c' h := by
  rw [ensures_prepare]
  apply (inStep_enumerate policy h).mono
  intro _ c' h' enumerated
  obtain ⟨-, rfl, inStep⟩ := enumerated
  apply (inStep_adoptRecorded inStep).mono
  intro result c'' h'' adopted
  obtain ⟨⟨missing, rfl⟩, rfl, inStep'⟩ := adopted
  exact ⟨rfl, rfl, inStep'⟩

/-! ## Settling devices one after the other -/

variable {x : PciAddress → Settlement} {order : List PciAddress}

/-- A host on which devices are settled one after the other, and no other device is touched. -/
structure LeavesAll (x : PciAddress → Settlement) (order : List PciAddress) (h h' : SimHost) :
    Prop where
  devices : h'.devices = order.foldl (fun ds a => SimHost.moveDevice a (x a).driver ds) h.devices
  records : ∀ a ∈ order, h'.homes.get? a = (x a).record
  elsewhere : ∀ b, b ∉ order → h'.view (.device b) = h.view (.device b)
  machine : SimHost.SameMachine h h'

theorem leavesAll_nil (x : PciAddress → Settlement) (h : SimHost) : LeavesAll x [] h h :=
  ⟨rfl, fun _ ha => absurd ha List.not_mem_nil, fun _ _ => rfl, .refl h⟩

theorem leavesAll_singleton (leaves : Leaves a (x a).driver (x a).record c c' h h') :
    LeavesAll x [a] h h' where
  devices := leaves.devices
  records b hb := by
    rw [List.mem_singleton.1 hb, leaves.homes, if_pos rfl]
  elsewhere b hb := leaves.view (fun same => hb (List.mem_singleton.2 same))
  machine := ⟨leaves.faults, leaves.devices ▸ SimHost.map_fixedPart_moveDevice ..⟩

/-- The record of a device that is not touched stays. -/
theorem LeavesAll.homes_of_notMem (leaves : LeavesAll x order h h') (other : b ∉ order) :
    h'.homes.get? b = h.homes.get? b :=
  congrArg Prod.snd (leaves.elsewhere b other)

/-- Some devices are settled before the others. -/
theorem LeavesAll.append {later : List PciAddress} (first : LeavesAll x order h h')
    (second : LeavesAll x later h' h'') : LeavesAll x (order ++ later) h h'' where
  devices := by rw [second.devices, first.devices, List.foldl_append]
  records a ha := by
    by_cases after : a ∈ later
    · exact second.records a after
    · have before : a ∈ order := (List.mem_append.1 ha).resolve_right after
      exact (second.homes_of_notMem after).trans (first.records a before)
  elsewhere b hb := by
    rw [List.mem_append, not_or] at hb
    exact (second.elsewhere b hb.2).trans (first.elsewhere b hb.1)
  machine := first.machine.trans second.machine

/-- The order of the devices does not matter. -/
theorem LeavesAll.unique {order' : List PciAddress} (leaves : LeavesAll x order h h')
    (leaves' : LeavesAll x order' h h'') (same : order'.Perm order) :
    h''.devices = h'.devices ∧ h''.homes = h'.homes := by
  constructor
  · rw [leaves.devices, leaves'.devices]
    refine same.foldl_eq' (fun a _ b _ ds => ?_) _
    by_cases here : a = b
    · rw [here]
    · exact SimHost.moveDevice_comm here _ _ _
  · refine SortedMap.ext fun b => ?_
    by_cases named : b ∈ order
    · rw [leaves.records b named, leaves'.records b (same.mem_iff.2 named)]
    · have unnamed : b ∉ order' := fun hb => named (same.mem_iff.1 hb)
      rw [leaves.homes_of_notMem named, leaves'.homes_of_notMem unnamed]

/-- Devices are settled one after the other, each on the host as the first one finds it. -/
theorem settles_restoreFrom (total index : Nat) (distinct : devices.Nodup)
    (inStep : ∀ a ∈ devices, InStep (listed a) a c h)
    (settled : ∀ a ∈ devices, settlement h (listed a) a = x a) :
    Ensures (of SimHost.answer) free (restoreFrom total index devices) c h fun report _ h' =>
      report = reportOf (fun a => (x a).fate) devices ∧ LeavesAll x devices h h' := by
  induction devices generalizing index c h with
  | nil =>
    rw [ensures_restoreFrom_nil]
    exact ⟨rfl, leavesAll_nil x h⟩
  | cons a rest ih =>
    obtain ⟨other, distinct'⟩ := List.nodup_cons.1 distinct
    obtain ⟨inStepHere, inStepLater⟩ := List.forall_mem_cons.1 inStep
    obtain ⟨settledHere, settledLater⟩ := List.forall_mem_cons.1 settled
    rw [ensures_restoreFrom_cons]
    apply (settles_restoreOne inStepHere).mono
    intro fate c' h' restored
    rw [settledHere] at restored
    obtain ⟨rfl, leaves⟩ := restored
    -- To the devices that are still to come, host and catalog are as they were at first.
    have elsewhere : ∀ b ∈ rest, b ≠ a := fun b hb same => other (same ▸ hb)
    have inStep' : ∀ b ∈ rest, InStep (listed b) b c' h' := fun b hb =>
      (inStepLater b hb).leaves leaves (elsewhere b hb)
    have settled' : ∀ b ∈ rest, settlement h' (listed b) b = x b := fun b hb =>
      (settlement_congr leaves.faults (leaves.view (elsewhere b hb))).trans (settledLater b hb)
    apply (ih (index + 1) distinct' inStep' settled').mono
    intro report c'' h'' later
    obtain ⟨rfl, leavesLater⟩ := later
    exact ⟨rfl, (leavesAll_singleton leaves).append leavesLater⟩

/-! ## Whole teardowns -/

/-- What becomes of a device in a teardown. -/
def ending (filter : DeviceFilter) (h : SimHost) (a : PciAddress) : Settlement :=
  settlement h (lists filter h a) a

/-- What becomes of a device does not depend on the devices that were settled before. -/
theorem LeavesAll.ending_eq {filter : DeviceFilter} (leaves : LeavesAll x order h h')
    (other : b ∉ order) : ending filter h' b = ending filter h b := by
  rw [ending, lists_congr leaves.machine, ending]
  exact settlement_congr leaves.machine.faults (leaves.elsewhere b other)

/-- A teardown with a fresh catalog settles every device that it names. -/
theorem settles_run (policy : Policy) (devices : SortedSet PciAddress)
    (settled : ∀ a ∈ devices.toList, ending policy.filter h a = x a) :
    Ensures (of SimHost.answer) free (run policy devices) policy.freshCatalog h fun outcome _ h' =>
      outcome = .tornDown (reportOf (fun a => (x a).fate) devices.toList) ∧
        LeavesAll x devices.toList h h' := by
  rw [ensures_run]
  apply (inStep_prepare policy h).mono
  intro result c' h' prepared
  obtain ⟨rfl, rfl, inStep⟩ := prepared
  apply (settles_restoreFrom _ 0 devices.nodup_toList (fun a _ => inStep a) settled).mono
  intro report c'' h'' ends
  exact ⟨congrArg Outcome.tornDown ends.1, ends.2⟩

/-- The teardown of one device with a fresh catalog. -/
def alone (policy : Policy) (a : PciAddress) : Turn :=
  ⟨true, policy, .teardown (SortedSet.ofList [a])⟩

/-- Teardowns of devices one after the other settle them on the host as the first one finds it. -/
theorem settles_history (policy : Policy) (distinct : devices.Nodup)
    (settled : ∀ a ∈ devices, ending policy.filter h a = x a) :
    Ensures (of SimHost.answer) free (History.run (devices.map (alone policy))) c h
      fun outcomes _ h' =>
        outcomes = devices.map (fun a => .tornDown (reportOf (fun a => (x a).fate) [a])) ∧
          LeavesAll x devices h h' := by
  induction devices generalizing c h with
  | nil => exact ⟨rfl, leavesAll_nil x h⟩
  | cons a rest ih =>
    obtain ⟨other, distinct'⟩ := List.nodup_cons.1 distinct
    obtain ⟨settledHere, settledLater⟩ := List.forall_mem_cons.1 settled
    rw [List.map_cons, History.ensures_run_cons, Turn.ensures_run]
    show Ensures _ _ (run policy (SortedSet.ofList [a])) policy.freshCatalog h _
    have one : (SortedSet.ofList [a]).toList = [a] := rfl
    apply (settles_run policy (SortedSet.ofList [a]) (by simpa [one] using settledHere)).mono
    intro outcome c' h' taken
    rw [one] at taken
    obtain ⟨rfl, leaves⟩ := taken
    -- Each later teardown lists and adopts anew; it finds the devices still to come unchanged.
    have settled' : ∀ b ∈ rest, ending policy.filter h' b = x b := by
      intro b hb
      have unsettled : b ∉ [a] := fun here => other (List.mem_singleton.1 here ▸ hb)
      rw [leaves.ending_eq unsettled, settledLater b hb]
    apply (ih distinct' settled').mono
    intro outcomes c'' h'' later
    obtain ⟨rfl, leavesLater⟩ := later
    exact ⟨rfl, leaves.append leavesLater⟩

/-- A teardown is the teardowns of its devices, in any order.  Whatever fails on the host, a
teardown with a fresh catalog is not rejected, and puts every device in exactly one of its lists,
each in the order of addresses.  The teardowns of its devices one by one, each with a fresh
catalog, report of every device what the teardown of all reports of it, with the same error, and
leave the same bindings and the same records. -/
theorem decomposes_by_device (h : SimHost) (clock clock' : Nat → Nat) (policy : Policy)
    (devices : SortedSet PciAddress) (order : List PciAddress) (same : order.Perm devices.toList)
    (c : Catalog) :
    let together := runOn SimHost.answer clock (run policy devices) policy.freshCatalog
      { host := h }
    let oneByOne := runOn SimHost.answer clock' (History.run (order.map (alone policy))) c
      { host := h }
    ∃ report, together.1.1 = .tornDown report ∧ report.Partitions devices ∧
      oneByOne.1.1 = order.map (fun a => .tornDown (report.only a)) ∧
      oneByOne.2.host.devices = together.2.host.devices ∧
      oneByOne.2.host.homes = together.2.host.homes := by
  intro together oneByOne
  have distinct : order.Nodup := same.nodup_iff.2 devices.nodup_toList
  obtain ⟨-, outcome, leaves⟩ := (settles_run policy devices fun _ _ => rfl).of_run SimHost.answer
    clock { host := h } id fun _ _ => rfl
  obtain ⟨-, outcomes, leaves'⟩ := (settles_history (c := c) policy distinct
    fun _ _ => rfl).of_run SimHost.answer clock' { host := h } id fun _ _ => rfl
  obtain ⟨bindings, records⟩ := leaves.unique leaves' same
  refine ⟨_, outcome, partitions_reportOf _ devices, outcomes.trans ?_, bindings, records⟩
  refine List.map_congr_left fun a ha => congrArg Outcome.tornDown ?_
  exact (only_reportOf devices.nodup_toList (same.mem_iff.1 ha)).symm

/-- Of three controllers one is brought back, one has no record, and one cannot be bound to its
home driver any more; each of them alone, in another order, ends the same way. -/
theorem threeNics_one_by_one :
    let busy := (Topology.threeNics.setDriver Topology.dataNic (some "vfio-pci")).setDriver
      Topology.secondDataNic (some "vfio-pci")
    let h := ((busy.addHome Topology.dataNic "e1000").addHome Topology.secondDataNic
      "e1000").failBind Topology.dataNic "e1000"
    let order := [Topology.secondDataNic, Topology.managementNic, Topology.dataNic]
    let report : TeardownReport :=
      { restored := [Topology.secondDataNic]
        skipped := [Topology.managementNic]
        unrestored := [(Topology.dataNic, .bindFailed (toString Topology.dataNic) "e1000"
          (some "vfio-pci")
          (Error.store "bind" (toString Topology.dataNic) "No such device").message)] }
    let oneByOne := runOn SimHost.answer (fun _ => 0) (History.run (order.map (alone {})))
      (Policy.freshCatalog {}) { host := h }
    order.Perm (SortedSet.ofList order).toList ∧
      oneByOne.1.1 = order.map (fun a => .tornDown (report.only a)) ∧
      oneByOne.2.host.driverOf Topology.dataNic = none ∧
      oneByOne.2.host.homes.get? Topology.dataNic = some "e1000" := by
  intro busy h order report
  have same : order.Perm (SortedSet.ofList order).toList := by decide
  obtain ⟨together, outcome, _, outcomes, bindings, records⟩ :=
    decomposes_by_device h (fun _ => 0) (fun _ => 0) {} (SortedSet.ofList order) order same
      (Policy.freshCatalog {})
  have reported : (runOn SimHost.answer (fun _ => 0) (run {} (SortedSet.ofList order))
      (Policy.freshCatalog {}) { host := h }).1.1 = .tornDown report := by decide +kernel
  have unbound : (runOn SimHost.answer (fun _ => 0) (run {} (SortedSet.ofList order))
      (Policy.freshCatalog {}) { host := h }).2.host.driverOf Topology.dataNic = none := by
    decide +kernel
  have recorded : (runOn SimHost.answer (fun _ => 0) (run {} (SortedSet.ofList order))
      (Policy.freshCatalog {}) { host := h }).2.host.homes.get? Topology.dataNic =
        some "e1000" := by
    decide +kernel
  -- From here on the runs are only what was found of them; nothing is to evaluate them again.
  generalize runOn _ _ (run _ _) _ _ = joint at *
  generalize runOn _ _ (History.run _) _ _ = single at *
  obtain rfl : together = report := Outcome.tornDown.inj (outcome.symm.trans reported)
  have driver :
      single.2.host.driverOf Topology.dataNic = joint.2.host.driverOf Topology.dataNic := by
    unfold SimHost.driverOf SimHost.find?
    rw [bindings]
  exact ⟨same, outcomes, driver.trans unbound, records ▸ recorded⟩

end Teardown

end Provision
