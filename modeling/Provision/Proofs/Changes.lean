import Provision.Proofs.Simulation.Frame

/-!
# Changes

A journal is a chain: each change says what stood at its resource before it, and
everything else is as it was then.  Undoing the changes from the newest to the
oldest leads back to where the chain begins, except at the resources of changes
that could not be undone, which the report lists.

Main results:

- `Change.LeadsBack.take`: a step makes the chain longer by at most one change.
- `Setup.undo_view`: undoing a change leaves what stood there before it.
- `Setup.leadsBack_undoAll`: undoing a chain leads back to its origin.
-/

namespace Provision

open StoreTerms CatalogProg

/-! ## Changes -/

namespace Change

/-- Whether a change tells what stood at its resource before it, given what it left there. -/
def Undoable : (ch : Change) → (before after : ch.resource.Value) → Prop
  | .moduleLoaded _, before, _ => before = none
  | .mounted _ _, before, _ => before = none
  | .reserved _ previous, before, after => ∃ capacity n,
    before = some ⟨previous, capacity⟩ ∧ previous ≤ capacity ∧ after = some ⟨n, capacity⟩
  | .rebound _ prior recorded, before, after | .stranded _ prior recorded, before, after =>
    before.1 = some prior ∧ if recorded then before.2 = none else after.2 = before.2

/-- A change was made: it tells what stood at its resource, and nothing else differs. -/
structure WasMade (ch : Change) (before after : ResourceView) : Prop where
  elsewhere : ∀ r, r ≠ ch.resource → after r = before r
  undoable : ch.Undoable (before ch.resource) (after ch.resource)

/-- At most one change was made. -/
def WasTaken (before after : ResourceView) : Option Change → Prop
  | none => after = before
  | some ch => ch.WasMade before after

/-- Changes, the newest first, that lead from a view back to an origin. -/
inductive LeadsBack (origin : ResourceView) : List Change → ResourceView → Prop
  | origin : LeadsBack origin [] origin
  | change {ch : Change} {older : List Change} {before after : ResourceView} :
    ch.WasMade before after → LeadsBack origin older before → LeadsBack origin (ch :: older) after

/-- A step that made at most one change makes the chain longer by it. -/
theorem LeadsBack.take {origin before after : ResourceView} {journal : Journal}
    (chain : LeadsBack origin journal.newestFirst before) {made : Option Change}
    (taken : WasTaken before after made) :
    LeadsBack origin (journal ++ made.toList).newestFirst after := by
  cases made with
  | none =>
    have same : after = before := taken
    rw [same]
    simpa using chain
  | some ch =>
    rw [Journal.newestFirst_append]
    exact .change taken chain

/-- Where no change was made, everything is as it was at the origin. -/
theorem LeadsBack.eq_of_untouched {origin v : ResourceView} {changes : List Change}
    (chain : LeadsBack origin changes v) {r : Resource}
    (untouched : ∀ ch ∈ changes, ch.resource ≠ r) : v r = origin r := by
  induction chain with
  | origin => rfl
  | @change ch older before after made _ ih =>
    have other : r ≠ ch.resource := fun e => untouched ch (List.mem_cons_self ..) e.symm
    rw [made.elsewhere r other, ih fun ch' h => untouched ch' (List.mem_cons_of_mem _ h)]

end Change

/-! ## Undoing -/

variable {K : StoreTerms SimHost} {c : Catalog} {h : SimHost}

namespace Binding

/-- A device that is not bound is bound again to the driver that it had. -/
theorem reattach_view (c : Catalog) {a : PciAddress} (prior current : Option String)
    {home : Option String} (unbound : h.view (.device a) = (some none, home)) :
    Ensures (of SimHost.answer) free (reattach a prior current).run c h fun result _ h' =>
      result = .ok () → h'.view (.device a) = (some prior, home) := by
  rw [ensures_reattach]
  cases prior with
  | none => exact fun _ => unbound
  | some driver =>
    refine asks_of.2 ⟨trivial, ?_⟩
    cases replied : (SimHost.answer (.bind a driver) h).1 with
    | error e => exact nofun
    | ok _ =>
      intro _
      have recorded : h.homes.get? a = home := congrArg Prod.snd unbound
      show (SimHost.answer (.bind a driver) h).2.view (.device a) = _
      rw [(SimHost.view_bind replied).2, Function.update_self, recorded]

/-- A device that was brought back has the driver that it had, and the record that it has. -/
theorem bringBack_view (a : PciAddress) (prior : Option String) :
    Ensures (of SimHost.answer) free (bringBack a prior).run c h fun result _ h' =>
      result = .ok () → h'.view (.device a) = (some prior, h.homes.get? a) := by
  rw [ensures_bringBack, SimHost.asks_of_read rfl]
  cases read : (SimHost.answer (.boundDriver a) h).1 with
  | error e => exact nofun
  | ok current =>
    have bound : h.view (.device a) = (some current, h.homes.get? a) :=
      Prod.ext (SimHost.readDriver_eq_ok_iff.1 read) rfl
    show if current = prior then _ else _
    by_cases back : current = prior
    · rw [if_pos back]
      intro _
      exact back ▸ bound
    · rw [if_neg back]
      cases current with
      | none => exact reattach_view c prior none bound
      | some driver =>
        show Ensures (of SimHost.answer) free (detach a driver false).run c h _
        rw [ensures_detach, asks_of]
        refine ⟨trivial, ?_⟩
        cases replied : (SimHost.answer (.unbind a driver) h).1 with
        | error e => exact nofun
        | ok _ =>
          refine reattach_view (c.noteBinding a none) prior (some driver) ?_
          rw [(SimHost.view_unbind replied).2, Function.update_self]

end Binding

namespace Setup

/-- A device that was moved is as it was before: its driver, and its record. -/
theorem undo_rebound_view {a : PciAddress} {prior : Option String} {recorded : Bool}
    {before after : Option (Option String) × Option String} (here : h.view (.device a) = after)
    (undoable : before.1 = some prior ∧ if recorded then before.2 = none else after.2 = before.2) :
    Ensures (of SimHost.answer) free (undo (.rebound a prior recorded)).run c h fun result _ h' =>
      result = .ok () → h'.view (.device a) = before := by
  rw [ensures_undo_rebound]
  apply (Binding.bringBack_view a prior).mono
  intro result c' h' back
  cases result with
  | error e => exact nofun
  | ok _ =>
    have restored := back rfl
    cases recorded with
    | true =>
      rw [skipOnError_ok, if_pos rfl, Catalog.ensures_forgetHome, asks_of]
      refine ⟨trivial, fun _ => ?_⟩
      have driver : (h'.find? a).map (·.driver) = some prior := congrArg Prod.fst restored
      rw [SimHost.view_clearHome, Function.update_self, driver]
      exact Prod.ext undoable.1.symm undoable.2.symm
    | false =>
      intro _
      have kept : after.2 = before.2 := undoable.2
      have home : h.homes.get? a = before.2 := (congrArg Prod.snd here).trans kept
      rw [restored, home, ← undoable.1]

/-- A change that was undone leaves at its resource what stood there before it. -/
theorem undo_view {ch : Change} {before after : ResourceView} (made : ch.WasMade before after)
    (here : h.view ch.resource = after ch.resource) :
    Ensures (of SimHost.answer) free (undo ch).run c h fun result _ h' =>
      result = .ok () → h'.view ch.resource = before ch.resource := by
  have undoable := made.undoable
  cases ch with
  | moduleLoaded name =>
    rw [ensures_undo_moduleLoaded, asks_of]
    refine ⟨trivial, fun replied => ?_⟩
    rw [SimHost.view_unloadModule replied, Function.update_self]
    exact undoable.symm
  | mounted path pageKb =>
    rw [ensures_undo_mounted, asks_of]
    refine ⟨trivial, fun replied => ?_⟩
    rw [SimHost.view_unmount replied, Function.update_self]
    exact undoable.symm
  | reserved pool previous =>
    rw [ensures_undo_reserved, asks_of]
    refine ⟨trivial, fun replied => ?_⟩
    obtain ⟨capacity, n, was, fits, is⟩ := undoable
    obtain ⟨now, found, set⟩ := SimHost.view_setPages replied
    have same : some now = some ⟨n, capacity⟩ := found.symm.trans (here.trans is)
    rw [set, Function.update_self, Option.some.inj same]
    show some (SimPool.mk (min previous capacity) capacity) = _
    rw [Nat.min_eq_left fits]
    exact was.symm
  | rebound a prior recorded => exact undo_rebound_view here undoable
  | stranded a prior recorded => exact undo_rebound_view here undoable

/-- Undoing a chain of changes leads back to its origin, except where the chain did not lead from,
and where a change could not be undone. -/
theorem leadsBack_undoAll {origin v : ResourceView} {changes : List Change}
    (chain : Change.LeadsBack origin changes v) (strange : Resource → Prop) (sound : h.Sound)
    (agrees : ∀ r, ¬ strange r → h.view r = v r) :
    Ensures (of SimHost.answer) free (undoAll changes) c h fun report _ h' =>
      ∀ r, ¬ strange r → (∀ failure ∈ report.failures, failure.1.resource ≠ r) →
        h'.view r = origin r := by
  induction chain generalizing strange c h with
  | origin =>
    rw [ensures_undoAll_nil]
    exact fun r ordinary _ => agrees r ordinary
  | @change ch older before after made _ ih =>
    rw [ensures_undoAll_cons]
    have framed := SimHost.ensures_frame_of (F := fun r => r = ch.resource) (c := c) (h := h)
      (within_undo ch rfl)
    have undone : Ensures (of SimHost.answer) free (undo ch).run c h fun result _ h' =>
        ¬ strange ch.resource → result = .ok () → h'.view ch.resource = before ch.resource := by
      by_cases ordinary : strange ch.resource
      · exact framed.forget.mono fun _ _ _ _ excluded => absurd ordinary excluded
      · exact (undo_view made (agrees _ ordinary)).mono fun _ _ _ back _ => back
    apply (undone.also framed).mono
    intro result c' h' holds
    obtain ⟨back, _, elsewhere, _, sound'⟩ := holds
    have sound' := sound' sound
    have agrees' : ∀ r, ¬ (strange r ∨ r = ch.resource ∧ result ≠ .ok ()) →
        h'.view r = before r := by
      intro r ordinary
      rw [not_or, not_and_not_right] at ordinary
      by_cases same : r = ch.resource
      · subst same
        exact back ordinary.1 (ordinary.2 rfl)
      · rw [elsewhere r same, agrees r ordinary.1, made.elsewhere r same]
    apply (ih _ sound' agrees').mono
    intro report c'' h'' led r ordinary unlisted
    cases result with
    | ok _ => exact led r (by simpa using ordinary) unlisted
    | error e =>
      have other : ch.resource ≠ r := unlisted (ch, e) (List.mem_cons_self ..)
      refine led r (fun h => ?_) fun failure hf => unlisted failure (List.mem_cons_of_mem _ hf)
      rcases h with h | ⟨same, _⟩
      · exact ordinary h
      · exact other same.symm

end Setup

end Provision
