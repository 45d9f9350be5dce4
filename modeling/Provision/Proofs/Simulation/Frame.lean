import Provision.Proofs.Contract.World
import Provision.Proofs.Simulation.View

/-!
# What programs leave alone on a simulated host

A program that keeps to a set of resources leaves every other resource as it is,
and no program changes the machine, lists a module that is not loaded, or lets a
pool hold more pages than it may.  All this holds just as well on a host on which
calls fail without effect.

Main results:

- `SimHost.ensures_frame`: the frame of a program.
- `SimHost.asks_unreliable`: a call on a host on which calls fail.
-/

namespace Provision

open StoreTerms CatalogProg

namespace SimHost

/-! ## Sound hosts -/

/-- Whether no pool holds more pages than it may. -/
def Fits (h : SimHost) : Prop := ∀ p pool, h.pools.get? p = some pool →
  pool.reserved ≤ pool.capacity

/-- A host fits when each of its pools does. -/
theorem Fits.of_values {h : SimHost}
    (fit : ∀ pool ∈ h.pools.values, pool.reserved ≤ pool.capacity) : h.Fits :=
  fun _ pool found => fit pool (SortedMap.mem_values_of_get? found)

/-- The hosts on which every listed module is loaded and no pool holds too many pages. -/
structure Sound (h : SimHost) : Prop where
  listsLoaded : h.ListsLoaded
  fits : h.Fits

/-- Calls keep pools from holding too many pages. -/
theorem Fits.answer {h : SimHost} (fits : h.Fits) (call : StoreCall) :
    (SimHost.answer call h).2.Fits := by
  intro p pool found
  have viewed : (SimHost.answer call h).2.view (.pool p) = some pool := found
  by_cases about : call.resource? = some (.pool p)
  · cases replied : (SimHost.answer call h).1 with
    | error e =>
      rw [answer_of_error replied] at viewed
      exact fits p pool viewed
    | ok value =>
      cases call with
      | setPageCount q count =>
        have same : q = p := by simpa [StoreCall.resource?] using about
        subst same
        exact setPages_reserved_le (Prod.ext replied rfl) found
      | _ => simp [StoreCall.resource?] at about
  · rw [view_answer_of_ne about] at viewed
    exact fits p pool viewed

/-- Calls keep a host sound. -/
theorem Sound.answer {h : SimHost} (sound : h.Sound) (call : StoreCall) :
    (SimHost.answer call h).2.Sound :=
  ⟨sound.listsLoaded.answer call, sound.fits.answer call⟩

/-! ## Calls -/

variable {α : Type} {K : StoreTerms SimHost} {call : StoreCall} {h h' : SimHost}

/-- A call that reads leads on from the host as it is. -/
theorem asks_of_read {Q : call.Reply → SimHost → Prop} (reads : call.writes = false) :
    Asks (of SimHost.answer) free call h Q ↔ Q (SimHost.answer call h).1 h := by
  rw [asks_of, answer_of_read reads]
  exact ⟨And.right, fun next => ⟨trivial, next⟩⟩

/-- On a host on which calls fail, a call leaves the host as it is or as the call leaves it. -/
theorem after_orFails {r : call.Reply} (answered : orFails SimHost.answer call h r h') :
    h' = h ∨ h' = (SimHost.answer call h).2 := by
  rcases answered with answered | ⟨e, _, same⟩
  · exact .inr (congrArg Prod.snd answered).symm
  · exact .inl same

/-- On a host on which calls fail, a call fails and leaves the host as it is, or succeeds as it
does on a host on which none fails. -/
theorem asks_unreliable {Q : call.Reply → SimHost → Prop}
    (fails : ∀ e, K call h (.error e) h ∧ Q (.error e) h)
    (succeeds : ∀ v, (SimHost.answer call h).1 = .ok v →
      K call h (.ok v) (SimHost.answer call h).2 ∧ Q (.ok v) (SimHost.answer call h).2) :
    Asks (orFails SimHost.answer) K call h Q := by
  intro r h' answered
  rcases answered with answered | ⟨e, rfl, rfl⟩
  · have reply : (SimHost.answer call h).1 = r := congrArg Prod.fst answered
    have after : (SimHost.answer call h).2 = h' := congrArg Prod.snd answered
    cases r with
    | error e =>
      rw [← after, answer_of_error reply]
      exact fails e
    | ok v =>
      rw [← after]
      exact succeeds v reply
  · exact fails e

/-! ## Programs -/

variable {F : Resource → Prop} {p : CatalogProg α} {c : Catalog} {Q : α → Catalog → SimHost → Prop}

/-- What a program leaves alone: the resources that it keeps from, the machine, and the soundness
of the host.  Calls may fail at any place that the terms of the answers allow. -/
theorem ensures_frame_under {A : StoreTerms SimHost}
    (stricter : ∀ {call s r s'}, A call s r s' → orFails SimHost.answer call s r s')
    (contract : Ensures A (within F) p c h Q) :
    Ensures A (within F) p c h fun a c' h' =>
      Q a c' h' ∧ (∀ r, ¬ F r → h'.view r = h.view r) ∧ SameMachine h h' ∧ (h.Sound → h'.Sound) := by
  have framed := contract.invariant
    (J := fun h' => (∀ r, ¬ F r → h'.view r = h.view r) ∧ SameMachine h h' ∧ (h.Sound → h'.Sound))
    (fun call s r s' answered kept holds => ?_) ⟨fun _ _ => rfl, SameMachine.refl h, id⟩
  · exact framed.weaken (fun _ _ _ _ answered => answered) fun _ _ _ _ _ kept => kept.1
  · rcases after_orFails (stricter answered) with same | after
    · exact same ▸ holds
    · rw [after]
      obtain ⟨elsewhere, machine, sound⟩ := holds
      refine ⟨fun r outside => ?_, machine.trans (sameMachine_answer call s),
        fun start => (sound start).answer call⟩
      have other : call.resource? ≠ some r := fun about => outside (kept r about)
      rw [view_answer_of_ne other, elsewhere r outside]

/-- What a program leaves alone on a host on which any call may fail. -/
theorem ensures_frame (contract : Ensures (orFails SimHost.answer) (within F) p c h Q) :
    Ensures (orFails SimHost.answer) (within F) p c h fun a c' h' =>
      Q a c' h' ∧ (∀ r, ¬ F r → h'.view r = h.view r) ∧ SameMachine h h' ∧ (h.Sound → h'.Sound) :=
  ensures_frame_under id contract

/-- What a program leaves alone on a host on which no call fails but by itself. -/
theorem ensures_frame_of (contract : Ensures (of SimHost.answer) (within F) p c h Q) :
    Ensures (of SimHost.answer) (within F) p c h fun a c' h' =>
      Q a c' h' ∧ (∀ r, ¬ F r → h'.view r = h.view r) ∧ SameMachine h h' ∧ (h.Sound → h'.Sound) :=
  ensures_frame_under .inl contract

/-- No program changes the machine, whichever calls fail. -/
theorem sameMachine_orFails :
    Ensures (orFails SimHost.answer) free p c h fun _ _ h' => SameMachine h h' := by
  have anything : Ensures (orFails SimHost.answer) (within fun _ => True) p c h
      fun _ _ _ => True :=
    Ensures.weaken (HostProg.ensures_true _) (fun _ _ _ _ answered => answered)
      fun _ _ _ _ _ _ _ _ => trivial
  exact (ensures_frame anything).forget.mono fun _ _ _ ends => ends.2.2.1

/-- No program changes the machine. -/
theorem sameMachine_of :
    Ensures (of SimHost.answer) free p c h fun _ _ h' => SameMachine h h' :=
  sameMachine_orFails.weaken (fun _ _ _ _ answered => .inl answered) fun _ _ _ _ _ kept => kept

end SimHost

end Provision
