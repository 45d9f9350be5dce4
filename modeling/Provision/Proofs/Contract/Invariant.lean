import Provision.Proofs.Contract.Engine

/-!
# Invariants of setups and teardowns

A setup makes its steps one after the other, and undoes the changes that it noted when
it is given up.  A teardown brings its devices back one after the other.  What making a
step and undoing a change keep is kept by every setup, however it ends, and what bringing
a device back keeps is kept by every teardown.

Main results:

- `Setup.maintains_undoAll`, `Setup.maintains_applyFrom`: undoing changes, and making
  steps.
- `Teardown.maintains_restoreFrom`, `Teardown.maintains_run`: bringing devices back.
-/

namespace Provision

open StoreTerms CatalogProg

variable {σ : Type} {A K : StoreTerms σ} {I : Catalog → σ → Prop}

/-! ## Setups -/

namespace Setup

/-- Undoing changes keeps what undoing each of them keeps. -/
theorem maintains_undoAll (undone : ∀ ch, Maintains A K I (undo ch).run) (changes : List Change) :
    Maintains A K I (undoAll changes) := by
  induction changes with
  | nil => exact .pure _
  | cons ch older ih =>
    refine .bind (undone ch) fun result => .bind ih fun report => ?_
    cases result <;> exact .pure _

/-- So does giving a setup up. -/
theorem maintains_abort (undone : ∀ ch, Maintains A K I (undo ch).run) (e : Error)
    (journal : Journal) : Maintains A K I (abort e journal) := by
  intro c s holds
  rw [ensures_abort]
  exact maintains_undoAll undone _ holds

/-- Making the steps of a plan keeps an invariant, also when they are undone. -/
theorem maintains_applyFrom (made : ∀ step, Maintains A K I (apply step).run)
    (undone : ∀ ch, Maintains A K I (undo ch).run) (timeout : Option Nat) (total index : Nat)
    (steps : List PlannedStep) (p : Progress) :
    Maintains A K I (applyFrom timeout total index steps p) := by
  induction steps generalizing index p with
  | nil =>
    intro c s holds
    rw [ensures_applyFrom_nil]
    exact holds
  | cons planned rest ih =>
    intro c s holds
    rw [ensures_applyFrom_cons]
    apply ensures_isLate timeout index
    intro late
    by_cases hl : late
    · rw [if_pos hl]
      exact maintains_abort undone _ _ holds
    · rw [if_neg hl]
      by_cases hp : planned.satisfied
      · rw [if_pos hp]
        exact ih _ _ holds
      · rw [if_neg hp]
        apply (made planned.step holds).mono
        intro result c' s' holds'
        rcases result with f | _ | ch
        · exact maintains_abort undone _ _ holds'
        · exact ih _ _ holds'
        · exact ih _ _ holds'

end Setup

/-! ## Teardowns -/

namespace Teardown

/-- Bringing devices back keeps an invariant that it keeps for each of them. -/
theorem maintains_restoreFrom (total index : Nat) (devices : List PciAddress)
    (restored : ∀ a ∈ devices, Maintains A K I (restoreOne a)) :
    Maintains A K I (restoreFrom total index devices) := by
  induction devices generalizing index with
  | nil => exact .pure _
  | cons a rest ih =>
    obtain ⟨first, later⟩ := List.forall_mem_cons.1 restored
    intro c s holds
    rw [ensures_restoreFrom_cons]
    exact (first holds).mono fun fate c' s' holds' => ih (index + 1) later holds'

/-- A teardown lists the devices, takes in those on record, and brings its own back. -/
theorem maintains_run {policy : Policy} {devices : SortedSet PciAddress}
    (listed : Maintains A K I (Catalog.enumerate policy.filter).run)
    (adopted : Maintains A K I Catalog.adoptRecorded.run)
    (restored : ∀ a ∈ devices.toList, Maintains A K I (restoreOne a)) :
    Maintains A K I (run policy devices) := by
  intro c s holds
  rw [ensures_run, ensures_prepare]
  apply (listed holds).mono
  intro _ c₁ s₁ holds₁
  apply (adopted holds₁).mono
  intro result c₂ s₂ holds₂
  cases result with
  | error e => exact holds₂
  | ok _ => exact maintains_restoreFrom _ _ _ restored holds₂

end Teardown

end Provision
