import Provision.Proofs.Changes

/-!
# Effects of steps

A step changes what it notes and nothing else: what a change tells of its resource
stood there before the step, and a step that notes no change leaves its resource as
it was.  A pool that granted too few pages is the one resource that a step changes
without a change being noted.

Main results:

- `Binding.tells_handOver`: a device was bound as its change says.
- `Reserving.tells_reserve`: a pool held as many pages as its change says.
- `Setup.effect_apply`: what a step changes is what it notes.
-/

namespace Provision

open StoreTerms CatalogProg

variable {K : StoreTerms SimHost} {c : Catalog} {h : SimHost}

/-- Whether an error reports that too few pages were granted. -/
def Error.isShortfall : Error → Bool
  | .insufficientPages _ _ _ _ _ => true
  | _ => false

/-- No call of a simulated host reports that too few pages were granted. -/
theorem SimHost.isShortfall_of_error {call : StoreCall} {h : SimHost} {e : Error}
    (failed : (SimHost.answer call h).1 = .error e) : e.isShortfall = false := by
  cases call with
  | mount path pageKb =>
    simp only [answer, mount] at failed
    split at failed
    · cases failed
      rfl
    · cases failed
  | unmount path =>
    simp only [answer, unmount] at failed
    split at failed
    · cases failed
    · cases failed
      rfl
  | pageCount p =>
    simp only [answer, readPages] at failed
    repeat' split at failed
    all_goals first | cases failed; rfl | cases failed
  | setPageCount p count =>
    simp only [answer, setPages] at failed
    split at failed
    · cases failed
    · cases failed
      rfl
  | loadModule m =>
    simp only [answer, loadModule] at failed
    split at failed
    · cases failed
      rfl
    · cases failed
  | unloadModule name =>
    simp only [answer, unloadModule] at failed
    split at failed
    · cases failed
    · cases failed
      rfl
  | boundDriver a =>
    simp only [answer, readDriver] at failed
    split at failed
    · cases failed
    · cases failed
      rfl
  | unbind a driver =>
    simp only [answer, unbind] at failed
    repeat' split at failed
    all_goals first | cases failed; rfl | cases failed
  | bind a driver =>
    simp only [answer, bind] at failed
    repeat' split at failed
    all_goals first | cases failed; rfl | cases failed
  | listDevices filter =>
    simp only [answer, listDevices] at failed
    split at failed
    · cases failed
      rfl
    · cases failed
  | isMounted path => cases failed
  | moduleState name => cases failed
  | homeDriver a => cases failed
  | setHome a driver => cases failed
  | clearHome a => cases failed
  | recordedDevices => cases failed

namespace Setup

open Binding (Failure)

/-- What the result of a step tells of its resource: what stood there before, if a change was
noted, and that it is as before, if none was. -/
structure TellsAt (r : Resource) (before after : ResourceView)
    (result : Except Failure (Option Change)) : Prop where
  noShortfall : ∀ f, result = .error f → f.error.isShortfall = false
  unchanged : Failure.noted result = none → after r = before r
  undoable : ∀ ch, Failure.noted result = some ch →
    ch.Undoable (before ch.resource) (after ch.resource)

/-- A failure without a change leaves the resource as it was. -/
theorem TellsAt.failed {r : Resource} {before after : ResourceView} {e : Error}
    (ordinary : e.isShortfall = false) (same : after r = before r) :
    TellsAt r before after (.error (.plain e)) where
  noShortfall f hf := by
    cases hf
    exact ordinary
  unchanged _ := same
  undoable ch noted := by
    cases noted

/-- A failure after a change tells what the change replaced. -/
theorem TellsAt.stranded {r : Resource} {before after : ResourceView} {e : Error} {ch : Change}
    (ordinary : e.isShortfall = false)
    (undoable : ch.Undoable (before ch.resource) (after ch.resource)) :
    TellsAt r before after (.error ⟨e, some ch⟩) where
  noShortfall f hf := by
    cases hf
    exact ordinary
  unchanged noted := by
    cases noted
  undoable ch' noted := by
    cases noted
    exact undoable

/-- A step without a change leaves the resource as it was. -/
theorem TellsAt.idle {r : Resource} {before after : ResourceView} (same : after r = before r) :
    TellsAt r before after (.ok none) where
  noShortfall f hf := by
    cases hf
  unchanged _ := same
  undoable ch noted := by
    cases noted

/-- A change that was made tells what it replaced. -/
theorem TellsAt.changed {r : Resource} {before after : ResourceView} {ch : Change}
    (undoable : ch.Undoable (before ch.resource) (after ch.resource)) :
    TellsAt r before after (.ok (some ch)) where
  noShortfall f hf := by
    cases hf
  unchanged noted := by
    cases noted
  undoable ch' noted := by
    cases noted
    exact undoable

end Setup

/-- A module that is loaded was not loaded before. -/
theorem Loading.tells_require (m : ModuleRequest) (lists : h.ListsLoaded) :
    HostProg.Ensures (of SimHost.answer) free (require m).run h fun result h' =>
      Setup.TellsAt (.module (KernelModule.normalize m.name)) h.view h'.view
        (result.mapError .plain) := by
  rw [ensures_require, SimHost.asks_of_read rfl]
  show if (h.readModule m.name).loaded then _ else _
  by_cases loaded : (h.readModule m.name).loaded
  · rw [if_pos loaded]
    cases conflict? m (h.readModule m.name) with
    | none => exact .idle rfl
    | some conflict => exact .failed rfl rfl
  · rw [if_neg loaded, ensures_loadAbsent, asks_of]
    refine ⟨trivial, ?_⟩
    cases replied : (SimHost.answer (.loadModule m) h).1 with
    | error e => exact .failed rfl (by rw [SimHost.answer_of_error replied])
    | ok _ =>
      rw [SimHost.asks_of_read rfl]
      show if ((SimHost.answer (.loadModule m) h).2.readModule m.name).loaded then _ else _
      rw [if_pos (SimHost.loaded_of_loadModule replied)]
      exact .changed (lists.view_eq_none loaded)

namespace Reserving

/-- hugetlbfs is mounted where it was not mounted before. -/
theorem tells_mount (r : Reservation) :
    HostProg.Ensures (of SimHost.answer) free (mount r).run h fun result h' =>
      Setup.TellsAt (.mount r.mountPath.key) h.view h'.view (result.mapError .plain) := by
  rw [ensures_mount, SimHost.asks_of_read rfl]
  show if h.isMounted r.mountPath then _ else _
  by_cases mounted : h.isMounted r.mountPath
  · rw [if_pos mounted]
    exact .idle rfl
  · rw [if_neg mounted, asks_of]
    refine ⟨trivial, ?_⟩
    cases replied : (SimHost.answer (.mount r.mountPath r.pageKb) h).1 with
    | error e => exact .failed rfl (by rw [SimHost.answer_of_error replied])
    | ok _ =>
      refine .changed ?_
      show h.mounts.get? r.mountPath.key = none
      simpa [SimHost.isMounted, SortedMap.contains] using mounted

/-- A pool granted too few pages for a reservation, and holds what it could grant. -/
def FellShort (r : Reservation) (before after : ResourceView) : Prop :=
  ∃ pool, before (.pool r.pool) = some pool ∧
    after (.pool r.pool) = some { pool with reserved := min r.count pool.capacity }

/-- A pool is resized, and it is told how many pages it held; only when too few pages are granted,
they stay. -/
theorem tells_reserve (r : Reservation) (fits : h.Fits) :
    HostProg.Ensures (of SimHost.answer) free (reserve r).run h fun result h' =>
      Setup.TellsAt (.pool r.pool) h.view h'.view (result.mapError .plain) ∨
        (∃ e, result = .error e ∧ e.isShortfall = true) ∧ FellShort r h.view h'.view := by
  rw [ensures_reserve, SimHost.asks_of_read rfl]
  show if h.isMounted r.mountPath then _ else _
  by_cases mounted : h.isMounted r.mountPath
  · rw [if_pos mounted, SimHost.asks_of_read rfl]
    cases read : (SimHost.answer (.pageCount r.pool) h).1 with
    | error e => exact .inl (.failed (SimHost.isShortfall_of_error read) rfl)
    | ok previous =>
      obtain ⟨readable, pool, found, held⟩ := SimHost.readPages_eq_ok_iff.1 read
      show if r.isMetBy previous then _ else _
      by_cases met : r.isMetBy previous
      · rw [if_pos met]
        exact .inl (.idle rfl)
      · rw [if_neg met, ensures_resize, asks_of]
        refine ⟨trivial, ?_⟩
        cases replied : (SimHost.answer (.setPageCount r.pool r.count) h).1 with
        | error e =>
          refine .inl (.failed (SimHost.isShortfall_of_error replied) ?_)
          rw [SimHost.answer_of_error replied]
        | ok _ =>
          obtain ⟨pool', found', set⟩ := SimHost.view_setPages replied
          have same : pool' = pool := Option.some.inj (found'.symm.trans found)
          subst same
          have now := congrFun set (.pool r.pool)
          rw [Function.update_self] at now
          have granted : (SimHost.answer (.pageCount r.pool)
              (SimHost.answer (.setPageCount r.pool r.count) h).2).1 =
                .ok (min r.count pool'.capacity) := by
            refine SimHost.readPages_eq_ok_iff.2 ⟨?_, _, now, rfl⟩
            rw [(SimHost.sameMachine_answer _ h).faults, readable]
          rw [SimHost.asks_of_read rfl, granted]
          show Setup.TellsAt _ _ _ (((judge r previous (min r.count pool'.capacity)).map
            some).mapError _) ∨ _
          unfold judge
          by_cases short : min r.count pool'.capacity < r.required
          · rw [if_pos short]
            exact .inr ⟨⟨_, rfl, rfl⟩, pool', found, now⟩
          · rw [if_neg short]
            refine .inl (.changed ⟨pool'.capacity, min r.count pool'.capacity, ?_, ?_, now⟩)
            · show h.pools.get? r.pool = _
              rw [found, ← held]
            · exact held ▸ fits _ _ found
  · rw [if_neg mounted]
    exact .inl (.failed rfl rfl)

end Reserving

namespace Binding

/-- What is told of a device once its record was seen to: a record that was made is new, and
otherwise the record is as it was. -/
def Recorded (a : PciAddress) (driver : String) (recorded : Bool) (before after : ResourceView) :
    Prop :=
  (after (.device a)).1 = some (some driver) ∧
    if recorded then (before (.device a)).2 = none
    else (after (.device a)).2 = (before (.device a)).2

/-- A record is made only where there is none. -/
theorem tells_recordHome {a : PciAddress} {driver : String}
    (bound : (h.view (.device a)).1 = some (some driver)) :
    Ensures (of SimHost.answer) free (Catalog.recordHome a driver).run c h fun result _ h' =>
      match result with
      | .error _ => False
      | .ok recorded => Recorded a driver recorded h.view h'.view := by
  rw [Catalog.ensures_recordHome]
  by_cases passthrough : c.isPassthrough driver
  · rw [if_pos passthrough]
    exact ⟨bound, rfl⟩
  · rw [if_neg passthrough, Catalog.ensures_homeDriver]
    cases c.home? a with
    | some home => exact ⟨bound, rfl⟩
    | none =>
      rw [SimHost.asks_of_read rfl]
      cases home : h.homes.get? a with
      | some known =>
        show skipOnError _ _ (.ok (h.homes.get? a)) c h
        rw [home]
        exact ⟨bound, rfl⟩
      | none =>
        show skipOnError _ _ (.ok (h.homes.get? a)) c h
        rw [home, skipOnError_ok]
        refine asks_of.2 ⟨trivial, ?_⟩
        show Recorded a driver true h.view (SimHost.answer (.setHome a driver) h).2.view
        rw [SimHost.view_setHome]
        refine ⟨?_, home⟩
        rw [Function.update_self]
        exact bound

/-- A device that cannot be unbound keeps the record that it had. -/
theorem tells_detach {a : PciAddress} {driver : String} {recorded : Bool} {origin : ResourceView}
    (told : Recorded a driver recorded origin h.view)
    (was : (origin (.device a)).1 = some (some driver)) :
    Ensures (of SimHost.answer) free (detach a driver recorded).run c h fun result _ h' =>
      match result with
      | .error e => e.isShortfall = false ∧ h'.view (.device a) = origin (.device a)
      | .ok _ => h'.view (.device a) = (some none, (h.view (.device a)).2) := by
  rw [ensures_detach, asks_of]
  refine ⟨trivial, ?_⟩
  cases replied : (SimHost.answer (.unbind a driver) h).1 with
  | ok _ =>
    show (SimHost.answer (.unbind a driver) h).2.view (.device a) = _
    rw [(SimHost.view_unbind replied).2, Function.update_self]
    rfl
  | error e =>
    rw [SimHost.answer_of_error replied]
    obtain ⟨bound, record⟩ := told
    cases recorded with
    | false => exact ⟨rfl, Prod.ext (bound.trans was.symm) record⟩
    | true =>
      show Asks (of SimHost.answer) free (.clearHome a) h _
      rw [asks_of]
      refine ⟨trivial, rfl, ?_⟩
      rw [SimHost.view_clearHome, Function.update_self]
      exact Prod.ext (bound.trans was.symm) record.symm

/-- A device that is handed over was bound as the change says, and a device that is not handed
over is as before or was stranded. -/
theorem tells_handOver (a : PciAddress) (target : String) :
    Ensures (of SimHost.answer) free (handOver a target).run c h fun result _ h' =>
      Setup.TellsAt (.device a) h.view h'.view result := by
  rw [ensures_handOver, SimHost.asks_of_read rfl]
  cases read : (SimHost.answer (.boundDriver a) h).1 with
  | error e => exact .failed (SimHost.isShortfall_of_error read) rfl
  | ok current =>
    have was : (h.view (.device a)).1 = some current := SimHost.readDriver_eq_ok_iff.1 read
    show if current = some target then _ else _
    by_cases already : current = some target
    · rw [if_pos already]
      exact .idle rfl
    · rw [if_neg already, ensures_release]
      cases current with
      | none =>
        refine (ensures_attach a target none false).2 (asks_of.2 ⟨trivial, ?_⟩)
        cases replied : (SimHost.answer (.bind a target) h).1 with
        | error e => exact .failed rfl (by rw [SimHost.answer_of_error replied])
        | ok _ =>
          refine .changed ⟨was, ?_⟩
          show ((SimHost.answer (.bind a target) h).2.view (.device a)).2 = _
          rw [(SimHost.view_bind replied).2, Function.update_self]
          rfl
      | some driver =>
        apply (tells_recordHome was).mono
        intro result c₁ h₁ told
        cases result with
        | error e => exact told.elim
        | ok recorded =>
          apply (tells_detach told was).mono
          intro result c₂ h₂ detached
          cases result with
          | error e => exact .failed detached.1 detached.2
          | ok _ =>
            have undoable (after : Option String) :
                Change.Undoable (.rebound a (some driver) recorded) (h.view (.device a))
                  (some after, (h₁.view (.device a)).2) := ⟨was, told.2⟩
            rw [skipOnError_ok]
            refine (ensures_attach a target (some driver) recorded).2 (asks_of.2 ⟨trivial, ?_⟩)
            cases replied : (SimHost.answer (.bind a target) h₂).1 with
            | error e =>
              rw [SimHost.answer_of_error replied]
              refine .stranded rfl ?_
              show Change.Undoable (.rebound a (some driver) recorded) _ (h₂.view (.device a))
              rw [show h₂.view (.device a) = _ from detached]
              exact undoable none
            | ok _ =>
              refine .changed ?_
              show Change.Undoable (.rebound a (some driver) recorded) _
                ((SimHost.answer (.bind a target) h₂).2.view (.device a))
              have record : h₂.homes.get? a = (h₁.view (.device a)).2 := congrArg Prod.snd detached
              rw [(SimHost.view_bind replied).2, Function.update_self, record]
              exact undoable (some target)

end Binding

namespace Setup

open Change Reserving

/-- What a step tells of its resource, and that it leaves the others alone, make the change that
it notes one that was made. -/
theorem wasTaken_of_tellsAt {r : Resource} {before after : ResourceView}
    {result : Except Binding.Failure (Option Change)} (tells : TellsAt r before after result)
    (notes : Binding.Failure.Notes r result) (elsewhere : ∀ r', r' ≠ r → after r' = before r') :
    WasTaken before after (Binding.Failure.noted result) := by
  cases noted : Binding.Failure.noted result with
  | none =>
    funext r'
    by_cases same : r' = r
    · rw [same, tells.unchanged noted]
    · exact elsewhere r' same
  | some ch =>
    have about : ch.resource = r := notes ch noted
    exact ⟨fun r' other => elsewhere r' (about ▸ other), tells.undoable ch noted⟩

/-- What a step changes is what it notes; only a pool that granted too few pages keeps them. -/
theorem effect_apply (step : Step) (setup : ∀ a driver, step ≠ .restore a driver)
    (sound : h.Sound) :
    Ensures (of SimHost.answer) free (apply step).run c h fun result _ h' =>
      h'.Sound ∧ Binding.Failure.Notes step.resource result ∧
        ((WasTaken h.view h'.view (Binding.Failure.noted result) ∧
            ∀ f, result = .error f → f.error.isShortfall = false) ∨
          ∃ r e, step = .reserve r ∧ result = .error (.plain e) ∧ e.isShortfall = true ∧
            FellShort r h.view h'.view ∧ ∀ r', r' ≠ .pool r.pool → h'.view r' = h.view r') := by
  have framed := SimHost.ensures_frame_of (F := fun r => r = step.resource) (c := c) (h := h)
    (within_apply step rfl)
  have tells : Ensures (of SimHost.answer) free (apply step).run c h fun result _ h' =>
      TellsAt step.resource h.view h'.view result ∨
        ∃ r e, step = .reserve r ∧ result = .error (.plain e) ∧ e.isShortfall = true ∧
          FellShort r h.view h'.view := by
    cases step with
    | loadModule m =>
      rw [ensures_apply_loadModule]
      exact (Loading.tells_require m sound.listsLoaded).mono fun _ _ told => .inl told
    | mount r =>
      rw [ensures_apply_mount]
      exact (tells_mount r).mono fun _ _ told => .inl told
    | reserve r =>
      rw [ensures_apply_reserve]
      apply (tells_reserve r sound.fits).mono
      intro result h' told
      rcases told with told | ⟨⟨e, rfl, short⟩, fell⟩
      · exact .inl told
      · exact .inr ⟨r, e, rfl, rfl, short, fell⟩
    | rebind a driver => exact (Binding.tells_handOver a driver).mono fun _ _ _ told => .inl told
    | restore a driver => exact absurd rfl (setup a driver)
  apply (tells.also framed).mono
  intro result c' h' holds
  obtain ⟨told, notes, elsewhere, _, sound'⟩ := holds
  refine ⟨sound' sound, notes, ?_⟩
  rcases told with told | ⟨r, e, rfl, failed, short, fell⟩
  · exact .inl ⟨wasTaken_of_tellsAt told notes elsewhere, told.noShortfall⟩
  · exact .inr ⟨r, e, rfl, failed, short, fell, elsewhere⟩

end Setup

end Provision
