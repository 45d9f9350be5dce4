import Provision.Engine.Binding
import Provision.Engine.Survey
import Provision.Proofs.Contract.Program

/-!
# Contracts of programs on a host

Contracts of programs that make calls on a host's resources, with or without a
catalog.  Only the calls on resources have terms: the clock may show anything,
and an announced state concerns nobody.

Main results:

- `CatalogProg.ensures_then`: a program that may fail is taken apart at its first
  part, after which a failure skips the rest.
- `CatalogProg.ensures_lift`, `CatalogProg.ensures_move`: programs without a
  catalog, and programs that move no device, inside larger ones.
- `CatalogProg.Maintains.bind`, `CatalogProg.Maintains.andThen`: what is made of
  programs that keep an invariant keeps it.
-/

namespace Provision

variable {α β ε σ : Type}

/-- What may happen at a call on a resource. -/
abbrev StoreTerms (σ : Type) := (c : StoreCall) → σ → c.Reply → σ → Prop

namespace StoreTerms

/-- Terms for everything that a run does: the clock and the announcements change nothing. -/
def onHost (R : StoreTerms σ) : Prog.Terms hostSignature σ
  | .store c => R c
  | .elapsed => fun s _ s' => s' = s
  | .enter _ => fun s _ s' => s' = s

/-- The terms that allow everything. -/
def free : StoreTerms σ := fun _ _ _ _ => True

/-- A single call on the terms `A` keeps `K` and leads to `Q`. -/
def Asks (A K : StoreTerms σ) (c : StoreCall) (s : σ) (Q : c.Reply → σ → Prop) : Prop :=
  ∀ r s', A c s r s' → K c s r s' ∧ Q r s'

/-- A call that leads somewhere leads to anything weaker. -/
theorem Asks.mono {A K : StoreTerms σ} {c : StoreCall} {s : σ} {Q Q' : c.Reply → σ → Prop}
    (h : Asks A K c s Q) (weaker : ∀ r s', Q r s' → Q' r s') : Asks A K c s Q' :=
  fun r s' ha => ⟨(h r s' ha).1, weaker r s' (h r s' ha).2⟩

/-- Two ways to say the same of a reply. -/
theorem asks_congr {A K : StoreTerms σ} {c : StoreCall} {s : σ} {Q Q' : c.Reply → σ → Prop}
    (h : ∀ r s', Q r s' ↔ Q' r s') : Asks A K c s Q ↔ Asks A K c s Q' :=
  ⟨fun hq => hq.mono fun r s' => (h r s').1, fun hq => hq.mono fun r s' => (h r s').2⟩

end StoreTerms

open StoreTerms

/-! ## Programs without a catalog -/

namespace HostProg

/-- The contract of a program on a host. -/
def Ensures (A K : StoreTerms σ) (p : HostProg α) (s : σ) (Q : α → σ → Prop) : Prop :=
  Prog.Ensures A.onHost K.onHost p s Q

variable {A K : StoreTerms σ} {s : σ}

/-- A program that only ends makes no call. -/
theorem ensures_pure (a : α) {Q : α → σ → Prop} : Ensures A K (pure a) s Q ↔ Q a s := Iff.rfl

/-- A sequence is taken apart at its first part. -/
theorem ensures_bind (p : HostProg α) (f : α → HostProg β) {Q : β → σ → Prop} :
    Ensures A K (p >>= f) s Q ↔ Ensures A K p s fun a s' => Ensures A K (f a) s' Q :=
  Prog.ensures_bind p f s

/-- A program that ends well ends as anything weaker says. -/
theorem Ensures.mono {p : HostProg α} {Q Q' : α → σ → Prop} (h : Ensures A K p s Q)
    (weaker : ∀ a s', Q a s' → Q' a s') : Ensures A K p s Q' :=
  Prog.Ensures.mono h weaker

/-- Two ways to say the same of an end. -/
theorem ensures_congr {p : HostProg α} {Q Q' : α → σ → Prop} (h : ∀ a s', Q a s' ↔ Q' a s') :
    Ensures A K p s Q ↔ Ensures A K p s Q' :=
  ⟨fun hq => hq.mono fun a s' => (h a s').1, fun hq => hq.mono fun a s' => (h a s').2⟩

/-- Changing the value of a program changes what is said of its end. -/
theorem ensures_map (f : α → β) (p : HostProg α) {Q : β → σ → Prop} :
    Ensures A K (f <$> p) s Q ↔ Ensures A K p s fun a s' => Q (f a) s' := by
  rw [map_eq_pure_bind, ensures_bind]
  exact Iff.rfl

/-- A program that may fail is taken apart at its first part, and a failure skips the rest. -/
theorem ensures_then (p : HostM α) (f : α → HostM β) {Q : Except Error β → σ → Prop} :
    Ensures A K (p >>= f).run s Q ↔
      Ensures A K p.run s fun r s' =>
        match r with
        | .ok a => Ensures A K (f a).run s' Q
        | .error e => Q (.error e) s' := by
  rw [ExceptT.run_bind, ensures_bind]
  apply ensures_congr
  intro r s'
  cases r <;> exact Iff.rfl

/-- The value of a program that may fail is changed where it does not. -/
theorem ensures_mapOk (f : α → β) (p : HostM α) {Q : Except Error β → σ → Prop} :
    Ensures A K (f <$> p).run s Q ↔ Ensures A K p.run s fun r s' => Q (r.map f) s' := by
  rw [map_eq_pure_bind, ensures_then]
  apply ensures_congr
  intro r s'
  cases r <;> exact Iff.rfl

/-- A contract that asks for nothing is kept. -/
theorem ensures_true (p : HostProg α) : Ensures A free p s fun _ _ => True := by
  unfold Ensures
  induction p generalizing s with
  | done a => trivial
  | call c next ih =>
    intro r s' answered
    refine ⟨?_, ih r⟩
    cases c with
    | store call => trivial
    | elapsed => exact answered
    | enter state => exact answered

/-- Announcing a state changes nothing. -/
theorem ensures_enter (state : RunState) {Q : Unit → σ → Prop} :
    Ensures A K (enter state) s Q ↔ Q () s := by
  constructor
  · intro h
    exact (h () s rfl).2
  · intro h r s' same
    cases same
    exact ⟨rfl, h⟩

/-- The clock may show anything. -/
theorem ensures_elapsed {Q : Nat → σ → Prop} : Ensures A K elapsed s Q ↔ ∀ n, Q n s := by
  constructor
  · intro h n
    exact (h n s rfl).2
  · intro h n s' same
    cases same
    exact ⟨rfl, h n⟩

end HostProg

/-! ## Programs with a catalog -/

namespace CatalogProg

/-- The contract of a program on a host that keeps a catalog. -/
def Ensures (A K : StoreTerms σ) (p : CatalogProg α) (c : Catalog) (s : σ)
    (Q : α → Catalog → σ → Prop) : Prop :=
  HostProg.Ensures A K (p.run c) s fun x s' => Q x.1 x.2 s'

variable {A K : StoreTerms σ} {c : Catalog} {s : σ}

theorem ensures_pure (a : α) {Q : α → Catalog → σ → Prop} :
    Ensures A K (pure a) c s Q ↔ Q a c s := Iff.rfl

/-- A sequence is taken apart at its first part. -/
theorem ensures_bind (p : CatalogProg α) (f : α → CatalogProg β) {Q : β → Catalog → σ → Prop} :
    Ensures A K (p >>= f) c s Q ↔
      Ensures A K p c s fun a c' s' => Ensures A K (f a) c' s' Q := by
  unfold Ensures
  rw [StateT.run_bind, HostProg.ensures_bind]

/-- A program that ends well ends as anything weaker says. -/
theorem Ensures.mono {p : CatalogProg α} {Q Q' : α → Catalog → σ → Prop}
    (h : Ensures A K p c s Q) (weaker : ∀ a c' s', Q a c' s' → Q' a c' s') :
    Ensures A K p c s Q' :=
  HostProg.Ensures.mono h fun x s' => weaker x.1 x.2 s'

/-- Stricter answers and weaker promises keep a contract. -/
theorem Ensures.weaken {A' K' : StoreTerms σ} {p : CatalogProg α} {Q : α → Catalog → σ → Prop}
    (h : Ensures A K p c s Q) (stricter : ∀ call s r s', A' call s r s' → A call s r s')
    (promise : ∀ call s r s', A' call s r s' → K call s r s' → K' call s r s') :
    Ensures A' K' p c s Q := by
  refine Prog.Ensures.weaken h (fun call s r s' answered => ?_)
    (fun call s r s' answered kept => ?_)
  · cases call with
    | store call => exact stricter call s r s' answered
    | elapsed => exact answered
    | enter state => exact answered
  · cases call with
    | store call => exact promise call s r s' answered kept
    | elapsed => exact kept
    | enter state => exact kept

/-- A contract may be silent about the calls. -/
theorem Ensures.forget {p : CatalogProg α} {Q : α → Catalog → σ → Prop} (h : Ensures A K p c s Q) :
    Ensures A free p c s Q :=
  h.weaken (fun _ _ _ _ answered => answered) fun _ _ _ _ _ _ => trivial

/-- Two contracts about the same answers hold together. -/
theorem Ensures.and {K' : StoreTerms σ} {p : CatalogProg α} {Q Q' : α → Catalog → σ → Prop}
    (h : Ensures A K p c s Q) (h' : Ensures A K' p c s Q') :
    Ensures A (fun call s r s' => K call s r s' ∧ K' call s r s') p c s
      fun a c' s' => Q a c' s' ∧ Q' a c' s' := by
  refine Prog.Ensures.weaken (Prog.Ensures.and h h') (fun _ _ _ _ answered => answered) ?_
  intro call s r s' _ kept
  cases call with
  | store call => exact kept
  | elapsed => exact kept.1
  | enter state => exact kept.1

/-- A program ends as each of its contracts about the same answers says. -/
theorem Ensures.also {K' : StoreTerms σ} {p : CatalogProg α} {Q Q' : α → Catalog → σ → Prop}
    (h : Ensures A K p c s Q) (h' : Ensures A K' p c s Q') :
    Ensures A K p c s fun a c' s' => Q a c' s' ∧ Q' a c' s' :=
  (h.and h').weaken (fun _ _ _ _ answered => answered) (fun _ _ _ _ _ kept => kept.1)

/-- What every call preserves, the program preserves, and it holds at every call. -/
theorem Ensures.invariant {p : CatalogProg α} {Q : α → Catalog → σ → Prop} {J : σ → Prop}
    (h : Ensures A K p c s Q)
    (preserved : ∀ call s r s', A call s r s' → K call s r s' → J s → J s') (start : J s) :
    Ensures A (fun call s r s' => K call s r s' ∧ J s ∧ J s') p c s
      fun a c' s' => Q a c' s' ∧ J s' := by
  have kept := Prog.Ensures.invariant (J := J) h (fun call s r s' answered promise holds => by
    cases call with
    | store call => exact preserved call s r s' answered promise holds
    | elapsed => exact (show s' = s from answered) ▸ holds
    | enter state => exact (show s' = s from answered) ▸ holds) start
  refine Prog.Ensures.weaken kept (fun _ _ _ _ answered => answered) ?_
  intro call s r s' _ kept
  cases call with
  | store call => exact kept
  | elapsed => exact kept.1
  | enter state => exact kept.1

/-- Two ways to say the same of an end, with a catalog. -/
theorem ensures_congr {p : CatalogProg α} {Q Q' : α → Catalog → σ → Prop}
    (h : ∀ a c' s', Q a c' s' ↔ Q' a c' s') : Ensures A K p c s Q ↔ Ensures A K p c s Q' :=
  ⟨fun hq => hq.mono fun a c' s' => (h a c' s').1, fun hq => hq.mono fun a c' s' => (h a c' s').2⟩

/-- A program without a catalog leaves the catalog alone. -/
theorem ensures_lift (p : HostProg α) {Q : α → Catalog → σ → Prop} :
    Ensures A K (liftM p) c s Q ↔ HostProg.Ensures A K p s fun a s' => Q a c s' := by
  show HostProg.Ensures A K (p >>= fun a => pure (a, c)) s _ ↔ _
  rw [HostProg.ensures_bind]
  exact Iff.rfl

/-- An announcement is no call on a resource. -/
theorem ensures_announce (state : RunState) {Q : Unit → Catalog → σ → Prop} :
    Ensures A K (liftM (HostProg.enter state) : CatalogProg Unit) c s Q ↔ Q () c s := by
  rw [ensures_lift, HostProg.ensures_enter]

/-! ## Programs that may fail -/

/-- A failure skips what follows. -/
def skipOnError (Q : Except ε β → Catalog → σ → Prop) (next : α → Catalog → σ → Prop) :
    Except ε α → Catalog → σ → Prop
  | .ok a => next a
  | .error e => Q (.error e)

@[simp]
theorem skipOnError_ok (Q : Except ε β → Catalog → σ → Prop) (next : α → Catalog → σ → Prop)
    (a : α) : skipOnError Q next (.ok a) = next a := rfl

@[simp]
theorem skipOnError_error (Q : Except ε β → Catalog → σ → Prop) (next : α → Catalog → σ → Prop)
    (e : ε) : skipOnError Q next (.error e) = Q (.error e) := rfl

/-- Two ways to say the same of what comes after a success. -/
theorem skipOnError_congr {Q : Except ε β → Catalog → σ → Prop}
    {next next' : α → Catalog → σ → Prop} {r : Except ε α}
    (h : ∀ a, next a c s ↔ next' a c s) :
    skipOnError Q next r c s ↔ skipOnError Q next' r c s := by
  cases r with
  | ok a => exact h a
  | error e => exact Iff.rfl

/-- A program that may fail is taken apart at its first part. -/
theorem ensures_then (p : ExceptT ε CatalogProg α) (f : α → ExceptT ε CatalogProg β)
    {Q : Except ε β → Catalog → σ → Prop} :
    Ensures A K (p >>= f).run c s Q ↔
      Ensures A K p.run c s (skipOnError Q fun a c' s' => Ensures A K (f a).run c' s' Q) := by
  rw [ExceptT.run_bind, ensures_bind]
  apply ensures_congr
  intro r c' s'
  cases r <;> exact Iff.rfl

/-- The value of a program with a catalog is changed where it does not fail. -/
theorem ensures_map (f : α → β) (p : ExceptT ε CatalogProg α)
    {Q : Except ε β → Catalog → σ → Prop} :
    Ensures A K (f <$> p).run c s Q ↔
      Ensures A K p.run c s fun r c' s' => Q (r.map f) c' s' := by
  rw [map_eq_pure_bind, ensures_then]
  apply ensures_congr
  intro r c' s'
  cases r <;> exact Iff.rfl

theorem ensures_done (a : α) {Q : Except ε α → Catalog → σ → Prop} :
    Ensures A K (pure a : ExceptT ε CatalogProg α).run c s Q ↔ Q (.ok a) c s := Iff.rfl

/-- Looking at the catalog makes no call. -/
theorem ensures_look {Q : Except ε Catalog → Catalog → σ → Prop} :
    Ensures A K (get : ExceptT ε CatalogProg Catalog).run c s Q ↔ Q (.ok c) c s := Iff.rfl

/-- A note in the catalog makes no call. -/
theorem ensures_note (f : Catalog → Catalog) {Q : Except ε Unit → Catalog → σ → Prop} :
    Ensures A K (modify f : ExceptT ε CatalogProg Unit).run c s Q ↔ Q (.ok ()) (f c) s := Iff.rfl

/-- What follows a failure goes on from what was noted before it. -/
theorem ensures_recover (p : ExceptT ε CatalogProg α) (f : ε → ExceptT ε CatalogProg α)
    {Q : Except ε α → Catalog → σ → Prop} :
    Ensures A K (tryCatch p f).run c s Q ↔
      Ensures A K p.run c s fun r c' s' => match r with
        | .ok a => Q (.ok a) c' s'
        | .error e => Ensures A K (f e).run c' s' Q := by
  rw [ExceptT.run_tryCatch, ensures_bind]
  apply ensures_congr
  intro r c' s'
  cases r <;> exact Iff.rfl

/-- A program that cannot fail, inside one that may. -/
theorem ensures_succeed (p : CatalogProg α) {Q : Except ε α → Catalog → σ → Prop} :
    Ensures A K (liftM p : ExceptT ε CatalogProg α).run c s Q ↔
      Ensures A K p c s fun a c' s' => Q (.ok a) c' s' := by
  rw [ExceptT.run_liftM, map_eq_pure_bind, ensures_bind]
  exact Iff.rfl

/-- A program without a catalog that may fail, inside one with a catalog. -/
theorem ensures_attempt (p : HostM α) {Q : Except Error α → Catalog → σ → Prop} :
    Ensures A K (liftM p : CatalogM α).run c s Q ↔
      HostProg.Ensures A K p.run s fun r s' => Q r c s' :=
  ensures_lift p.run

/-- A program that moves no device, inside one that does. -/
theorem ensures_move (p : CatalogM α) {Q : Except Binding.Failure α → Catalog → σ → Prop} :
    Ensures A K (liftM p : Binding.MoveM α).run c s Q ↔
      Ensures A K p.run c s fun r c' s' => Q (r.mapError .plain) c' s' := by
  show Ensures A K ((Except.mapError Binding.Failure.plain) <$> p.run) c s Q ↔ _
  rw [map_eq_pure_bind, ensures_bind]
  exact Iff.rfl

/-! ## Programs that keep an invariant -/

/-- A program keeps an invariant of the catalog and the host, from wherever it holds. -/
def Maintains (A K : StoreTerms σ) (I : Catalog → σ → Prop) (p : CatalogProg α) : Prop :=
  ∀ ⦃c s⦄, I c s → Ensures A K p c s fun _ c' s' => I c' s'

namespace Maintains

variable {I : Catalog → σ → Prop}

/-- A program that only ends keeps every invariant. -/
theorem pure (a : α) : Maintains A K I (Pure.pure a : CatalogProg α) := fun _ _ holds => holds

/-- A sequence keeps what its parts keep. -/
theorem bind {p : CatalogProg α} {f : α → CatalogProg β} (first : Maintains A K I p)
    (later : ∀ a, Maintains A K I (f a)) : Maintains A K I (p >>= f) := by
  intro c s holds
  rw [ensures_bind]
  exact (first holds).mono fun a c' s' holds' => later a holds'

/-- A failure skips what follows and keeps the invariant. -/
theorem andThen {p : ExceptT ε CatalogProg α} {f : α → ExceptT ε CatalogProg β}
    (first : Maintains A K I p.run) (later : ∀ a, Maintains A K I (f a).run) :
    Maintains A K I (p >>= f).run := by
  intro c s holds
  rw [ensures_then]
  apply (first holds).mono
  intro r c' s' holds'
  cases r with
  | error e => exact holds'
  | ok a => exact later a holds'

theorem done (a : α) : Maintains A K I (Pure.pure a : ExceptT ε CatalogProg α).run :=
  fun _ _ holds => holds

/-- What is done with the catalog at hand keeps the invariant when it does so for every catalog. -/
theorem look {f : Catalog → ExceptT ε CatalogProg β} (later : ∀ c, Maintains A K I (f c).run) :
    Maintains A K I (get >>= f).run := by
  intro c s holds
  rw [ensures_then, ensures_look]
  exact later c holds

/-- A program that cannot fail, inside one that may. -/
theorem succeed {p : CatalogProg α} (inner : Maintains A K I p) :
    Maintains A K I (liftM p : CatalogM α).run := by
  intro c s holds
  rw [ensures_succeed]
  exact inner holds

/-- A program that moves no device, inside one that does. -/
theorem move {p : CatalogM α} (inner : Maintains A K I p.run) :
    Maintains A K I (liftM p : Binding.MoveM α).run := by
  intro c s holds
  rw [ensures_move]
  exact inner holds

end Maintains

end CatalogProg

end Provision
