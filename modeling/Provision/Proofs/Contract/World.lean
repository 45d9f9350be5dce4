import Provision.Proofs.Contract.Host
import Provision.Store.Fault

/-!
# Runs in surroundings

A run makes its calls on a host that answers each of them in one way.  What can be
seen of it on the host are these calls, each with the state before it, the reply,
and the state afterwards.  A contract on the terms of the host's own answers says
what holds at every one of these calls and at the end.

Main results:

- `CatalogProg.Ensures.of_run`, `HostProg.Ensures.of_run`: from a contract to the calls
  and the end of a run.
- `StoreHandler.answer_unreliable`: a host on which calls fail answers a call as the
  host alone, or fails and stays as it is.
- `FaultRule.answer_orFails`: so does a host with rules that make calls fail.
- `CatalogProg.Ensures.spared`: a program that makes none of the calls that fail.
-/

namespace Provision

variable {α β σ τ : Type}

/-! ## Terms of a host -/

/-- The terms of a host: every call is answered as the host answers it. -/
def StoreTerms.of (store : StoreHandler σ) : StoreTerms σ := fun call s r s' =>
  store call s = (r, s')

/-- The terms of a host on which any call may fail without effect. -/
def StoreTerms.orFails (store : StoreHandler σ) : StoreTerms σ := fun call s r s' =>
  store call s = (r, s') ∨ ∃ e, r = .error e ∧ s' = s

/-- The terms of a host on which the calls of a kind may fail without effect. -/
def StoreTerms.failing (store : StoreHandler σ) (hit : StoreCall → Prop) : StoreTerms σ :=
  fun call s r s' => store call s = (r, s') ∨ hit call ∧ ∃ e, r = .error e ∧ s' = s

/-- The terms on which no call fails. -/
def StoreTerms.succeeding : StoreTerms σ := fun _ _ r _ => ∃ v, r = .ok v

/-- The terms of a host on which no call fails. -/
def StoreTerms.unfailing (store : StoreHandler σ) : StoreTerms σ := fun call s r s' =>
  store call s = (r, s') ∧ ∃ v, r = .ok v

/-- A host on which calls fail without effect: `fails` says at which places of the sequence of
all calls, and with which error. -/
def StoreHandler.unreliable (store : StoreHandler σ) (fails : Nat → Option Error) :
    StoreHandler (σ × Nat)
  | call, (s, place) =>
    match fails place with
    | some e => (.error e, s, place + 1)
    | none => ((store call s).1, (store call s).2, place + 1)

/-- An unreliable host answers a call as the host alone, or fails and stays as it is. -/
theorem StoreHandler.answer_unreliable (store : StoreHandler σ) (fails : Nat → Option Error)
    (call : StoreCall) (s : σ × Nat) :
    StoreTerms.orFails store call s.1 (store.unreliable fails call s).1
      (store.unreliable fails call s).2.1 := by
  obtain ⟨s, place⟩ := s
  unfold unreliable StoreTerms.orFails
  cases hplace : fails place with
  | some e =>
    right
    exact ⟨e, by simp [hplace], by simp [hplace]⟩
  | none =>
    left
    simp [hplace]

/-- So does a host with rules that make calls fail, as long as none of them makes a call succeed
that was not made. -/
theorem FaultRule.answer_orFails (store : StoreHandler σ) {rules : List FaultRule}
    (honest : ∀ r ∈ rules, r.skip = false) (call : StoreCall) (s : σ) :
    StoreTerms.orFails store call s (answer store call (s, rules)).1
      (answer store call (s, rules)).2.1 := by
  refine (answer_cases store call s rules).imp_right fun ⟨r, there, _, replied, same⟩ => ?_
  have failure : r.verdict call = .error (.store call.method call.key r.message) := by
    simp [verdict, honest r there]
  exact ⟨_, replied.trans failure, same⟩

/-- A host on which calls of a kind fail without effect: `fails` says at which places of the
sequence of all calls they would, and with which error. -/
def StoreHandler.unreliableAt (store : StoreHandler σ) (hit : StoreCall → Bool)
    (fails : Nat → Option Error) : StoreHandler (σ × Nat) := fun call s =>
  store.unreliable (if hit call then fails else fun _ => none) call s

/-- A host on which calls of a kind fail answers the other calls as the host alone. -/
theorem StoreHandler.answer_unreliableAt (store : StoreHandler σ) (hit : StoreCall → Bool)
    (fails : Nat → Option Error) (call : StoreCall) (s : σ × Nat) :
    StoreTerms.failing store (hit · = true) call s.1 (store.unreliableAt hit fails call s).1
      (store.unreliableAt hit fails call s).2.1 := by
  unfold unreliableAt
  cases hits : hit call with
  | true => exact (store.answer_unreliable _ call s).imp_right fun fails => ⟨hits, fails⟩
  | false => exact .inl rfl

/-- A single call on a host leads to one reply and one state. -/
theorem StoreTerms.asks_of {store : StoreHandler σ} {K : StoreTerms σ} {call : StoreCall} {s : σ}
    {Q : call.Reply → σ → Prop} :
    Asks (of store) K call s Q ↔
      K call s (store call s).1 (store call s).2 ∧ Q (store call s).1 (store call s).2 := by
  constructor
  · intro h
    exact h _ _ rfl
  · intro h r s' answered
    have hreply : r = (store call s).1 := (congrArg Prod.fst answered).symm
    have hafter : s' = (store call s).2 := (congrArg Prod.snd answered).symm
    rw [hreply, hafter]
    exact h

/-- A program that makes none of the calls that fail does what it does on a host on which none
fails. -/
theorem CatalogProg.Ensures.spared {store : StoreHandler σ} {hit P : StoreCall → Prop}
    {p : CatalogProg α} {c : Catalog} {s : σ} {Q : α → Catalog → σ → Prop}
    (contract : Ensures (StoreTerms.of store) (fun call _ _ _ => P call) p c s Q)
    (spare : ∀ call, P call → ¬ hit call) :
    Ensures (StoreTerms.failing store hit) (fun call _ _ _ => P call) p c s Q := by
  unfold Ensures HostProg.Ensures at contract ⊢
  generalize p.run c = tree at contract ⊢
  induction tree generalizing s with
  | done a => exact contract
  | call c next ih =>
    intro r s' answered
    cases c with
    | store call =>
      have made : P call := (contract _ _ rfl).1
      have alone : store call s = (r, s') :=
        answered.resolve_right fun fails => spare call made fails.1
      exact ⟨made, ih r (contract r s' alone).2⟩
    | elapsed => exact ⟨answered, ih r (contract r s' answered).2⟩
    | enter state => exact ⟨answered, ih r (contract r s' answered).2⟩

/-- What holds on a host on which calls fail holds on the host alone. -/
theorem CatalogProg.Ensures.of_failing {store : StoreHandler σ} {hit : StoreCall → Prop}
    {K : StoreTerms σ} {p : CatalogProg α} {c : Catalog} {s : σ} {Q : α → Catalog → σ → Prop}
    (contract : Ensures (StoreTerms.failing store hit) K p c s Q) :
    Ensures (StoreTerms.of store) K p c s Q :=
  contract.weaken (fun _ _ _ _ answered => .inl answered) fun _ _ _ _ _ kept => kept

/-- What holds on a host on which any call may fail holds on one on which calls of a kind do. -/
theorem CatalogProg.Ensures.of_orFails {store : StoreHandler σ} {hit : StoreCall → Prop}
    {K : StoreTerms σ} {p : CatalogProg α} {c : Catalog} {s : σ} {Q : α → Catalog → σ → Prop}
    (contract : Ensures (StoreTerms.orFails store) K p c s Q) :
    Ensures (StoreTerms.failing store hit) K p c s Q :=
  contract.weaken (fun _ _ _ _ answered => answered.imp_right And.right)
    fun _ _ _ _ _ kept => kept

/-! ## Runs -/

/-- A call on a resource: the state before it, the call, its reply, and the state afterwards. -/
structure StoreEvent (σ : Type) where
  before : σ
  call : StoreCall
  reply : call.Reply
  after : σ

/-- The call on a resource that was made, if it was one. -/
def World.storeEvent? : Prog.Event hostSignature (World σ) → Option (StoreEvent σ)
  | ⟨w, .store call, reply, w'⟩ => some ⟨w.host, call, reply, w'.host⟩
  | ⟨_, .elapsed, _, _⟩ => none
  | ⟨_, .enter _, _, _⟩ => none

namespace CatalogProg

/-- How a run on a host ends: the value, the catalog, and the surroundings. -/
def runOn (store : StoreHandler σ) (clock : Nat → Nat) (p : CatalogProg α) (c : Catalog)
    (w : World σ) : (α × Catalog) × World σ :=
  Prog.run (World.handler store clock) (p.run c) w

/-- The calls on resources that a run makes, in order. -/
def storeCalls (store : StoreHandler σ) (clock : Nat → Nat) (p : CatalogProg α) (c : Catalog)
    (w : World σ) : List (StoreEvent σ) :=
  (Prog.calls (World.handler store clock) (p.run c) w).filterMap World.storeEvent?

variable {store : StoreHandler τ} {clock : Nat → Nat} {A K : StoreTerms σ} {p : CatalogProg α}
  {c : Catalog} {Q : α → Catalog → σ → Prop}

/-- What surroundings do at a call is on any terms that the host keeps. -/
theorem onHost_of_answered (view : τ → σ) {call : HostCall} {before after : World τ}
    {reply : call.Reply} (happened : World.handler store clock call before = (reply, after))
    (answered : ∀ event, World.storeEvent? ⟨before, call, reply, after⟩ = some event →
      A event.call (view event.before) event.reply (view event.after)) :
    A.onHost call (view before.host) reply (view after.host) := by
  cases call with
  | store call => exact answered _ rfl
  | elapsed =>
    cases happened
    rfl
  | enter state =>
    cases happened
    rfl

/-- What a contract says of a run in which the calls on resources were answered on its terms. -/
theorem Ensures.of_storeCalls (w : World τ) (view : τ → σ)
    (contract : Ensures A K p c (view w.host) Q)
    (answered : ∀ e ∈ storeCalls store clock p c w,
      A e.call (view e.before) e.reply (view e.after)) :
    (∀ e ∈ storeCalls store clock p c w, K e.call (view e.before) e.reply (view e.after)) ∧
      Q (runOn store clock p c w).1.1 (runOn store clock p c w).1.2
        (view (runOn store clock p c w).2.host) := by
  have onTerms : ∀ e ∈ Prog.calls (World.handler store clock) (p.run c) w,
      A.onHost e.call (view e.before.host) e.reply (view e.after.host) := by
    intro e he
    apply onHost_of_answered view (Prog.answer_of_mem_calls he)
    intro event hevent
    exact answered event (List.mem_filterMap.2 ⟨e, he, hevent⟩)
  have concluded := Prog.Ensures.of_calls (fun w : World τ => view w.host) contract onTerms
  refine ⟨fun event hevent => ?_, concluded.2⟩
  obtain ⟨e, he, same⟩ := List.mem_filterMap.1 hevent
  have kept := concluded.1 e he
  obtain ⟨before, call, reply, after⟩ := e
  cases call with
  | store call =>
    cases same
    exact kept
  | elapsed => cases same
  | enter state => cases same

/-- A call on a resource of a run is answered by the host. -/
theorem answer_of_mem_storeCalls {w : World τ} {e : StoreEvent τ}
    (he : e ∈ storeCalls store clock p c w) :
    store e.call e.before = (e.reply, e.after) := by
  obtain ⟨⟨before, call, reply, after⟩, hmem, same⟩ := List.mem_filterMap.1 he
  have happened := Prog.answer_of_mem_calls hmem
  cases call with
  | store call =>
    cases same
    exact congrArg (fun x => (x.1, x.2.host)) happened
  | elapsed => cases same
  | enter state => cases same

/-- What a contract says of a run on a host that answers on its terms. -/
theorem Ensures.of_run (store : StoreHandler τ) (clock : Nat → Nat) (w : World τ) (view : τ → σ)
    (contract : Ensures A K p c (view w.host) Q)
    (answers : ∀ call t, A call (view t) (store call t).1 (view (store call t).2)) :
    (∀ e ∈ storeCalls store clock p c w, K e.call (view e.before) e.reply (view e.after)) ∧
      Q (runOn store clock p c w).1.1 (runOn store clock p c w).1.2
        (view (runOn store clock p c w).2.host) := by
  apply contract.of_storeCalls w view
  intro e he
  have := answers e.call e.before
  rwa [answer_of_mem_storeCalls he] at this

end CatalogProg

/-- What a contract on the host's own terms says of the end of a run without a catalog. -/
theorem HostProg.Ensures.of_run {store : StoreHandler σ} {K : StoreTerms σ} {p : HostProg α}
    {Q : α → σ → Prop} (clock : Nat → Nat) (w : World σ)
    (contract : HostProg.Ensures (StoreTerms.of store) K p w.host Q) :
    Q (Prog.run (World.handler store clock) p w).1
      (Prog.run (World.handler store clock) p w).2.host := by
  induction p generalizing w with
  | done a => exact contract
  | call call next ih =>
    cases call with
    | store call => exact ih _ { w with host := (store call w.host).2 } (contract _ _ rfl).2
    | elapsed =>
      exact ih (clock w.readings) { w with readings := w.readings + 1 } (contract _ w.host rfl).2
    | enter state => exact ih () { w with state := state } (contract _ w.host rfl).2

end Provision
