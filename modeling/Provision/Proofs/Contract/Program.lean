import Provision.Program

/-!
# Contracts of programs

A contract is about one program and one state to start in.  As long as the calls
are answered on some terms, the program keeps terms of its own at every call, and
ends with a value and a state as the contract says.  The terms of the answers may
leave a choice: a host on which calls fail at any place, and a host of which
nothing is known, are terms like any other.

Main results:

- `Prog.ensures_bind`: a sequence is taken apart at its first part.
- `Prog.Ensures.invariant`: what every call preserves, the program preserves.
- `Prog.Ensures.of_calls`: what a contract says of the calls and of the end of
  a run whose calls were answered on its terms.
-/

namespace Provision.Prog

variable {S : Signature} {α β σ τ : Type}

/-- What may happen at a call: the state before it, its reply, and the state afterwards. -/
abbrev Terms (S : Signature) (σ : Type) := (c : S.Call) → σ → S.Reply c → σ → Prop

/-- While calls are answered on the terms `A`, every call keeps the terms `K`, and the program
ends as `Q` says. -/
def Ensures (A K : Terms S σ) : Prog S α → σ → (α → σ → Prop) → Prop
  | .done a, s, Q => Q a s
  | .call c next, s, Q => ∀ r s', A c s r s' → K c s r s' ∧ Ensures A K (next r) s' Q

variable {A A' K K' : Terms S σ} {Q Q' : α → σ → Prop}

/-! ## Rules -/

@[simp]
theorem ensures_done (a : α) (s : σ) : Ensures A K (.done a) s Q ↔ Q a s := Iff.rfl

@[simp]
theorem ensures_pure (a : α) (s : σ) : Ensures A K (pure a : Prog S α) s Q ↔ Q a s := Iff.rfl

/-- A sequence is taken apart at its first part. -/
theorem ensures_bind (p : Prog S α) (f : α → Prog S β) (s : σ) {Q : β → σ → Prop} :
    Ensures A K (p >>= f) s Q ↔ Ensures A K p s fun a s' => Ensures A K (f a) s' Q := by
  induction p generalizing s with
  | done a => exact Iff.rfl
  | call c next ih =>
    constructor
    · intro h r s' ha
      exact ⟨(h r s' ha).1, (ih r s').1 (h r s' ha).2⟩
    · intro h r s' ha
      exact ⟨(h r s' ha).1, (ih r s').2 (h r s' ha).2⟩

/-- A program that ends well ends as anything weaker says. -/
theorem Ensures.mono {p : Prog S α} {s : σ} (h : Ensures A K p s Q)
    (weaker : ∀ a s', Q a s' → Q' a s') : Ensures A K p s Q' := by
  induction p generalizing s with
  | done a => exact weaker a s h
  | call c next ih =>
    intro r s' ha
    exact ⟨(h r s' ha).1, ih r (h r s' ha).2⟩

/-- Stricter answers and weaker promises keep a contract. -/
theorem Ensures.weaken {p : Prog S α} {s : σ} (h : Ensures A K p s Q)
    (stricter : ∀ c s r s', A' c s r s' → A c s r s')
    (promise : ∀ c s r s', A' c s r s' → K c s r s' → K' c s r s') : Ensures A' K' p s Q := by
  induction p generalizing s with
  | done a => exact h
  | call c next ih =>
    intro r s' ha
    obtain ⟨hk, hrest⟩ := h r s' (stricter c s r s' ha)
    exact ⟨promise c s r s' ha hk, ih r hrest⟩

/-- Two contracts about the same answers hold together. -/
theorem Ensures.and {p : Prog S α} {s : σ} (h : Ensures A K p s Q) (h' : Ensures A K' p s Q') :
    Ensures A (fun c s r s' => K c s r s' ∧ K' c s r s') p s fun a s' => Q a s' ∧ Q' a s' := by
  induction p generalizing s with
  | done a => exact ⟨h, h'⟩
  | call c next ih =>
    intro r s' ha
    exact ⟨⟨(h r s' ha).1, (h' r s' ha).1⟩, ih r (h r s' ha).2 (h' r s' ha).2⟩

/-- What every call preserves, the program preserves, and it holds at every call. -/
theorem Ensures.invariant {p : Prog S α} {s : σ} {J : σ → Prop} (h : Ensures A K p s Q)
    (preserved : ∀ c s r s', A c s r s' → K c s r s' → J s → J s') (start : J s) :
    Ensures A (fun c s r s' => K c s r s' ∧ J s ∧ J s') p s fun a s' => Q a s' ∧ J s' := by
  induction p generalizing s with
  | done a => exact ⟨h, start⟩
  | call c next ih =>
    intro r s' ha
    obtain ⟨hk, hrest⟩ := h r s' ha
    have kept : J s' := preserved c s r s' ha hk start
    exact ⟨⟨hk, start, kept⟩, ih r hrest kept⟩

/-! ## Runs -/

/-- What a contract says of a run whose calls were answered on its terms.  The run may keep a
larger state than the contract looks at. -/
theorem Ensures.of_calls {h : Handler S τ} (view : τ → σ) {p : Prog S α} {t : τ}
    (contract : Ensures A K p (view t) Q)
    (answered : ∀ e ∈ calls h p t, A e.call (view e.before) e.reply (view e.after)) :
    (∀ e ∈ calls h p t, K e.call (view e.before) e.reply (view e.after)) ∧
      Q (run h p t).1 (view (run h p t).2) := by
  induction p generalizing t with
  | done a => exact ⟨fun e he => absurd he (List.not_mem_nil), contract⟩
  | call c next ih =>
    have first : A c (view t) (h c t).1 (view (h c t).2) := answered _ (List.mem_cons_self ..)
    obtain ⟨hk, hrest⟩ := contract _ _ first
    obtain ⟨later, ending⟩ := ih _ hrest fun e he => answered e (List.mem_cons_of_mem _ he)
    refine ⟨fun e he => ?_, ending⟩
    rcases List.mem_cons.1 he with rfl | he
    · exact hk
    · exact later e he

/-- An event of a run is a call that the handler answered. -/
theorem answer_of_mem_calls {h : Handler S τ} {p : Prog S α} {t : τ} {e : Event S τ}
    (he : e ∈ calls h p t) : h e.call e.before = (e.reply, e.after) := by
  induction p generalizing t with
  | done a => exact absurd he (List.not_mem_nil)
  | call c next ih =>
    rcases List.mem_cons.1 he with rfl | he
    · rfl
    · exact ih _ he

end Provision.Prog
