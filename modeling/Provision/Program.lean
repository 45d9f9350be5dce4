/-!
# Programs that make calls

A program is a tree: it ends with a value, or makes a call and goes on with the
reply.  The same program can be run against any state that answers its calls,
be interpreted into calls of another kind, and be carried out by the machine.

Main results:

- `Prog.run_bind`: a sequence runs its parts one after the other.
- `Prog.run_interpret`: running an interpreted program is running the program
  against the interpreted calls.
- `Prog.calls_bind`: the calls of a sequence are those of its parts.
-/

namespace Provision

/-- A kind of calls: the calls and the type of the reply to each of them. -/
structure Signature where
  Call : Type
  Reply : Call → Type

/-- A program that makes calls of one kind and ends with a value. -/
inductive Prog (S : Signature) (α : Type) where
  | done (a : α)
  | call (c : S.Call) (next : S.Reply c → Prog S α)

/-- How calls are answered: the reply to a call, and the state afterwards. -/
abbrev Handler (S : Signature) (σ : Type) := (c : S.Call) → σ → S.Reply c × σ

namespace Prog

variable {S T : Signature} {α β γ σ : Type}

/-! ## Sequences -/

/-- Goes on with `f` where `p` ends. -/
def bind (p : Prog S α) (f : α → Prog S β) : Prog S β :=
  match p with
  | .done a => f a
  | .call c next => .call c fun r => bind (next r) f

instance : Monad (Prog S) where
  pure := .done
  bind := bind

/-- A program that ends hands its value on. -/
@[simp]
theorem bind_done (a : α) (f : α → Prog S β) : (Prog.done a >>= f) = f a := rfl

/-- A program that makes a call goes on behind it. -/
@[simp]
theorem bind_call (c : S.Call) (next : S.Reply c → Prog S α) (f : α → Prog S β) :
    (Prog.call c next >>= f) = .call c fun r => next r >>= f := rfl

instance : LawfulMonad (Prog S) :=
  LawfulMonad.mk' _
    (fun x => by
      induction x with
      | done a => rfl
      | call c next ih => exact congrArg (Prog.call c) (funext ih))
    (fun _ _ => rfl)
    (fun x f g => by
      induction x with
      | done a => rfl
      | call c next ih => exact congrArg (Prog.call c) (funext ih))

/-- The program that makes one call and ends with its reply. -/
def perform (c : S.Call) : Prog S (S.Reply c) := .call c .done

/-! ## Running -/

/-- Runs a program against a state: its value, and the state afterwards. -/
def run (h : Handler S σ) : Prog S α → σ → α × σ
  | .done a, s => (a, s)
  | .call c next, s =>
    let (r, s) := h c s
    run h (next r) s

@[simp]
theorem run_done (h : Handler S σ) (a : α) (s : σ) : run h (.done a) s = (a, s) := rfl

@[simp]
theorem run_pure (h : Handler S σ) (a : α) (s : σ) :
    run h (pure a : Prog S α) s = (a, s) := rfl

/-- A program of one call does what the call does. -/
@[simp]
theorem run_perform (h : Handler S σ) (c : S.Call) (s : σ) :
    run h (perform c) s = h c s := rfl

/-- A sequence runs its parts one after the other. -/
theorem run_bind (h : Handler S σ) (p : Prog S α) (f : α → Prog S β) (s : σ) :
    run h (p >>= f) s = run h (f (run h p s).1) (run h p s).2 := by
  induction p generalizing s with
  | done a => rfl
  | call c next ih => exact ih (h c s).1 (h c s).2

/-- Carries a program out in a monad that can carry out its calls. -/
def carryOut {m : Type → Type} [Monad m] (f : (c : S.Call) → m (S.Reply c)) :
    Prog S α → m α
  | .done a => pure a
  | .call c next => do
    let r ← f c
    carryOut f (next r)

/-! ## Interpreting -/

/-- Replaces every call by a program of calls of another kind. -/
def interpret (f : (c : S.Call) → Prog T (S.Reply c)) : Prog S α → Prog T α
  | .done a => .done a
  | .call c next => (f c).bind fun r => interpret f (next r)

/-- Running an interpreted program is running the program against the interpreted calls. -/
theorem run_interpret (h : Handler T σ) (f : (c : S.Call) → Prog T (S.Reply c))
    (p : Prog S α) (s : σ) :
    run h (interpret f p) s = run (fun c => run h (f c)) p s := by
  induction p generalizing s with
  | done a => rfl
  | call c next ih =>
    show run h ((f c) >>= fun r => interpret f (next r)) s = _
    rw [run_bind, ih]
    rfl

/-! ## Histories -/

/-- One call of a run: the state before it, the call, its reply, and the state afterwards. -/
structure Event (S : Signature) (σ : Type) where
  before : σ
  call : S.Call
  reply : S.Reply call
  after : σ

/-- The calls that a program makes when it is run against a state, in order. -/
def calls (h : Handler S σ) : Prog S α → σ → List (Event S σ)
  | .done _, _ => []
  | .call c next, s =>
    ⟨s, c, (h c s).1, (h c s).2⟩ :: calls h (next (h c s).1) (h c s).2

@[simp]
theorem calls_done (h : Handler S σ) (a : α) (s : σ) : calls h (.done a) s = [] := rfl

/-- The calls of a sequence are those of its parts, one after the other. -/
theorem calls_bind (h : Handler S σ) (p : Prog S α) (f : α → Prog S β) (s : σ) :
    calls h (p >>= f) s = calls h p s ++ calls h (f (run h p s).1) (run h p s).2 := by
  induction p generalizing s with
  | done a => rfl
  | call c next ih => exact congrArg (_ :: ·) (ih (h c s).1 (h c s).2)

end Prog

end Provision
