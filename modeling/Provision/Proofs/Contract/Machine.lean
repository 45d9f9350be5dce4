import Mathlib.Logic.Relation
import Provision.Proofs.Contract.Program
import Provision.Simulation.Machine
import Provision.Sysfs.Store

/-!
# Machines on which calls fail

What a program may rely on that makes calls to the operating system: a call is answered
as the machine answers it, or it fails.  A call that fails leaves the machine alone, with
two exceptions.  A write may have reached the file in part, or with something else, and
of the directories that were to be made some may be there.

Main results:

- `Prog.ensures_then`, `Prog.ensures_recover`: a program that may fail is taken apart at its
  first part.
- `Machine.mayAnswer_unreliable`: a machine on which calls fail at any places keeps these
  terms.
-/

namespace Provision

variable {α β ε σ : Type}

/-! ## Programs that may fail -/

namespace Prog

variable {S : Signature} {A K : Terms S σ} {s : σ}

/-- The terms that promise nothing. -/
def free : Terms S σ := fun _ _ _ _ => True

/-- A contract that asks for nothing is kept. -/
theorem ensures_true (p : Prog S α) : Ensures A free p s fun _ _ => True := by
  induction p generalizing s with
  | done a => trivial
  | call c next ih => exact fun r s' _ => ⟨trivial, ih r⟩

theorem ensures_map (f : α → β) (p : Prog S α) {Q : β → σ → Prop} :
    Ensures A K (f <$> p) s Q ↔ Ensures A K p s fun a s' => Q (f a) s' := by
  rw [map_eq_pure_bind, ensures_bind]
  exact Iff.rfl

/-- A program that may fail is taken apart at its first part, and a failure skips the rest. -/
theorem ensures_then (p : ExceptT ε (Prog S) α) (f : α → ExceptT ε (Prog S) β)
    {Q : Except ε β → σ → Prop} :
    Ensures A K (p >>= f).run s Q ↔
      Ensures A K p.run s fun r s' =>
        (∀ a, r = .ok a → Ensures A K (f a).run s' Q) ∧ ∀ e, r = .error e → Q (.error e) s' := by
  rw [ExceptT.run_bind, ensures_bind]
  constructor
  · intro h
    refine h.mono fun r s' ends => ?_
    cases r with
    | ok a => exact ⟨fun b same => Except.ok.inj same ▸ ends, nofun⟩
    | error e => exact ⟨nofun, fun e' same => Except.error.inj same ▸ (ensures_pure _ _).1 ends⟩
  · intro h
    refine h.mono fun r s' ends => ?_
    cases r with
    | ok a => exact ends.1 a rfl
    | error e => exact ends.2 e rfl

/-- A program that cannot fail, as one that may fail. -/
theorem ensures_lift (p : Prog S α) {Q : Except ε α → σ → Prop} :
    Ensures A K (liftM p : ExceptT ε (Prog S) α).run s Q ↔
      Ensures A K p s fun a s' => Q (.ok a) s' :=
  ensures_map Except.ok p

/-- What follows a failure goes on from where it happened. -/
theorem ensures_recover (p : ExceptT ε (Prog S) α) (f : ε → ExceptT ε (Prog S) α)
    {Q : Except ε α → σ → Prop} :
    Ensures A K (tryCatch p f).run s Q ↔
      Ensures A K p.run s fun r s' =>
        (∀ a, r = .ok a → Q (.ok a) s') ∧ ∀ e, r = .error e → Ensures A K (f e).run s' Q := by
  rw [ExceptT.run_tryCatch, ensures_bind]
  constructor
  · intro h
    refine h.mono fun r s' ends => ?_
    cases r with
    | ok a => exact ⟨fun b same => Except.ok.inj same ▸ (ensures_pure _ _).1 ends, nofun⟩
    | error e => exact ⟨nofun, fun e' same => Except.error.inj same ▸ ends⟩
  · intro h
    refine h.mono fun r s' ends => ?_
    cases r with
    | ok a => exact ends.1 a rfl
    | error e => exact ends.2 e rfl

end Prog

/-- A call whose failure is an error about a resource. -/
theorem Sysfs.ensures_attempt {A K : Prog.Terms osSignature σ} {s : σ} (operation : String)
    (p : HostPath) (call : OsProg (Except OsError α)) {Q : Except Error α → σ → Prop} :
    Prog.Ensures A K (attempt operation p call).run s Q ↔
      Prog.Ensures A K call s fun r s' => Q (r.mapError (fileError operation p)) s' :=
  Prog.ensures_map _ _

/-! ## Calls that fail -/

namespace OsCall

/-- Whether a call failed.  A file that is said to be missing is an answer and no failure. -/
def failed : (c : OsCall) → c.Reply → Bool
  | .readFile _, .error e => e != .noEntry
  | .writeFile _ _, .error _ | .leadsToDir _, .error _ | .listDir _, .error _
  | .readLink _, .error _ | .makeDirs _, .error _ | .rename _ _, .error _
  | .shell _, .error _ => true
  | _, _ => false

/-- The reply of a call that fails with an error, if it can fail. -/
def failure? (e : OsError) : (c : OsCall) → Option c.Reply
  | .timestamp => none
  | .readFile _ | .writeFile _ _ | .leadsToDir _ | .listDir _ | .readLink _ | .makeDirs _
  | .rename _ _ | .shell _ => some (.error e)

/-- A call that fails otherwise than by finding nothing has failed. -/
theorem failed_of_failure? {e : OsError} (other : e ≠ .noEntry) {c : OsCall} {r : c.Reply}
    (h : failure? e c = some r) : c.failed r = true := by
  cases c <;> simp only [failure?, Option.some.injEq, reduceCtorEq] at h <;> subst h <;>
    simp [failed, other]

end OsCall

namespace Machine

/-- What a call that failed may leave of a machine. -/
def mayLeave : OsCall → Machine → Machine → Prop
  | .writeFile p _, m, m' => m' = m ∨ ∃ l part, Walk.locateFile m.tree m.cwd p = .ok l ∧
      m' = m.withTree (m.tree.put l (.file part))
  | .makeDirs p, m, m' => m' = m ∨ ∃ above, Relation.ReflTransGen (fun p q => p.parent? = some q)
      p above ∧ m' = m.withTree (m.tree.makeDirs m.cwd above).2
  | _, m, m' => m' = m

/-- What may happen at a call to the operating system: it is answered as the machine answers it, or
it fails.  The clock may show anything. -/
def mayAnswer : Prog.Terms osSignature Machine
  | .timestamp, m, _, m' => m' = m
  | c, m, r, m' => answer c m = (r, m') ∨ (c.failed r = true ∧ mayLeave c m m')

/-- A call that failed may leave a machine alone. -/
theorem mayLeave_self (c : OsCall) (m : Machine) : mayLeave c m m := by
  cases c <;> first | rfl | exact .inl rfl

/-- A call may fail. -/
theorem mayAnswer_of_failed {c : OsCall} {m m' : Machine} {r : c.Reply} (failed : c.failed r = true)
    (left : mayLeave c m m') : mayAnswer c m r m' := by
  cases c <;> first | exact .inr ⟨failed, left⟩ | cases failed

/-- The terms on which a machine answers, when calls may fail only where `failing` holds. -/
def answering (failing : Prop) : Prog.Terms osSignature Machine := fun c m r m' =>
  mayAnswer c m r m' ∧ (c.failed r = true → failing)

/-- A machine on which calls fail without effect: `fails` says at which places of the sequence of
all calls, and with which error. -/
def unreliable (fails : Nat → Option OsError) : Handler osSignature (Machine × Nat)
  | c, (m, place) =>
    match (fails place).bind fun e => OsCall.failure? e c with
    | some r => (r, m, place + 1)
    | none => ((answer c m).1, (answer c m).2, place + 1)

/-- A machine answers as it may. -/
theorem mayAnswer_answer (c : OsCall) (m : Machine) :
    mayAnswer c m (answer c m).1 (answer c m).2 := by
  cases c <;> first | rfl | exact .inl rfl

/-- An unreliable machine answers as the machine may, when it does not hide files. -/
theorem mayAnswer_unreliable {fails : Nat → Option OsError} (seen : ∀ n, fails n ≠ some .noEntry)
    (c : OsCall) (m : Machine × Nat) :
    mayAnswer c m.1 (unreliable fails c m).1 (unreliable fails c m).2.1 := by
  obtain ⟨m, place⟩ := m
  unfold unreliable
  cases verdict : (fails place).bind fun e => OsCall.failure? e c with
  | none => simpa [verdict] using mayAnswer_answer c m
  | some r =>
    obtain ⟨e, failing, reply⟩ := Option.bind_eq_some_iff.1 verdict
    have failed := OsCall.failed_of_failure? (fun h => seen place (h ▸ failing)) reply
    simp only [verdict]
    exact mayAnswer_of_failed failed (mayLeave_self c m)

end Machine

end Provision
