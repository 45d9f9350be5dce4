import Provision.Cli.Invoke
import Provision.Proofs.Contract.Host

/-!
# Marked calls

To say that a program makes no call of some kind, it is enough to keep note of whether
one was made so far.  Terms that do so know nothing of the surroundings, so what they
tell holds of every run, however its calls are answered.

Main results:

- `Prog.Ensures.unmarked`: a contract tells that a run makes no marked call.
- `CliProg.ensures_onHost`: an invocation carries out a program on a host.
-/

namespace Provision

variable {α σ τ : Type}

namespace Prog

variable {S : Signature}

/-- The terms that keep note of whether a marked call was made. -/
def noting (marks : S.Call → Bool) : Terms S Bool := fun c noted _ noted' =>
  noted' = (noted || marks c)

/-- What is noted at the end of a run is whether it made a marked call. -/
theorem Ensures.noted {marks : S.Call → Bool} {K : Terms S Bool} {p : Prog S α} {noted : Bool}
    {Q : α → Bool → Prop} (contract : Ensures (noting marks) K p noted Q) (h : Handler S τ)
    (t : τ) :
    Q (run h p t).1 (noted || (calls h p t).any fun e => marks e.call) := by
  induction p generalizing noted t with
  | done a =>
    rw [calls_done, List.any_nil, Bool.or_false]
    exact contract
  | call c next ih =>
    have first := (contract (h c t).1 (noted || marks c) rfl).2
    have later := ih _ first (h c t).2
    rwa [Bool.or_assoc] at later

/-- A run that ends in a way in which nothing may be noted makes no marked call. -/
theorem Ensures.unmarked {marks : S.Call → Bool} {K : Terms S Bool} {p : Prog S α} {P : α → Prop}
    (contract : Ensures (noting marks) K p false fun a noted => P a → noted = false)
    (h : Handler S τ) (t : τ) (ends : P (run h p t).1) :
    ∀ e ∈ calls h p t, marks e.call = false := by
  intro e he
  have noted := contract.noted h t ends
  rw [Bool.false_or, List.any_eq_false] at noted
  exact Bool.eq_false_iff.2 (noted e he)

end Prog

/-! ## Invocations -/

namespace CliProg

theorem ensures_call {A K : Prog.Terms cliSignature σ} (c : CliCall) {s : σ}
    {Q : c.Reply → σ → Prop} :
    Prog.Ensures A K (call c) s Q ↔ ∀ r s', A c s r s' → K c s r s' ∧ Q r s' := Iff.rfl

/-- The contract of a program that an invocation carries out on a host is its own. -/
theorem ensures_onHost {A K : Prog.Terms cliSignature σ} (place : Sysfs) (p : HostProg α) {s : σ}
    {Q : α → σ → Prop} :
    Prog.Ensures A K (onHost place p) s Q ↔
      Prog.Ensures (fun c => A (.host place c)) (fun c => K (.host place c)) p s Q := by
  induction p generalizing s with
  | done a => exact Iff.rfl
  | call c next ih =>
    show (∀ r s', _ → _ ∧ Prog.Ensures A K (onHost place (next r)) s' Q) ↔ _
    exact forall₂_congr fun r s' => imp_congr_right fun _ => and_congr_right fun _ => ih r

end CliProg

end Provision
