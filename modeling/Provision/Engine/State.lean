/-!
# States of a run

The states that a run goes through.  A setup goes from `probing` through its
steps to `committed`; when a step fails it goes on to `rollingBack` and `failed`.
-/

namespace Provision

/-- A state of a run. -/
inductive RunState
  | idle
  | probing
  /-- At a step, counted from one, of all steps. -/
  | applying (step total : Nat)
  | committed
  | rollingBack
  | failed
  deriving DecidableEq, Inhabited

namespace RunState

/-- A state as text. -/
protected def toString : RunState → String
  | .idle => "idle"
  | .probing => "probing"
  | .applying step total => "applying(" ++ toString step ++ " of " ++ toString total ++ ")"
  | .committed => "committed"
  | .rollingBack => "rolling-back"
  | .failed => "failed"

instance : ToString RunState := ⟨RunState.toString⟩

end RunState

end Provision
