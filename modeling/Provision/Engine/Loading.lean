import Provision.Engine.Host
import Provision.Journal

/-!
# Loading of modules

A module is loaded only when it is not loaded yet.  One that is loaded with other
parameters is left alone, since devices may depend on it.

Main results:

- `Loading.conflict?_eq_none_iff`: a loaded module is in the way exactly when it
  does not satisfy the request.
-/

namespace Provision.Loading

/-- The first requested parameter whose value a module does not carry, with both values. -/
def conflict? (m : ModuleRequest) (state : ModuleState) : Option (String × String × String) :=
  (m.parameters.entries.find? fun (name, value) =>
    !(state.parameters.get? name).any (KernelModule.valuesAgree value)).map
      fun (name, value) => (name, value, (state.parameters.get? name).getD "unknown")

/-- A loaded module is in the way exactly when it does not satisfy the request. -/
theorem conflict?_eq_none_iff {m : ModuleRequest} {state : ModuleState}
    (loaded : state.loaded = true) :
    conflict? m state = none ↔ m.satisfiedBy state = true := by
  simp [conflict?, ModuleRequest.satisfiedBy, loaded]

/-- Loads a module and sees that it is there. -/
def loadAbsent (m : ModuleRequest) : HostM Change := do
  ExceptT.adapt (fun e => .moduleLoadFailed m.name e.message) (HostM.ask (.loadModule m))
  let after ← HostM.ask (.moduleState m.name)
  if after.loaded then pure (.moduleLoaded m.name)
  else throw (.moduleLoadFailed m.name "module not present after modprobe")

/-- Sees that a module is loaded with the requested parameters; gives the change, if there was
one. -/
def require (m : ModuleRequest) : HostM (Option Change) := do
  let state ← HostM.ask (.moduleState m.name)
  if state.loaded then
    match conflict? m state with
    | some (parameter, expected, actual) =>
      throw (.moduleConflict state.name parameter expected actual)
    | none => pure none
  else some <$> loadAbsent m

/-- Unloads a module. -/
def unload (name : String) : HostM Unit := HostM.ask (.unloadModule name)

end Provision.Loading
