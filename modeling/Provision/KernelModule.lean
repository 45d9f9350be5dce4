import Provision.Data.SortedMap
import Provision.Text.Blank

/-!
# Kernel modules

The modules of the kernel, the parameters they carry, and which modules a
passthrough driver needs.  A hyphen and an underscore are the same character in
the name of a module.

Main results:

- `KernelModule.valuesAgree_comm`: agreement of parameter values is symmetric.
- `ModuleRequest.satisfiedBy_iff`: when a module satisfies a request.
-/

namespace Provision

namespace KernelModule

/-- The characters of a name in the form in which the kernel lists it. -/
def normalizeChars (name : List Char) : List Char :=
  (Text.trimChars name).map fun c => if c == '-' then '_' else c

/-- A name in the form in which the kernel lists it. -/
def normalize (name : String) : String := String.ofList (normalizeChars name.toList)

/-- A truth value in the spelling of the kernel; other parameter values in lower case. -/
def plainValue (value : String) : String :=
  let v := (Text.trim value).map Char.toLower
  if v ∈ ["1", "y", "yes", "true", "on"] then "Y"
  else if v ∈ ["0", "n", "no", "false", "off"] then "N"
  else v

/-- Whether a parameter that reads as `actual` carries the requested value. -/
def valuesAgree (requested actual : String) : Bool := plainValue requested == plainValue actual

/-- Agreement of values does not depend on which of them was requested. -/
theorem valuesAgree_comm (a b : String) : valuesAgree a b = valuesAgree b a := by
  simp only [valuesAgree, Bool.beq_comm]

end KernelModule

/-- The parameters of a module, by name. -/
abbrev Parameters := SortedMap String String

/-- What is known of one module. -/
structure ModuleState where
  /-- The normalized name. -/
  name : String
  loaded : Bool
  /-- The parameters that can be read, of a loaded module. -/
  parameters : Parameters
  deriving DecidableEq, Inhabited

/-- The state of a module that is not loaded. -/
def ModuleState.absent (name : String) : ModuleState :=
  ⟨KernelModule.normalize name, false, ∅⟩

/-- A module that is to be loaded, with the parameters it is to carry. -/
structure ModuleRequest where
  /-- The name as it is passed to the loader. -/
  name : String
  parameters : Parameters := ∅
  deriving DecidableEq, Inhabited

namespace ModuleRequest

/-- Whether a module is loaded with every requested parameter. -/
def satisfiedBy (m : ModuleRequest) (state : ModuleState) : Bool :=
  state.loaded && m.parameters.entries.all fun (name, value) =>
    (state.parameters.get? name).any (KernelModule.valuesAgree value)

/-- A request is satisfied by a module that is loaded and reads the requested values. -/
theorem satisfiedBy_iff {m : ModuleRequest} {state : ModuleState} :
    m.satisfiedBy state = true ↔ state.loaded = true ∧ ∀ p ∈ m.parameters.entries,
      ∃ actual ∈ state.parameters.get? p.1, KernelModule.valuesAgree p.2 actual = true := by
  simp [satisfiedBy, Option.any_eq_true]

/-- The parameters as the loader takes them. -/
def arguments (m : ModuleRequest) : List String :=
  m.parameters.entries.map fun (name, value) => name ++ "=" ++ value

/-- The request as text: the name and the parameters. -/
protected def toString (m : ModuleRequest) : String :=
  String.intercalate " " (m.name :: m.arguments)

instance : ToString ModuleRequest := ⟨ModuleRequest.toString⟩

end ModuleRequest

namespace KernelModule

/-- The module that lets user space drive devices. -/
def vfio : String := "vfio"

/-- The parameter of `vfio` that allows it without an IOMMU. -/
def noIommuParameter : String := "enable_unsafe_noiommu_mode"

/-- The modules that a driver needs, in the order in which they are loaded. -/
def requiredFor (driver : String) (noIommu : Bool) : List ModuleRequest :=
  if normalize driver = "vfio_pci" then
    [⟨vfio, if noIommu then SortedMap.ofList [(noIommuParameter, "1")] else ∅⟩, ⟨driver, ∅⟩]
  else if normalize driver ∈ ["uio_pci_generic", "igb_uio"] then [⟨"uio", ∅⟩, ⟨driver, ∅⟩]
  else [⟨driver, ∅⟩]

end KernelModule

end Provision
