import Provision.Error
import Provision.Hugepages
import Provision.KernelModule
import Provision.Pci.Device
import Provision.Program

/-!
# Host resources

All reading and changing of a host goes through a small number of calls, each of
which succeeds or fails as a whole.  Nothing ties several calls together: their
order, and undoing them, is the business of whoever makes them.

| resource       | read                                | change                          |
|----------------|-------------------------------------|---------------------------------|
| mount          | `isMounted`                         | `mount`, `unmount`              |
| page pool      | `pageCount`                         | `setPageCount`                  |
| module         | `moduleState`                       | `loadModule`, `unloadModule`    |
| binding        | `boundDriver`                       | `unbind`, `bind`                |
| devices        | `listDevices`                       |                                 |
| device records | `homeDriver`, `recordedDevices` | `setHome`, `clearHome`  |

Main results:

- `StoreCall.isSome_done?`: the changing calls are those that can succeed
  without saying anything.
-/

namespace Provision

/-- A call that reads or changes a resource of the host. -/
inductive StoreCall
  | isMounted (path : HostPath)
  | mount (path : HostPath) (pageKb : Nat)
  | unmount (path : HostPath)
  | pageCount (pool : Pool)
  /-- Asks for a number of pages; fewer may be granted. -/
  | setPageCount (pool : Pool) (count : Nat)
  | moduleState (name : String)
  | loadModule (request : ModuleRequest)
  | unloadModule (name : String)
  | boundDriver (address : PciAddress)
  | unbind (address : PciAddress) (driver : String)
  | bind (address : PciAddress) (driver : String)
  /-- The devices that match a filter, in the order of the host. -/
  | listDevices (filter : DeviceFilter)
  /-- The durable record of the home driver of a device. -/
  | homeDriver (address : PciAddress)
  | setHome (address : PciAddress) (driver : String)
  | clearHome (address : PciAddress)
  | recordedDevices
  deriving DecidableEq, Inhabited

namespace StoreCall

/-- What a call answers when it succeeds. -/
abbrev Value : StoreCall → Type
  | .isMounted _ => Bool
  | .pageCount _ => Nat
  | .moduleState _ => ModuleState
  | .boundDriver _ | .homeDriver _ => Option String
  | .listDevices _ => List Descriptor
  | .recordedDevices => SortedMap PciAddress String
  | .mount _ _ | .unmount _ | .setPageCount _ _ | .loadModule _ | .unloadModule _ | .unbind _ _
  | .bind _ _ | .setHome _ _ | .clearHome _ => Unit

/-- The reply to a call. -/
abbrev Reply (c : StoreCall) : Type := Except Error c.Value

/-- Whether a call changes the host. -/
def writes : StoreCall → Bool
  | .mount _ _ | .unmount _ | .setPageCount _ _ | .loadModule _ | .unloadModule _ | .unbind _ _
  | .bind _ _ | .setHome _ _ | .clearHome _ => true
  | .isMounted _ | .pageCount _ | .moduleState _ | .boundDriver _ | .listDevices _
  | .homeDriver _ | .recordedDevices => false

/-- The reply of a changing call that succeeded. -/
def done? : (c : StoreCall) → Option c.Reply
  | .mount _ _ | .unmount _ | .setPageCount _ _ | .loadModule _ | .unloadModule _ | .unbind _ _
  | .bind _ _ | .setHome _ _ | .clearHome _ => some (.ok ())
  | .isMounted _ | .pageCount _ | .moduleState _ | .boundDriver _ | .listDevices _
  | .homeDriver _ | .recordedDevices => none

/-- The changing calls are those that can succeed without saying anything. -/
theorem isSome_done? (c : StoreCall) : c.done?.isSome = c.writes := by
  cases c <;> rfl

end StoreCall

end Provision
