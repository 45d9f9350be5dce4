import Provision.Engine.Goal
import Provision.Simulation.Host

/-!
# Topologies

Simulated hosts to start from: a machine with a display controller and two
Ethernet controllers, the first of which serves the management of the host, and
the same machine with a third one.  The usual goal there is to hand a controller
to `vfio-pci`.

Main results:

- `Topology.reserved_le_capacity`: its pool holds no more than it may.
-/

namespace Provision.Topology

/-- The controller that serves the management of the host. -/
def managementNic : PciAddress := ⟨0, 2, 1, 0⟩

/-- The controller that is usually handed over. -/
def dataNic : PciAddress := ⟨0, 2, 2, 0⟩

/-- The third controller, where there is one. -/
def secondDataNic : PciAddress := ⟨0, 2, 3, 0⟩

/-- The display controller, which is no candidate. -/
def display : PciAddress := ⟨0, 0, 0x0f, 0⟩

/-- The pool of 2 MB pages of the whole machine. -/
def largePages : Pool := ⟨2048, none⟩

/-- A display controller and two Ethernet controllers, with the modules of the passthrough
drivers available and an empty pool of large pages. -/
def twoNics : SimHost where
  devices :=
    [⟨display, "0300", "15ad", "0405", some "vmwgfx"⟩,
      ⟨managementNic, "0200", "8086", "100f", some "e1000"⟩,
      ⟨dataNic, "0200", "8086", "100f", some "e1000"⟩]
  available := SortedSet.ofList ["vfio", "vfio_pci", "uio", "uio_pci_generic"]
  pools := SortedMap.ofList [(largePages, ⟨0, 4096⟩)]

/-- The same machine with a third controller. -/
def threeNics : SimHost := twoNics.addNic secondDataNic (some "e1000")

/-- The goal that hands devices to `vfio-pci`, with 64 large pages for them. -/
def handOver (devices : List PciAddress) : SetupGoal :=
  SetupGoal.forDriver devices "vfio-pci" ⟨2048, none, 64, none, ⟨"/mnt/huge"⟩⟩ false

/-- Its pool holds no more than it may. -/
theorem reserved_le_capacity :
    ∀ p ∈ twoNics.pools.values, p.reserved ≤ p.capacity := by
  decide

end Provision.Topology
