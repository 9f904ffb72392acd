import CableMap.Topology

/-!
# Observations

All that one host reported at one time: the device itself, its ports, and the neighbours that it
sees at the other end of its cables.
-/
namespace CableMap

/-- A port of another device, seen on one of a host's own interfaces. -/
structure Neighbour where
  /-- The MAC address that the neighbour goes by. -/
  mac : Mac
  /-- The number of the interface on which it is seen. -/
  interface : Int
  deriving DecidableEq

/-- What one host reported. -/
structure Observation where
  /-- The host as a device. -/
  device : Device
  /-- The ports of the host, in the order reported. -/
  ports : List Port
  /-- The neighbours that the host sees, in the order reported. -/
  neighbours : List Neighbour
  deriving DecidableEq

namespace Observation

/-- A host that reported nothing. -/
def ofAddress (address : Ipv4) : Observation := ⟨.ofAddress address, [], []⟩

/-- The first neighbour seen on an interface. -/
def neighbourOn? (observation : Observation) (interface : Int) : Option Neighbour :=
  observation.neighbours.find? fun neighbour => neighbour.interface = interface

end Observation

end CableMap
