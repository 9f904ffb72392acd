import CableMap.Address.Ipv4
import CableMap.Address.Mac

/-!
# Devices, ports and links

What a network is made of: devices under their management addresses, the ports of each device
under their MAC addresses, and links that join two ports by one cable.
-/
namespace CableMap

/-- The number that stands for a value nobody reported. -/
def unreported : Int := -1

/-- A device of the network. -/
structure Device where
  /-- The row of the store, once the device is stored. -/
  id? : Option Int
  /-- The address under which it is managed. -/
  address : Ipv4
  /-- The capabilities that it supports, as bits. -/
  supported : Int
  /-- The capabilities that are enabled on it, as bits. -/
  enabled : Int
  /-- Its name. -/
  name : String
  deriving DecidableEq

/-- A device of which only the address is known. -/
def Device.ofAddress (address : Ipv4) : Device :=
  ⟨none, address, unreported, unreported, "Unknown"⟩

instance : ToString Device := ⟨fun device => s!"{device.name} ({device.address})"⟩

/-- A port of a device. -/
structure Port where
  /-- The row of the store, once the port is stored. -/
  id? : Option Int
  /-- The row of its device, if it is known to belong to one. -/
  device? : Option Int
  /-- The number of the interface on its device. -/
  interface : Int
  /-- Its MAC address, if it has one. -/
  mac? : Option Mac
  /-- The most bits a second that it carries. -/
  maxSpeed : UInt32
  /-- Its operating status. -/
  status : Int
  /-- Its name. -/
  name : String
  deriving DecidableEq

/-- A port of which only the interface is known. -/
def Port.ofInterface (interface : Int) : Port :=
  ⟨none, none, interface, none, 0, unreported, ""⟩

/-- A cable between two ports. -/
structure Link where
  /-- The row of the store, once the link is stored. -/
  id? : Option Int
  /-- The row of the port at one end. -/
  a : Int
  /-- The row of the port at the other end. -/
  b : Int
  /-- The kind of cable; nothing reports one, so it stays zero. -/
  kind : Int
  /-- The most bits a second that both ends carry. -/
  speed : UInt32
  /-- The length of the cable; nothing reports one, so it stays zero. -/
  length : UInt32
  deriving DecidableEq

/-- A cable of which only the ends and the speed are known. -/
def Link.between (a b : Int) (speed : UInt32) : Link := ⟨none, a, b, 0, speed, 0⟩

/-- The end of a link that is not a given port. -/
def Link.peerOf (link : Link) (port : Int) : Int := if link.a = port then link.b else link.a

end CableMap
