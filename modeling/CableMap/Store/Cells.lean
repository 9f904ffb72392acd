import CableMap.Failure
import CableMap.Store.Table
import CableMap.Topology

/-!
# Rows as devices, ports and links

The columns of each table, what is written to them, and how a row is read back. Every column may
be empty, and a column of numbers may hold any integer of 64 bits: others may write to a database
too. A row that holds no device, port or link is refused with the first column that is wrong.
-/
namespace CableMap.Store

/-- The value of a column that must not be empty. -/
def needed {α : Type} (index : Nat) (column : String) : Option α → Except StoreCause α
  | some value => .ok value
  | none => .error (.nullColumn index column)

/-- The number of 32 bits in a column. -/
def needed32 (index : Nat) (column : String) (cell : Option Int) : Except StoreCause UInt32 := do
  let value ← needed index column cell
  if 0 ≤ value ∧ value < 0x100000000 then .ok (.ofNat value.toNat)
  else .error (.outOfRange index value)

/-- The address in a column. -/
def neededAddress (index : Nat) (column : String) (cell : Option Int) :
    Except StoreCause Ipv4 := do
  let value ← needed index column cell
  if value < 0 then .error (.notAnAddress index false)
  else if 0x100000000 ≤ value then .error (.notAnAddress index true)
  else .ok (.ofNat value.toNat)

/-- The columns of a device. -/
structure DeviceCells where
  /-- The management address as a number. -/
  address : Option Int
  /-- The capabilities supported. -/
  supported : Option Int
  /-- The capabilities enabled. -/
  enabled : Option Int
  /-- The name. -/
  name : Option String
  deriving DecidableEq

/-- The number under which an address is stored. -/
def addressKey (address : Ipv4) : Int := address.toNat

/-- What is written for a device. -/
def DeviceCells.ofDevice (device : Device) : DeviceCells :=
  ⟨some (addressKey device.address), some device.supported, some device.enabled,
    some device.name⟩

/-- The device of a row. -/
def DeviceCells.read (row : Row DeviceCells) : Except StoreCause Device := do
  let address ← neededAddress 1 "ManagementAddress" row.cells.address
  let supported ← needed 2 "CapabilitiesSupported" row.cells.supported
  let enabled ← needed 3 "CapabilitiesEnabled" row.cells.enabled
  let name ← needed 4 "SystemName" row.cells.name
  pure ⟨some row.id, address, supported, enabled, name⟩

/-- The columns of a port. -/
structure PortCells where
  /-- The row of the device. -/
  device : Option Int
  /-- The number of the interface. -/
  interface : Option Int
  /-- The MAC address as text. -/
  mac : Option String
  /-- The most bits a second. -/
  maxSpeed : Option Int
  /-- The operating status. -/
  status : Option Int
  /-- The name. -/
  name : Option String
  deriving DecidableEq

/-- What is written for a port with a MAC address. -/
def PortCells.ofPort (port : Port) (mac : Mac) : PortCells :=
  ⟨port.device?, some port.interface, some (toString mac), some port.maxSpeed.toNat,
    some port.status, some port.name⟩

/-- The MAC address in a column, which may be empty. -/
def macIn (index : Nat) : Option String → Except StoreCause (Option Mac)
  | none => .ok none
  | some text =>
    match Mac.ofString text with
    | .ok mac => .ok (some mac)
    | .error error => .error (.notAMac index error)

/-- The port of a row. The MAC address is read before the other columns. -/
def PortCells.read (row : Row PortCells) : Except StoreCause Port := do
  let mac? ← macIn 3 row.cells.mac
  let interface ← needed 2 "InterfaceId" row.cells.interface
  let maxSpeed ← needed32 4 "MaxSpeed" row.cells.maxSpeed
  let status ← needed 5 "OperatingStatus" row.cells.status
  let name ← needed 6 "Name" row.cells.name
  pure ⟨some row.id, row.cells.device, interface, mac?, maxSpeed, status, name⟩

/-- The columns of a link. -/
structure LinkCells where
  /-- The row of the port at one end. -/
  a : Option Int
  /-- The row of the port at the other end. -/
  b : Option Int
  /-- The kind of cable. -/
  kind : Option Int
  /-- The most bits a second. -/
  speed : Option Int
  /-- The length of the cable. -/
  length : Option Int
  deriving DecidableEq

/-- What is written for a link. -/
def LinkCells.ofLink (link : Link) : LinkCells :=
  ⟨some link.a, some link.b, some link.kind, some link.speed.toNat, some link.length.toNat⟩

/-- The link of a row. -/
def LinkCells.read (row : Row LinkCells) : Except StoreCause Link := do
  let a ← needed 1 "PortAId" row.cells.a
  let b ← needed 2 "PortBId" row.cells.b
  let kind ← needed 3 "LinkType" row.cells.kind
  let speed ← needed32 4 "Speed" row.cells.speed
  let length ← needed32 5 "Length" row.cells.length
  pure ⟨some row.id, a, b, kind, speed, length⟩

namespace LinkCells

/-- The link joins two ports, whichever end is which. -/
def joins (a b : Int) (row : Row LinkCells) : Bool :=
  row.cells.a = some a && row.cells.b = some b || row.cells.a = some b && row.cells.b = some a

/-- The link has an end at a port. -/
def touches (port : Int) (row : Row LinkCells) : Bool :=
  row.cells.a = some port || row.cells.b = some port

/-- The end is at a port, and not at this one. -/
def isOther (port : Int) (cell : Option Int) : Bool := cell.any (· ≠ port)

/-- The link has one end at a port and the other at a port that is not its peer. -/
def touchesBeside (port peer : Int) (row : Row LinkCells) : Bool :=
  row.cells.a = some port && isOther peer row.cells.b ||
    row.cells.b = some port && isOther peer row.cells.a

end LinkCells

end CableMap.Store
