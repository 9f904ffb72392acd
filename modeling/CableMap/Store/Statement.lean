import CableMap.Store

/-!
# Statements

A statement changes one table in one go: it is refused and changes nothing, or it is carried out
in full. A port may belong to no device, but not to one that is not stored, and a link joins
stored ports; a statement after which a row would refer to a missing one is refused. A statement
that has to look at the table referred to is refused if that table is missing, whether or not a
row makes it look.
-/
namespace CableMap.Store

/-- A statement: what it answers and the store after it, or why it is refused. -/
abbrev Statement (α : Type) := Store → Except Failure (α × Store)

/-- The table that another table refers to. -/
def referred {α : Type} (name : String) (table? : Option (Table α)) :
    Except Failure (Table α) :=
  present ("main." ++ name) table?

/-- Refuse to leave a reference to a missing row behind. -/
def requireReference (holds : Bool) : Except Failure Unit :=
  if holds then .ok () else .error (.store .foreignKey)

/-- The MAC address of a port that must have one. -/
def macOf (port : Port) : Except Failure Mac :=
  match port.mac? with
  | some mac => .ok mac
  | none => .error (.argument (.portWithoutMac port.interface))

/-- Add a device. -/
def insertDevice (device : Device) : Statement Int := fun store => do
  let table ← store.deviceTable
  pure (table.nextId,
    { store with devices? := some (table.insert (DeviceCells.ofDevice device)) })

/-- Overwrite every device at the address of this one. -/
def updateDevice (device : Device) : Statement Unit := fun store => do
  let table ← store.deviceTable
  let cells := DeviceCells.ofDevice device
  pure ((), { store with
    devices? := some (table.update (isDeviceAt device.address) fun old =>
      { old with supported := cells.supported, enabled := cells.enabled, name := cells.name }) })

/-- Remove the device of a row. -/
def deleteDevice (id : Int) : Statement Unit := fun store => do
  let table ← store.deviceTable
  requireReference ! (store.ports?.any (·.any fun row => isPortOf id row && table.has id))
  pure ((), { store with devices? := some (table.delete (·.id = id)) })

/-- The device that a port belongs to is stored, if the port belongs to one. -/
def deviceIsStored (devices : Table DeviceCells) (port : Port) : Bool :=
  port.device?.all devices.has

/-- Add a port. -/
def insertPort (port : Port) : Statement Int := fun store => do
  let mac ← macOf port
  let table ← store.portTable
  let devices ← referred "Devices" store.devices?
  requireReference (deviceIsStored devices port)
  pure (table.nextId, { store with ports? := some (table.insert (PortCells.ofPort port mac)) })

/-- Overwrite every port with the MAC address of this one. -/
def updatePort (port : Port) : Statement Unit := fun store => do
  let mac ← macOf port
  let table ← store.portTable
  let devices ← referred "Devices" store.devices?
  requireReference (! table.any (isPortWith mac) || deviceIsStored devices port)
  pure ((), { store with
    ports? := some (table.update (isPortWith mac) fun _ => PortCells.ofPort port mac) })

/-- Remove the ports that are chosen. -/
def deletePorts (chosen : Row PortCells → Bool) : Statement Unit := fun store => do
  let table ← store.portTable
  let _ ← referred "Devices" store.devices?
  let gone := table.rows.filter chosen
  requireReference ! (store.links?.any (·.any fun link =>
    gone.any fun row => LinkCells.touches row.id link))
  pure ((), { store with ports? := some (table.delete chosen) })

/-- Add a link. -/
def insertLink (link : Link) : Statement Int := fun store => do
  let table ← store.linkTable
  let ports ← referred "Ports" store.ports?
  requireReference (ports.has link.a && ports.has link.b)
  pure (table.nextId, { store with links? := some (table.insert (LinkCells.ofLink link)) })

/-- Overwrite every link between the ports of this one. Each keeps its ends as they are. -/
def updateLink (link : Link) : Statement Unit := fun store => do
  let table ← store.linkTable
  let cells := LinkCells.ofLink link
  pure ((), { store with
    links? := some (table.update (LinkCells.joins link.a link.b) fun old =>
      { old with kind := cells.kind, speed := cells.speed, length := cells.length }) })

/-- Remove the links that are chosen and count them. -/
def deleteLinks (chosen : Row LinkCells → Bool) : Statement Nat := fun store => do
  let table ← store.linkTable
  let _ ← referred "Ports" store.ports?
  pure (table.count chosen, { store with links? := some (table.delete chosen) })

end CableMap.Store
