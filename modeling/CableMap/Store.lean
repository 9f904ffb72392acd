import CableMap.Store.Cells
import CableMap.Trace

/-!
# The store

The store holds the network in three tables. Any of them may be missing; a question about a
missing table is refused. Questions leave the store as it is; of several rows that answer one,
the row with the lowest number does.
-/
namespace CableMap

/-- The stored network. -/
structure Store where
  /-- The table of devices, unless it is missing. -/
  devices? : Option (Store.Table Store.DeviceCells)
  /-- The table of ports, unless it is missing. -/
  ports? : Option (Store.Table Store.PortCells)
  /-- The table of links, unless it is missing. -/
  links? : Option (Store.Table Store.LinkCells)
  deriving DecidableEq

namespace Store

/-- The store with three tables that never had a row. -/
def empty : Store := ⟨some .empty, some .empty, some .empty⟩

/-- The store with an empty table for each that is missing. -/
def withTables (store : Store) : Store :=
  ⟨some (store.devices?.getD .empty), some (store.ports?.getD .empty),
    some (store.links?.getD .empty)⟩

/-- A table that must not be missing. -/
def present {α : Type} (name : String) (table? : Option (Table α)) :
    Except Failure (Table α) :=
  match table? with
  | some table => .ok table
  | none => .error (.store (.noTable name))

/-- The table of devices. -/
def deviceTable (store : Store) : Except Failure (Table DeviceCells) :=
  present "Devices" store.devices?

/-- The table of ports. -/
def portTable (store : Store) : Except Failure (Table PortCells) := present "Ports" store.ports?

/-- The table of links. -/
def linkTable (store : Store) : Except Failure (Table LinkCells) := present "Links" store.links?

/-- The row is that of the device at an address. -/
def isDeviceAt (address : Ipv4) (row : Row DeviceCells) : Bool :=
  row.cells.address = some (addressKey address)

/-- The row is that of the port with a MAC address. -/
def isPortWith (mac : Mac) (row : Row PortCells) : Bool := row.cells.mac = some (toString mac)

/-- The row is that of a port of a device. -/
def isPortOf (device : Int) (row : Row PortCells) : Bool := row.cells.device = some device

/-- Read a row, if there is one. -/
def readRow {α β : Type} (read : Row α → Except StoreCause β) (row? : Option (Row α)) :
    Except Failure (Option β) :=
  match row? with
  | none => .ok none
  | some row => ((read row).map some).mapError .store

/-- Read rows in order, up to the first that cannot be read. -/
def readRows {α β : Type} (read : Row α → Except StoreCause β) (rows : List (Row α)) :
    Except Failure (List β) := (rows.mapM read).mapError .store

/-- The row of the device at an address. -/
def deviceId? (store : Store) (address : Ipv4) : Except Failure (Option Int) := do
  pure (((← store.deviceTable).find? (isDeviceAt address)).map (·.id))

/-- The device at an address. -/
def device? (store : Store) (address : Ipv4) : Except Failure (Option Device) := do
  readRow DeviceCells.read ((← store.deviceTable).find? (isDeviceAt address))

/-- The row of the port with a MAC address. -/
def portId? (store : Store) (mac : Mac) : Except Failure (Option Int) := do
  pure (((← store.portTable).find? (isPortWith mac)).map (·.id))

/-- The port with a MAC address. -/
def port? (store : Store) (mac : Mac) : Except Failure (Option Port) := do
  readRow PortCells.read ((← store.portTable).find? (isPortWith mac))

/-- The ports of a device. -/
def portsOf (store : Store) (device : Int) : Except Failure (List Port) := do
  readRows PortCells.read ((← store.portTable).rows.filter (isPortOf device))

/-- The row of the link between two ports. -/
def linkId? (store : Store) (a b : Int) : Except Failure (Option Int) := do
  pure (((← store.linkTable).find? (LinkCells.joins a b)).map (·.id))

/-- The link at a port. -/
def linkAt? (store : Store) (port : Int) : Except Failure (Option Link) := do
  readRow LinkCells.read ((← store.linkTable).find? (LinkCells.touches port))

/-- All devices. -/
def devices (store : Store) : Except Failure (List Device) := do
  readRows DeviceCells.read (← store.deviceTable).rows

/-- All ports. -/
def ports (store : Store) : Except Failure (List Port) := do
  readRows PortCells.read (← store.portTable).rows

/-- All links. -/
def links (store : Store) : Except Failure (List Link) := do
  readRows LinkCells.read (← store.linkTable).rows

end Store

end CableMap
