import CableMap.Proofs.Address.Ipv4
import CableMap.Proofs.Address.Mac
import CableMap.Proofs.Store.Table
import CableMap.Proofs.Store.Result
import Mathlib.Data.Sym.Sym2

/-!
# Three sound tables

A store of which no table is missing is its three tables. They are sound when devices are keyed by
address, ports by MAC address and links by the two ports that they join, when every row was
written by the program, and when every row referred to is there. On sound tables each transaction
that stores or removes comes to a plain function of the tables, which keeps them sound; a
transaction that would leave a reference to a missing row behind is refused and changes nothing.
-/
namespace CableMap.Store

/-- The ends of a link, whichever is which. -/
def LinkCells.ends (cells : LinkCells) : Sym2 (Option Int) := s(cells.a, cells.b)

/-- A link joins two ports exactly if they are its ends. -/
theorem LinkCells.joins_eq (a b : Int) :
    LinkCells.joins a b = fun row => decide (row.cells.ends = s(some a, some b)) := by
  funext row
  rw [Bool.eq_iff_iff, decide_eq_true_eq, LinkCells.ends, Sym2.eq_iff]
  simp [LinkCells.joins]

/-- A link has an end at a port exactly if the port is one of its ends. -/
theorem LinkCells.touches_iff {port : Int} {row : Row LinkCells} :
    LinkCells.touches port row ↔ some port ∈ row.cells.ends := by
  simp only [LinkCells.touches, Bool.or_eq_true, decide_eq_true_eq, LinkCells.ends, Sym2.mem_iff,
    @eq_comm _ (some port)]

/-- The three tables of a store of which none is missing. -/
structure Tables where
  /-- The table of devices. -/
  devices : Table DeviceCells
  /-- The table of ports. -/
  ports : Table PortCells
  /-- The table of links. -/
  links : Table LinkCells

namespace Tables

/-- The store of three tables. -/
def store (tables : Tables) : Store := ⟨some tables.devices, some tables.ports, some tables.links⟩

/-- The row of the device at an address. -/
def deviceRow? (tables : Tables) (address : Ipv4) : Option (Row DeviceCells) :=
  tables.devices.rowAt? (·.address) (some (addressKey address))

/-- The row of the port with a MAC address. -/
def portRow? (tables : Tables) (mac : Mac) : Option (Row PortCells) :=
  tables.ports.rowAt? (·.mac) (some (toString mac))

/-- The row of the link between two ports. -/
def linkRow? (tables : Tables) (a b : Int) : Option (Row LinkCells) :=
  tables.links.rowAt? LinkCells.ends s(some a, some b)

/-- The rows of three tables fit together. -/
structure Sound (tables : Tables) : Prop where
  /-- An address stands for at most one device. -/
  devices : tables.devices.Keyed (·.address)
  /-- A MAC address stands for at most one port. -/
  ports : tables.ports.Keyed (·.mac)
  /-- Two ports are joined by at most one link. -/
  links : tables.links.Keyed LinkCells.ends
  /-- Every device row was written for a device. -/
  deviceCells : ∀ row ∈ tables.devices.rows, ∃ device, row.cells = .ofDevice device
  /-- Every port row was written for a port with a MAC address. -/
  portCells : ∀ row ∈ tables.ports.rows, ∃ port mac, row.cells = .ofPort port mac
  /-- Every link row was written for a link. -/
  linkCells : ∀ row ∈ tables.links.rows, ∃ link, row.cells = .ofLink link
  /-- A port that belongs to a device belongs to a stored one. -/
  owned : ∀ row ∈ tables.ports.rows, ∀ id, row.cells.device = some id → tables.devices.has id
  /-- A link ends at stored ports. -/
  plugged : ∀ row ∈ tables.links.rows, ∀ id, some id ∈ row.cells.ends → tables.ports.has id

/-- Three tables that never had a row are sound. -/
theorem Sound.empty : (⟨.empty, .empty, .empty⟩ : Tables).Sound where
  devices := .empty
  ports := .empty
  links := .empty
  deviceCells := by simp [Table.empty]
  portCells := by simp [Table.empty]
  linkCells := by simp [Table.empty]
  owned := by simp [Table.empty]
  plugged := by simp [Table.empty]

/-! ## What is stored and removed -/

/-- The tables with a device stored under its address. -/
def saveDevice (tables : Tables) (device : Device) : Tables :=
  { tables with devices := tables.devices.put (·.address) (.ofDevice device) }

/-- The tables with a port stored under a MAC address. -/
def savePort (tables : Tables) (port : Port) (mac : Mac) : Tables :=
  { tables with ports := tables.ports.put (·.mac) (.ofPort port mac) }

/-- The tables with a link stored between its ports. A link that was there keeps its ends as they
are. -/
def saveLink (tables : Tables) (link : Link) : Tables :=
  let cells := LinkCells.ofLink link
  { tables with
    links := tables.links.save LinkCells.ends cells.ends
      (fun old => { old with kind := cells.kind, speed := cells.speed, length := cells.length })
      cells }

/-- The tables without some links. -/
def deleteLinks (tables : Tables) (chosen : Row LinkCells → Bool) : Tables :=
  { tables with links := tables.links.delete chosen }

/-- The tables without some ports and the links that have an end at one of them. -/
def deletePorts (tables : Tables) (chosen : Row PortCells → Bool) : Tables :=
  { tables with
    ports := tables.ports.delete chosen
    links := tables.links.delete fun link =>
      (tables.ports.rows.filter chosen).any fun port => LinkCells.touches port.id link }

/-- The tables without the device of a row, its ports and their links. -/
def deleteDevice (tables : Tables) (id : Int) : Tables :=
  { tables.deletePorts (isPortOf id) with devices := tables.devices.delete (·.id = id) }

/-! ## Soundness is kept -/

variable {tables : Tables}

/-- A device that is stored is found at its address. -/
theorem deviceRow?_saveDevice_self (tables : Tables) (device : Device) :
    ∃ row, (tables.saveDevice device).deviceRow? device.address = some row ∧
      row.cells = .ofDevice device :=
  Table.rowAt?_put_self DeviceCells.address tables.devices (.ofDevice device)

/-- A port that is stored is found under its MAC address. -/
theorem portRow?_savePort_self (tables : Tables) (port : Port) (mac : Mac) :
    ∃ row, (tables.savePort port mac).portRow? mac = some row ∧ row.cells = .ofPort port mac :=
  Table.rowAt?_put_self PortCells.mac tables.ports (.ofPort port mac)

/-- Storing cells of a table that all rows of it are written as leaves all its rows so written. -/
theorem written_save {α κ : Type} [DecidableEq κ] {key : α → κ} {table : Table α}
    {P : α → Prop} {k : κ} {change : α → α} {cells : α}
    (rows : ∀ row ∈ table.rows, P row.cells)
    (changed : ∀ old, P old → key old = k → P (change old)) (new : P cells) :
    ∀ row ∈ (table.save key k change cells).rows, P row.cells := by
  intro row inside
  unfold Table.save at inside
  split at inside
  · obtain ⟨old, stored, rfl⟩ := List.mem_map.1 inside
    by_cases chosen : key old.cells = k
    · simpa [chosen] using changed old.cells (rows old stored) chosen
    · simpa [chosen] using rows old stored
  · rcases List.mem_append.1 inside with old | last
    · exact rows row old
    · rw [List.mem_singleton.1 last]
      exact new

/-- A stored device keeps the tables sound. -/
theorem Sound.saveDevice (sound : tables.Sound) (device : Device) :
    (tables.saveDevice device).Sound :=
  { sound with
    devices := sound.devices.put _
    deviceCells := written_save (P := fun cells : DeviceCells => ∃ device, cells = .ofDevice device)
      sound.deviceCells (fun _ _ _ => ⟨device, rfl⟩) ⟨device, rfl⟩
    owned := fun row inside id belongs => Table.has_save (sound.owned row inside id belongs) }

/-- A stored port keeps the tables sound if the device that it belongs to is stored. -/
theorem Sound.savePort (sound : tables.Sound) {port : Port} (mac : Mac)
    (stored : deviceIsStored tables.devices port) : (tables.savePort port mac).Sound := by
  refine { sound with ports := sound.ports.put _, portCells := ?_, owned := ?_, plugged := ?_ }
  · exact written_save (P := fun cells : PortCells => ∃ port mac, cells = .ofPort port mac)
      sound.portCells (fun _ _ _ => ⟨port, mac, rfl⟩) ⟨port, mac, rfl⟩
  · have own : ∀ id, (PortCells.ofPort port mac).device = some id → tables.devices.has id := by
      intro id belongs
      have device : port.device? = some id := belongs
      simpa [deviceIsStored, device] using stored
    exact written_save (P := fun cells : PortCells => ∀ id, cells.device = some id →
      tables.devices.has id) sound.owned (fun _ _ _ => own) own
  · exact fun row inside id ends => Table.has_save (sound.plugged row inside id ends)

/-- A stored link keeps the tables sound if its ports are stored. -/
theorem Sound.saveLink (sound : tables.Sound) {link : Link} (a : tables.ports.has link.a)
    (b : tables.ports.has link.b) : (tables.saveLink link).Sound := by
  refine { sound with links := ?_, linkCells := ?_, plugged := ?_ }
  · exact sound.links.save (fun old own => own) rfl
  · refine written_save (P := fun cells : LinkCells => ∃ link, cells = .ofLink link)
      sound.linkCells ?_ ⟨link, rfl⟩
    rintro old ⟨oldLink, rfl⟩ _
    exact ⟨{ oldLink with kind := link.kind, speed := link.speed, length := link.length }, rfl⟩
  · refine written_save (P := fun cells : LinkCells => ∀ id, some id ∈ cells.ends →
      tables.ports.has id) sound.plugged (fun old plugged _ => plugged) ?_
    intro id ends
    rcases Sym2.mem_iff.1 ends with atA | atB
    · rwa [Option.some.inj atA]
    · rwa [Option.some.inj atB]

/-- A link row that storing a link leaves has the number and the ends of an old one, or was
added. -/
theorem mem_saveLink {link : Link} {row : Row LinkCells}
    (inside : row ∈ (tables.saveLink link).links.rows) :
    (∃ old ∈ tables.links.rows, old.id = row.id ∧ old.cells.ends = row.cells.ends) ∨
      row = ⟨tables.links.nextId, .ofLink link⟩ := by
  refine Table.mem_save ?_ inside
  exact fun _ own => own

/-- Removing links keeps the tables sound. -/
theorem Sound.deleteLinks (sound : tables.Sound) (chosen : Row LinkCells → Bool) :
    (tables.deleteLinks chosen).Sound :=
  { sound with
    links := sound.links.delete chosen
    linkCells := fun row inside => sound.linkCells row (List.mem_filter.1 inside).1
    plugged := fun row inside => sound.plugged row (List.mem_filter.1 inside).1 }

/-- Removing ports with the links that they have keeps the tables sound. -/
theorem Sound.deletePorts (sound : tables.Sound) (chosen : Row PortCells → Bool) :
    (tables.deletePorts chosen).Sound := by
  refine { sound with
    ports := sound.ports.delete chosen
    links := sound.links.delete _
    portCells := fun row inside => sound.portCells row (List.mem_filter.1 inside).1
    linkCells := fun row inside => sound.linkCells row (List.mem_filter.1 inside).1
    owned := fun row inside => sound.owned row (List.mem_filter.1 inside).1
    plugged := ?_ }
  intro link inside id ends
  obtain ⟨stored, kept⟩ := List.mem_filter.1 inside
  obtain ⟨port, portStored, rfl⟩ := Table.has_iff.1 (sound.plugged link stored id ends)
  refine Table.has_iff.2 ⟨port, List.mem_filter.2 ⟨portStored, ?_⟩, rfl⟩
  -- A port that goes takes this link with it.
  by_contra gone
  have touched : (tables.ports.rows.filter chosen).any (fun port =>
      LinkCells.touches port.id link) = true :=
    List.any_eq_true.2 ⟨port, List.mem_filter.2 ⟨portStored, by simpa using gone⟩,
      LinkCells.touches_iff.2 ends⟩
  simp [touched] at kept

/-- Removing a device with its ports and their links keeps the tables sound. -/
theorem Sound.deleteDevice (sound : tables.Sound) (id : Int) : (tables.deleteDevice id).Sound := by
  have without := sound.deletePorts (isPortOf id)
  refine { without with
    devices := sound.devices.delete _
    deviceCells := fun row inside => sound.deviceCells row (List.mem_filter.1 inside).1
    owned := ?_ }
  intro port inside owner belongs
  obtain ⟨stored, kept⟩ := List.mem_filter.1 inside
  obtain ⟨device, deviceStored, rfl⟩ := Table.has_iff.1 (sound.owned port stored owner belongs)
  refine Table.has_iff.2 ⟨device, List.mem_filter.2 ⟨deviceStored, ?_⟩, rfl⟩
  simpa [isPortOf, belongs] using kept

end Tables

/-! ## Reading what was written -/

/-- A number that fits 32 bits is read. -/
theorem needed32_of_fits (index : Nat) (column : String) {value : Int}
    (fits : 0 ≤ value ∧ value < 0x100000000) :
    needed32 index column (some value) = .ok (.ofNat value.toNat) := by
  simp only [needed32, needed, bind, Except.bind]
  rw [if_pos fits]

/-- A number of 32 bits that was written is read back. -/
theorem needed32_toNat (index : Nat) (column : String) (value : UInt32) :
    needed32 index column (some value.toNat) = .ok value := by
  have bound := value.toNat_lt
  rw [needed32_of_fits index column (by omega), Int.toNat_natCast, UInt32.ofNat_toNat]

/-- An address that was written is read back. -/
theorem neededAddress_addressKey (index : Nat) (column : String) (address : Ipv4) :
    neededAddress index column (some (addressKey address)) = .ok address := by
  have bound := address.toNat_lt
  have low : ¬ addressKey address < 0 := by
    unfold addressKey
    omega
  have high : ¬ 0x100000000 ≤ addressKey address := by
    unfold addressKey
    omega
  simp only [neededAddress, needed, bind, Except.bind]
  rw [if_neg low, if_neg high, addressKey, Int.toNat_natCast, Ipv4.ofNat_toNat]

/-- A device that was written is read back with the number of its row. -/
theorem DeviceCells.read_ofDevice (id : Int) (device : Device) :
    DeviceCells.read ⟨id, .ofDevice device⟩ = .ok { device with id? := some id } := by
  simp only [DeviceCells.read, DeviceCells.ofDevice, neededAddress_addressKey, needed]
  rfl

/-- A port that was written is read back with the number of its row. -/
theorem PortCells.read_ofPort (id : Int) (port : Port) (mac : Mac) :
    PortCells.read ⟨id, .ofPort port mac⟩ = .ok { port with id? := some id, mac? := some mac } := by
  have text : macIn 3 (some (toString mac)) = .ok (some mac) := by
    rw [macIn, Mac.ofString_toString]
  simp only [PortCells.read, PortCells.ofPort, text, needed32_toNat, needed]
  rfl

/-- A link that was written is read back with the number of its row. -/
theorem LinkCells.read_ofLink (id : Int) (link : Link) :
    LinkCells.read ⟨id, .ofLink link⟩ = .ok { link with id? := some id } := by
  simp only [LinkCells.read, LinkCells.ofLink, needed32_toNat, needed]
  rfl

namespace Tables.Sound

variable {tables : Tables}

/-- Every device of sound tables is read with the number of its row. -/
theorem read_device (sound : tables.Sound) {row : Row DeviceCells}
    (inside : row ∈ tables.devices.rows) :
    ∃ device, DeviceCells.read row = .ok device ∧ device.id? = some row.id := by
  obtain ⟨device, cells⟩ := sound.deviceCells row inside
  have read := DeviceCells.read_ofDevice row.id device
  rw [← cells] at read
  exact ⟨_, read, rfl⟩

/-- Every port of sound tables is read with the number of its row. -/
theorem read_port (sound : tables.Sound) {row : Row PortCells}
    (inside : row ∈ tables.ports.rows) :
    ∃ port, PortCells.read row = .ok port ∧ port.id? = some row.id := by
  obtain ⟨port, mac, cells⟩ := sound.portCells row inside
  have read := PortCells.read_ofPort row.id port mac
  rw [← cells] at read
  exact ⟨_, read, rfl⟩

/-- Every link of sound tables is read with the number of its row. -/
theorem read_link (sound : tables.Sound) {row : Row LinkCells}
    (inside : row ∈ tables.links.rows) :
    ∃ link, LinkCells.read row = .ok link ∧ link.id? = some row.id := by
  obtain ⟨link, cells⟩ := sound.linkCells row inside
  have read := LinkCells.read_ofLink row.id link
  rw [← cells] at read
  exact ⟨_, read, rfl⟩

end Tables.Sound

end CableMap.Store
