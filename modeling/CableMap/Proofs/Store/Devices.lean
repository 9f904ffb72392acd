import CableMap.Proofs.Address.Ipv4
import CableMap.Proofs.Store.Freshness
import CableMap.Proofs.Store.Sweep

/-!
# What an observation makes of devices and ports

An observation stores its device under its address and leaves every other device. Where the same
device is stored already, the table of devices stays as it is. Ports are stored only under the MAC
addresses that were observed.
-/
namespace CableMap.Store

/-- What holds of all rows of a table and of some cells holds of all rows after these were put. -/
theorem written_putAll {α κ : Type} [DecidableEq κ] {key : α → κ} {table : Table α} {P : α → Prop}
    {list : List α} (rows : ∀ row ∈ table.rows, P row.cells) (new : ∀ cells ∈ list, P cells) :
    ∀ row ∈ (table.putAll key list).rows, P row.cells := by
  induction list generalizing table with
  | nil => exact rows
  | cons cells list ih =>
    have own := new cells List.mem_cons_self
    exact ih (Tables.written_save rows (fun _ _ _ => own) own)
      fun other inside => new other (List.mem_cons_of_mem _ inside)

/-- No two addresses are stored as one number. -/
theorem addressKey_inj {left right : Ipv4} :
    some (addressKey left) = some (addressKey right) ↔ left = right := by
  rw [Option.some.injEq, addressKey, addressKey, Int.natCast_inj, Ipv4.toNat_inj]

namespace Tables

variable {tables : Tables} {observation : Observation} {address : Ipv4}

/-! ## Devices -/

/-- An observed device is found at its address. -/
theorem deviceRow?_takeAll_notices_self (tables : Tables) (observation : Observation) :
    ∃ row, (tables.takeAll observation.notices).deviceRow? observation.device.address = some row ∧
      row.cells = .ofDevice observation.device := by
  rw [deviceRow?, devices_takeAll_notices]
  exact deviceRow?_saveDevice_self tables observation.device

/-- An observation leaves the devices at all other addresses. -/
theorem deviceRow?_takeAll_notices_of_ne (apart : address ≠ observation.device.address) :
    (tables.takeAll observation.notices).deviceRow? address = tables.deviceRow? address := by
  rw [deviceRow?, devices_takeAll_notices]
  exact Table.rowAt?_save_of_ne (fun _ _ => rfl) rfl (mt addressKey_inj.mp apart)

/-- An observation of a device that is stored as it is observed leaves the table of devices. -/
theorem Sound.devices_takeAll_of_stored (sound : tables.Sound) {row : Row DeviceCells}
    (inside : row ∈ tables.devices.rows) (same : row.cells = .ofDevice observation.device) :
    (tables.takeAll observation.notices).devices = tables.devices := by
  rw [devices_takeAll_notices]
  show tables.devices.put (·.address) (.ofDevice observation.device) = tables.devices
  rw [← same]
  exact sound.devices.put_of_stored inside

/-! ## Ports -/

/-- A port that an observation reports is stored as it is reported last. -/
theorem exists_portRow?_takeAll_notices (tables : Tables) {observation : Observation}
    {sighting : Sighting} (inside : sighting ∈ observation.sightings) :
    ∃ row, ∃ last ∈ observation.sightings, last.mac = sighting.mac ∧
      (tables.takeAll observation.notices).portRow? sighting.mac = some row ∧
      row.cells = (tables.saveDevice observation.device).portCells last := by
  have among : (tables.saveDevice observation.device).portCells sighting ∈
      observation.sightings.map (tables.saveDevice observation.device).portCells :=
    List.mem_map_of_mem inside
  obtain ⟨cells, written⟩ := Table.exists_lastUnder? PortCells.mac among
  obtain ⟨row, found, holds⟩ := Table.rowAt?_putAll_of_last tables.ports written
  obtain ⟨chosen, own⟩ := Table.mem_of_lastUnder? written
  obtain ⟨last, reported, rfl⟩ := List.mem_map.1 chosen
  refine ⟨row, last, reported, Mac.toString_inj.1 (Option.some.inj own), ?_, holds⟩
  rw [portRow?, ports_takeAll_notices]
  exact found

/-! ## MAC addresses of ports -/

/-- Every port has a MAC address, and not the null address. -/
def Named (tables : Tables) : Prop :=
  ∀ port ∈ tables.ports.rows, ∃ mac : Mac, mac ≠ .null ∧ port.cells.mac = some (toString mac)

/-- An observation of ports of which none has the null address leaves every port with a MAC
address. -/
theorem Named.takeAll_notices (named : tables.Named)
    (observed : ∀ port ∈ observation.ports, port.mac? ≠ some .null) :
    (tables.takeAll observation.notices).Named := by
  unfold Named
  rw [ports_takeAll_notices]
  refine written_putAll (P := fun cells : PortCells => ∃ mac : Mac, mac ≠ .null ∧
    cells.mac = some (toString mac)) named fun cells inside => ?_
  obtain ⟨sighting, sighted, rfl⟩ := List.mem_map.mp inside
  obtain ⟨port, among, mac, known, rfl⟩ := Observation.mem_sightings.mp sighted
  exact ⟨mac, fun null => observed port among (by rw [known, null]), rfl⟩

end Tables

end CableMap.Store
