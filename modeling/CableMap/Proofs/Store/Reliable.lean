import CableMap.Proofs.Store.Devices

/-!
# Transactions that cannot fail

A store refuses a row that would refer to a missing one, a question about a row that cannot be read,
and a look-up that does not find what was just written. Nothing in a transaction of the program
catches such a failure, so a transaction that succeeds met none on its way. On a store that the
program wrote all of them succeed, whatever they are asked to record or to remove, and every row
that they leave can be read.
-/
namespace CableMap.Store

/-- All rows of a store can be read, and every question about it is answered. -/
structure Readable (store : Store) : Prop where
  /-- The devices are read, each with the number of its row. -/
  devices : ∃ devices, store.devices = .ok devices ∧
    devices.map (·.id?) = store.deviceRows.map fun row => some row.id
  /-- The ports are read, each with the number of its row. -/
  ports : ∃ ports, store.ports = .ok ports ∧
    ports.map (·.id?) = store.portRows.map fun row => some row.id
  /-- The links are read, each with the number of its row. -/
  links : ∃ links, store.links = .ok links ∧
    links.map (·.id?) = store.linkRows.map fun row => some row.id
  /-- It is known whether there is a device at an address, and which. -/
  device : ∀ address, (store.deviceId? address).isOk ∧ (store.device? address).isOk
  /-- It is known whether there is a port with a MAC address, and which. -/
  port : ∀ mac, (store.portId? mac).isOk ∧ (store.port? mac).isOk
  /-- The ports of a device are read. -/
  portsOf : ∀ device, (store.portsOf device).isOk
  /-- It is known whether there is a link between two ports. -/
  linkBetween : ∀ a b, (store.linkId? a b).isOk
  /-- It is known whether there is a link at a port, and which. -/
  linkAt : ∀ port, (store.linkAt? port).isOk

/-- No transaction of the program fails on a store. -/
structure Reliable (store : Store) : Prop where
  /-- The store can be read. -/
  readable : store.Readable
  /-- An observation is recorded. Its device is read back as it was observed, and each of its ports
  with a MAC address is read back as one of that device. -/
  record : ∀ observation log, ∃ done later,
    result (record observation log) store = (.ok done, later) ∧ later.Readable ∧
      later.device? observation.device.address =
        .ok (some { observation.device with id? := some done.device }) ∧
      ∀ port ∈ observation.ports, ∀ mac, port.mac? = some mac → ∃ stored,
        later.port? mac = .ok (some stored) ∧ stored.mac? = some mac ∧
          stored.device? = some done.device
  /-- A device is removed, if there is one. -/
  removeDevice : ∀ address log, ∃ removed later,
    result (removeDevice address log) store = (.ok removed, later) ∧ later.Readable ∧
      later.device? address = .ok none
  /-- A port is removed, if there is one. -/
  removePort : ∀ mac log, ∃ removed later,
    result (removePort mac log) store = (.ok removed, later) ∧ later.Readable ∧
      later.port? mac = .ok none

namespace Tables

variable {tables : Tables}

/-! ## Reading sound tables -/

/-- A row that is there if it is found is read if it is found. -/
theorem isOk_readRow {α β : Type} {read : Row α → Except StoreCause β} {P : Row α → β → Prop}
    {table : Table α} {chosen : Row α → Bool}
    (readable : ∀ row ∈ table.rows, ∃ value, read row = .ok value ∧ P row value) :
    (readRow read (table.find? chosen)).isOk := by
  cases found : table.find? chosen with
  | none => rfl
  | some row =>
    obtain ⟨value, came, _⟩ := readable row (List.mem_of_find?_eq_some found)
    rw [readRow, came]
    rfl

/-- Rows that are each read with their number are all read, with their numbers. -/
theorem readRows_ids {α β : Type} {read : Row α → Except StoreCause β} {id? : β → Option Int}
    {rows : List (Row α)}
    (readable : ∀ row ∈ rows, ∃ value, read row = .ok value ∧ id? value = some row.id) :
    ∃ values, readRows read rows = .ok values ∧
      values.map id? = rows.map fun row => some row.id := by
  obtain ⟨values, came, related⟩ := readRows_ok readable
  exact ⟨values, came, map_id_of_read related⟩

/-- All rows of sound tables can be read. -/
theorem Sound.readable (sound : tables.Sound) : tables.store.Readable where
  devices := readRows_ids fun _ inside => sound.read_device inside
  ports := readRows_ids fun _ inside => sound.read_port inside
  links := readRows_ids fun _ inside => sound.read_link inside
  device _ := ⟨rfl, isOk_readRow fun _ inside => sound.read_device inside⟩
  port _ := ⟨rfl, isOk_readRow fun _ inside => sound.read_port inside⟩
  portsOf id := by
    obtain ⟨ports, read, _⟩ := portsOf_store sound id
    rw [read]
    rfl
  linkBetween _ _ := rfl
  linkAt _ := isOk_readRow fun _ inside => sound.read_link inside

/-! ## Reading back an observation -/

/-- The row of a device is read as the device at its address. -/
theorem device?_store {address : Ipv4} {row : Row DeviceCells} {device : Device}
    (found : tables.deviceRow? address = some row) (cells : row.cells = .ofDevice device) :
    tables.store.device? address = .ok (some { device with id? := some row.id }) := by
  have read := DeviceCells.read_ofDevice row.id device
  rw [← cells] at read
  show readRow DeviceCells.read (tables.deviceRow? address) = _
  rw [found, readRow, read]
  rfl

/-- A device that is not stored is not read. -/
theorem device?_store_of_none {address : Ipv4} (absent : tables.deviceRow? address = none) :
    tables.store.device? address = .ok none := by
  show readRow DeviceCells.read (tables.deviceRow? address) = _
  rw [absent]
  rfl

/-- No transaction fails on sound tables. -/
theorem Sound.reliable (sound : tables.Sound) : tables.store.Reliable where
  readable := sound.readable
  record observation log := by
    obtain ⟨done, _, owner, recorded⟩ := result_record sound observation log
    have later := sound.takeAll observation.notices
    refine ⟨done, _, recorded, later.readable, ?_, fun port inside mac known => ?_⟩
    · obtain ⟨row, found, cells⟩ := deviceRow?_takeAll_notices_self tables observation
      have id : some row.id = some done.device := by
        rw [← owner, owner?, deviceRow?, ← devices_takeAll_notices, ← deviceRow?, found,
          Option.map_some]
      rw [device?_store found cells, id]
    · have sighted : observation.sighting port mac ∈ observation.sightings :=
        Observation.mem_sightings.2 ⟨port, inside, mac, known, rfl⟩
      obtain ⟨row, last, among, own, found, cells⟩ :=
        exists_portRow?_takeAll_notices tables sighted
      obtain ⟨other, _, otherMac, _, rfl⟩ := Observation.mem_sightings.1 among
      obtain rfl : otherMac = mac := own
      exact ⟨_, port?_store_ofPort found cells, rfl, owner⟩
  removeDevice address log := by
    cases found : tables.deviceRow? address with
    | none =>
      exact ⟨_, _, result_removeDevice_of_none found log, sound.readable,
        device?_store_of_none found⟩
    | some row =>
      have gone : (tables.deleteDevice row.id).deviceRow? address = none :=
        sound.devices.rowAt?_delete_found found
      exact ⟨_, _, result_removeDevice sound found log, (sound.deleteDevice row.id).readable,
        device?_store_of_none gone⟩
  removePort mac log := by
    cases found : tables.portRow? mac with
    | none =>
      exact ⟨_, _, result_removePort_of_none found log, sound.readable, port?_store_of_none found⟩
    | some row =>
      have gone : (tables.deletePorts (·.id = row.id)).portRow? mac = none :=
        sound.ports.rowAt?_delete_found found
      exact ⟨_, _, result_removePort found log, (sound.deletePorts (·.id = row.id)).readable,
        port?_store_of_none gone⟩

end Tables

/-- After any operations on a newly opened database, each of which may succeed or fail, no
transaction of the program fails. -/
theorem reliable_after_run (place : String) (opening : Log.Logger) (operations : List Operation) :
    (afterAll (operations.map Operation.transaction)
      (after (openAt place opening) ⟨none, none, none⟩)).Reliable := by
  obtain ⟨later, sound, reached⟩ := Tables.Sound.empty.after_run operations
  rw [after_openAt, reached]
  exact sound.reliable

end CableMap.Store
