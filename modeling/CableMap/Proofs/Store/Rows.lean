import CableMap.Proofs.Store.Devices

/-!
# The rows after one observation

Cells are put into a table one after the other. A row whose key some of them have keeps its number
and its place and holds the last of these; every other row stays as it is. A key that no row has
becomes one new row, which holds the last cells under it and stands where the key first occurred:
the new rows follow the old ones with the next numbers. An observation puts its device among the
devices and its ports among the ports, so this is all that happens to either table.
-/
namespace CableMap.Store

namespace Table

variable {α κ : Type} [DecidableEq κ] {key : α → κ} {before after : Table α} {list : List α}
  {added : List (Row α)}

/-- A row with the last cells that have its key, or as it is if none do. -/
def refreshed (key : α → κ) (list : List α) (row : Row α) : Row α :=
  { row with cells := (lastUnder? key list (key row.cells)).getD row.cells }

/-- The keys of some cells that no row of a table has, by their first occurrence. -/
def freshKeys (key : α → κ) (table : Table α) (list : List α) : List κ :=
  (list.map key).eraseDups.filter fun k => (table.rowAt? key k).isNone

/-- A table after some cells were put into it, where some rows were added. -/
structure Received (key : α → κ) (before : Table α) (list : List α) (after : Table α)
    (added : List (Row α)) : Prop where
  /-- The old rows are where they were, each with the last cells under its key. The new rows
  follow them. -/
  rows : after.rows = before.rows.map (refreshed key list) ++ added
  /-- Each fresh key has one new row, by its first occurrence. -/
  keys : added.map (fun row => key row.cells) = freshKeys key before list
  /-- A new row holds the last cells under its key. -/
  last : ∀ row ∈ added, lastUnder? key list (key row.cells) = some row.cells
  /-- The new rows have the next numbers. -/
  numbered : added.map (·.id) =
    (List.range added.length).map fun count : Nat => before.lastId + 1 + count
  /-- No other number was given. -/
  lastId : after.lastId = before.lastId + added.length

/-! ## One more cell -/

/-- A row keeps its key. -/
theorem key_refreshed (key : α → κ) (list : List α) (row : Row α) :
    key (refreshed key list row).cells = key row.cells := by
  unfold refreshed
  cases found : lastUnder? key list (key row.cells) with
  | none => rfl
  | some cells => exact (mem_of_lastUnder? found).2

/-- A row of the key of the last cells holds them, and the last cells leave every other row. -/
theorem refreshed_concat (key : α → κ) (list : List α) (final : α) (row : Row α) :
    refreshed key (list ++ [final]) row =
      if key row.cells = key final then { refreshed key list row with cells := final }
      else refreshed key list row := by
  unfold refreshed
  rw [lastUnder?_concat]
  by_cases own : key final = key row.cells
  · rw [if_pos own, if_pos own.symm, Option.getD_some]
  · rw [if_neg own, if_neg (Ne.symm own)]

/-- A key that a row or earlier cells have is not fresh, and any other is one fresh key more. -/
theorem freshKeys_concat (key : α → κ) (table : Table α) (list : List α) (final : α) :
    freshKeys key table (list ++ [final]) = freshKeys key table list ++
      if key final ∈ list.map key ∨ (table.rowAt? key (key final)).isSome then []
      else [key final] := by
  have once : (list.map key ++ [key final]).eraseDups = (list.map key).eraseDups ++
      if key final ∈ list.map key then [] else [key final] := by
    rw [List.eraseDups_append]
    by_cases inside : key final ∈ list.map key
    · simp [List.removeAll, List.mem_map.1 inside]
    · rw [if_neg inside, List.removeAll, List.filter_cons_of_pos (by simpa using inside)]
      rfl
  rw [freshKeys, List.map_append, List.map_singleton, once, List.filter_append, freshKeys]
  by_cases inside : key final ∈ list.map key
  · rw [if_pos inside, if_pos (.inl inside), List.filter_nil]
  · rw [if_neg inside]
    cases found : table.rowAt? key (key final) <;> simp [inside, found]

namespace Received

/-- A key is there after some cells were put if it was there before or some of them have it. -/
theorem isSome_rowAt?_iff (received : Received key before list after added) (k : κ) :
    (after.rowAt? key k).isSome ↔ k ∈ list.map key ∨ (before.rowAt? key k).isSome := by
  have absent : after.rowAt? key k = none ↔
      (∀ row ∈ before.rows, key row.cells ≠ k) ∧ k ∉ freshKeys key before list := by
    rw [rowAt?_eq_none_iff, received.rows, ← received.keys, List.mem_map]
    constructor
    · intro apart
      constructor
      · intro row inside
        rw [← key_refreshed key list row]
        exact apart _ (List.mem_append_left _ (List.mem_map_of_mem inside))
      · rintro ⟨row, inside, own⟩
        exact apart row (List.mem_append_right _ inside) own
    · rintro ⟨old, new⟩ row inside own
      rcases List.mem_append.1 inside with oldInside | newInside
      · obtain ⟨row, stored, rfl⟩ := List.mem_map.1 oldInside
        rw [key_refreshed key list] at own
        exact old row stored own
      · exact new ⟨row, newInside, own⟩
  rw [← rowAt?_eq_none_iff, freshKeys, List.mem_filter, List.mem_eraseDups] at absent
  cases found : before.rowAt? key k <;> cases later : after.rowAt? key k <;>
    simp_all

/-- Cells under a key that is there replace those of its row. -/
theorem update (received : Received key before list after added) {final : α}
    (found : (after.rowAt? key (key final)).isSome) :
    ∃ changed, Received key before (list ++ [final])
      (after.update (fun row => key row.cells = key final) fun _ => final) changed := by
  have known := (received.isSome_rowAt?_iff (key final)).1 found
  let change := fun row : Row α =>
    if decide (key row.cells = key final) = true then { row with cells := final } else row
  have sameKey : ∀ row, key (change row).cells = key row.cells := by
    intro row
    by_cases own : key row.cells = key final <;> simp [change, own]
  have sameId : ∀ row, (change row).id = row.id := by
    intro row
    by_cases own : key row.cells = key final <;> simp [change, own]
  refine ⟨added.map change, ?_, ?_, ?_, ?_, ?_⟩
  · show after.rows.map change = _
    rw [received.rows, List.map_append, List.map_map]
    congr 1
    apply List.map_congr_left
    intro row _
    rw [refreshed_concat, ← key_refreshed key list row]
    simp [change]
  · rw [freshKeys_concat, if_pos known, List.append_nil, ← received.keys, List.map_map]
    apply List.map_congr_left
    intro row _
    exact sameKey row
  · intro row inside
    obtain ⟨old, stored, rfl⟩ := List.mem_map.1 inside
    rw [sameKey, lastUnder?_concat, received.last old stored]
    by_cases own : key final = key old.cells
    · rw [if_pos own]
      simp [change, own]
    · rw [if_neg own]
      simp [change, Ne.symm own]
  · rw [List.length_map, List.map_map, ← received.numbered]
    apply List.map_congr_left
    intro row _
    exact sameId row
  · rw [List.length_map]
    exact received.lastId

/-- Cells under a key that is not there become the next row. -/
theorem insert (received : Received key before list after added) {final : α}
    (absent : after.rowAt? key (key final) = none) :
    Received key before (list ++ [final]) (after.insert final)
      (added ++ [⟨after.nextId, final⟩]) := by
  have unknown : ¬ (key final ∈ list.map key ∨ (before.rowAt? key (key final)).isSome) := by
    rw [← received.isSome_rowAt?_iff, absent]
    exact Bool.false_ne_true
  have apart := rowAt?_eq_none_iff.1 absent
  rw [received.rows] at apart
  constructor
  case rows =>
    have kept : before.rows.map (refreshed key (list ++ [final])) =
        before.rows.map (refreshed key list) := by
      apply List.map_congr_left
      intro row inside
      have other := apart _ (List.mem_append_left _ (List.mem_map_of_mem inside))
      rw [key_refreshed key list] at other
      rw [refreshed_concat, if_neg other]
    show after.rows ++ [⟨after.nextId, final⟩] = _
    rw [received.rows, kept, List.append_assoc]
  case keys =>
    rw [freshKeys_concat, if_neg unknown, List.map_append, received.keys, List.map_singleton]
  case last =>
    intro row inside
    rw [lastUnder?_concat]
    rcases List.mem_append.1 inside with old | new
    · rw [if_neg (apart row (List.mem_append_right _ old)).symm]
      exact received.last row old
    · rw [List.mem_singleton.1 new, if_pos rfl]
  case numbered =>
    have next : after.nextId = before.lastId + 1 + added.length := by
      rw [nextId, received.lastId]
      omega
    rw [List.length_append, List.length_singleton, List.range_succ, List.map_append,
      List.map_append, received.numbered, List.map_singleton, List.map_singleton, next]
  case lastId =>
    show after.lastId + 1 = _
    rw [received.lastId, List.length_append, List.length_singleton]
    omega

end Received

/-- Cells put one after the other are received. -/
theorem received_putAll (key : α → κ) (before : Table α) (list : List α) :
    ∃ added, Received key before list (before.putAll key list) added := by
  -- The last cells decide what a row holds, so the list grows at its end.
  induction list using List.reverseRecOn with
  | nil =>
    have same : refreshed key ([] : List α) = id := rfl
    refine ⟨[], ?_, rfl, ?_, rfl, ?_⟩
    · rw [same, List.map_id, List.append_nil]
      rfl
    · exact fun _ inside => absurd inside List.not_mem_nil
    · exact (Int.add_zero _).symm
  | append_singleton list final ih =>
    obtain ⟨added, received⟩ := ih
    rw [putAll, List.foldl_concat, ← putAll]
    cases found : (before.putAll key list).rowAt? key (key final) with
    | none =>
      rw [put, save_of_absent found]
      exact ⟨_, received.insert found⟩
    | some row =>
      rw [put, save_of_found found]
      exact received.update (by rw [found, Option.isSome_some])

/-- The row under 1 holds the last cells under 1, and 2 becomes a new row where it first occurs. -/
example : (⟨[⟨4, (1, 5)⟩], 4⟩ : Table (Nat × Nat)).putAll (·.1) [(2, 6), (3, 7), (1, 8), (2, 9)] =
    ⟨[⟨4, (1, 8)⟩, ⟨5, (2, 9)⟩, ⟨6, (3, 7)⟩], 6⟩ := by
  decide

end Table

/-! ## Devices and ports of an observation -/

/-- What an observation has to write of its ports that have a MAC address, as ports of a device. -/
def cellsOfPorts (observation : Observation) (device : Int) : List PortCells :=
  observation.ports.filterMap fun port =>
    port.mac?.map (PortCells.ofPort { port with device? := some device })

/-- The devices and ports of a store are what recording an observation makes of those before. -/
structure Stocked (before after : Store) (observation : Observation) (done : Recorded) : Prop where
  /-- The device was put among the devices, of which each has an address of its own. -/
  devices : ∃ old new added, before.devices? = some old ∧ after.devices? = some new ∧
    old.Keyed (·.address) ∧ new.Keyed (·.address) ∧
      old.Received (·.address) [.ofDevice observation.device] new added
  /-- The ports were put among the ports, of which each has a MAC address of its own, as ports of
  this device. -/
  ports : ∃ old new added, before.ports? = some old ∧ after.ports? = some new ∧
    old.Keyed (·.mac) ∧ new.Keyed (·.mac) ∧
      old.Received (·.mac) (cellsOfPorts observation done.device) new added
  /-- The row that is told is the one of the device. -/
  device : ∃ row ∈ after.deviceRows, row.cells = .ofDevice observation.device ∧
    row.id = done.device
  /-- As many ports are told as have a MAC address. -/
  count : done.ports = (observation.ports.filter (·.mac?.isSome)).length

namespace Tables

variable {tables : Tables}

/-- Sightings of a device under a number write its ports as ports of this device. -/
theorem portCells_sightings {observation : Observation} {device : Int}
    (owner : tables.owner? observation.device.address = some device) :
    observation.sightings.map tables.portCells = cellsOfPorts observation device := by
  rw [Observation.sightings, List.map_filterMap, cellsOfPorts]
  congr 1
  funext port
  cases port.mac? with
  | none => rfl
  | some mac =>
    show some (PortCells.ofPort { port with device? := _ } mac) = _
    rw [Observation.sighting, owner]
    rfl

/-- Recording an observation stocks sound tables with its device and its ports. -/
theorem Sound.stocked (sound : tables.Sound) {observation : Observation} {done : Recorded}
    (owner : (tables.saveDevice observation.device).owner? observation.device.address =
      some done.device)
    (count : done.ports = (observation.ports.filter (·.mac?.isSome)).length) :
    Stocked tables.store (tables.takeAll observation.notices).store observation done where
  devices := by
    obtain ⟨added, received⟩ :=
      Table.received_putAll (·.address) tables.devices [.ofDevice observation.device]
    have later := (sound.takeAll observation.notices).devices
    refine ⟨_, _, added, rfl, rfl, sound.devices, later, ?_⟩
    rw [devices_takeAll_notices]
    exact received
  ports := by
    obtain ⟨added, received⟩ :=
      Table.received_putAll (·.mac) tables.ports (cellsOfPorts observation done.device)
    have later := (sound.takeAll observation.notices).ports
    refine ⟨_, _, added, rfl, rfl, sound.ports, later, ?_⟩
    rw [ports_takeAll_notices, portCells_sightings owner]
    exact received
  device := by
    obtain ⟨row, found, cells⟩ := deviceRow?_takeAll_notices_self tables observation
    rw [deviceRow?, devices_takeAll_notices, ← deviceRow?] at found
    rw [owner?, found] at owner
    refine ⟨row, ?_, cells, Option.some.inj owner⟩
    show row ∈ (tables.takeAll observation.notices).devices.rows
    rw [devices_takeAll_notices]
    exact List.mem_of_find?_eq_some found
  count := count

end Tables

/-- Whatever was done to a newly opened database, recording an observation succeeds and makes of
the devices and the ports what was observed of them. -/
theorem stocked_after_record (place : String) (opening : Log.Logger) (operations : List Operation)
    (observation : Observation) (log : Log.Logger) :
    let before := afterAll (operations.map Operation.transaction)
      (after (openAt place opening) ⟨none, none, none⟩)
    ∃ done after, result (record observation log) before = (.ok done, after) ∧
      Stocked before after observation done := by
  obtain ⟨tables, sound, reached⟩ := Tables.Sound.empty.after_run operations
  obtain ⟨done, count, owner, recorded⟩ := result_record sound observation log
  rw [after_openAt, reached]
  exact ⟨done, _, recorded, sound.stocked owner count⟩

end CableMap.Store
