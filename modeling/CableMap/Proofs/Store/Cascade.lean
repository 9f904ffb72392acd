import CableMap.Proofs.Store.Operation

/-!
# What a removal takes with it

A device goes with its ports, and a port goes with the links that have an end at it, whichever end
that is and wherever the other end leads. Nothing else goes: every other row stays as it is and
where it is, no number is given or taken back, and no row is left that refers to one that went.
-/
namespace CableMap.Store

/-- Of a store exactly some devices, some ports and the links at these ports are gone. -/
structure Cascaded (before after : Store) (device : Row DeviceCells → Bool)
    (port : Row PortCells → Bool) : Prop where
  /-- Of the devices those are gone that are chosen. -/
  devices : after.devices? = before.devices?.map (·.delete device)
  /-- Of the ports those are gone that are chosen. -/
  ports : after.ports? = before.ports?.map (·.delete port)
  /-- Of the links those are gone that have an end at a port that is. -/
  links : after.links? = before.links?.map (·.delete fun link =>
    before.portRows.any fun row => port row && LinkCells.touches row.id link)

namespace Tables

variable {tables : Tables}

/-- The ports that are removed, and their links, depend on which of the stored ports are chosen. -/
theorem deletePorts_congr {left right : Row PortCells → Bool}
    (same : ∀ port ∈ tables.ports.rows, left port = right port) :
    tables.deletePorts left = tables.deletePorts right := by
  have chosen : tables.ports.rows.filter left = tables.ports.rows.filter right :=
    List.filter_congr same
  rw [deletePorts, deletePorts, chosen, Table.delete_congr same]

/-- Removing ports takes these and the links at them. -/
theorem cascaded_deletePorts (tables : Tables) (chosen : Row PortCells → Bool) :
    Cascaded tables.store (tables.deletePorts chosen).store (fun _ => false) chosen where
  devices := by
    have whole : tables.devices.delete (fun _ => false) = tables.devices :=
      Table.delete_of_none fun _ _ => Bool.false_ne_true
    show some tables.devices = some (tables.devices.delete fun _ => false)
    rw [whole]
  ports := rfl
  links := by
    have ends : (fun link => (tables.ports.rows.filter chosen).any fun port =>
        LinkCells.touches port.id link) = fun link => tables.ports.rows.any fun port =>
          chosen port && LinkCells.touches port.id link := by
      funext link
      exact List.any_filter
    show some (tables.links.delete _) = some (tables.links.delete _)
    rw [ends]
    rfl

/-- Removing the device of a row takes this row, the ports of the device and the links at them. -/
theorem Sound.cascaded_deleteDevice (sound : tables.Sound) {row : Row DeviceCells}
    (inside : row ∈ tables.devices.rows) :
    Cascaded tables.store (tables.deleteDevice row.id).store (· = row)
      (·.cells.device = some row.id) := by
  have ports := cascaded_deletePorts tables (isPortOf row.id)
  have device : tables.devices.delete (·.id = row.id) = tables.devices.delete (· = row) := by
    apply Table.delete_congr
    intro other otherInside
    exact decide_eq_decide.2 (sound.devices.id_inj otherInside inside)
  exact { ports with devices := congrArg some device }

/-- Removing the port of a row takes this row and the links at it. -/
theorem Sound.cascaded_deletePort (sound : tables.Sound) {row : Row PortCells}
    (inside : row ∈ tables.ports.rows) :
    Cascaded tables.store (tables.deletePorts (·.id = row.id)).store (fun _ => false)
      (· = row) := by
  have one : tables.deletePorts (·.id = row.id) = tables.deletePorts (· = row) := by
    apply deletePorts_congr
    intro port portInside
    exact decide_eq_decide.2 (sound.ports.id_inj portInside inside)
  rw [one]
  exact cascaded_deletePorts tables (· = row)

end Tables

/-- What a store answers to a removal and what it takes: nothing where there is nothing to remove,
and otherwise the row, what hangs on it, and nothing else. -/
structure Removes {α : Type} (store : Store) (removal : StoreM Bool) (rows : List (Row α))
    (target : Row α → Prop) (taken : Row α → Store → Prop) : Prop where
  /-- Without a target the answer is that there was none, and the store stays as it is. -/
  absent : (∀ row ∈ rows, ¬ target row) → result removal store = (.ok false, store)
  /-- With a target the answer is that there was one. -/
  present : ∀ row ∈ rows, target row →
    ∃ later, result removal store = (.ok true, later) ∧ taken row later ∧ later.Intact

/-- Removing the device at an address takes its row, its ports and the links at these. -/
theorem Tables.Sound.removes_device {tables : Tables} (sound : tables.Sound) (address : Ipv4)
    (log : Log.Logger) :
    Removes tables.store (removeDevice address log) tables.store.deviceRows
      (fun row => row.cells.address = some (addressKey address))
      fun row later => Cascaded tables.store later (· = row) (·.cells.device = some row.id) where
  absent none := result_removeDevice_of_none (Table.rowAt?_eq_none_iff.2 none) log
  present row inside own := by
    have found : tables.deviceRow? address = some row :=
      sound.devices.rowAt?_eq_some_iff.2 ⟨inside, own⟩
    exact ⟨_, result_removeDevice sound found log, sound.cascaded_deleteDevice inside,
      (sound.deleteDevice row.id).intact⟩

/-- Removing the port with a MAC address takes its row and the links at it. -/
theorem Tables.Sound.removes_port {tables : Tables} (sound : tables.Sound) (mac : Mac)
    (log : Log.Logger) :
    Removes tables.store (removePort mac log) tables.store.portRows
      (fun row => row.cells.mac = some (toString mac))
      fun row later => Cascaded tables.store later (fun _ => false) (· = row) where
  absent none := result_removePort_of_none (Table.rowAt?_eq_none_iff.2 none) log
  present row inside own := by
    have found : tables.portRow? mac = some row :=
      sound.ports.rowAt?_eq_some_iff.2 ⟨inside, own⟩
    exact ⟨_, result_removePort found log, sound.cascaded_deletePort inside,
      (sound.deletePorts _).intact⟩

/-- Whatever was done to a newly opened database, a removal takes exactly its target and what hangs
on it. -/
theorem removals_cascade (place : String) (opening : Log.Logger) (operations : List Operation)
    (log : Log.Logger) :
    let store := afterAll (operations.map Operation.transaction)
      (after (openAt place opening) ⟨none, none, none⟩)
    (∀ address, Removes store (removeDevice address log) store.deviceRows
      (fun row => row.cells.address = some (addressKey address))
      fun row later => Cascaded store later (· = row) (·.cells.device = some row.id)) ∧
    ∀ mac : Mac, Removes store (removePort mac log) store.portRows
      (fun row => row.cells.mac = some (toString mac))
      fun row later => Cascaded store later (fun _ => false) (· = row) := by
  obtain ⟨tables, sound, reached⟩ := Tables.Sound.empty.after_run operations
  rw [after_openAt, reached]
  exact ⟨fun address => sound.removes_device address log, fun mac => sound.removes_port mac log⟩

end CableMap.Store
