import CableMap.Proofs.Store.Record

/-!
# Whole runs

What a store goes through: its program records observations, removes devices, ports and links, and
empties it; a caller may besides store and unlink rows of its own choosing. Whatever the order and
the arguments, and whether each step succeeds or is refused, the rows of a store that began empty
fit together: each key stands for one row, each number for one row, and no row refers to one that
is not there.
-/
namespace CableMap.Store

/-- The rows of devices; a missing table has none. -/
def deviceRows (store : Store) : List (Row DeviceCells) := (store.devices?.map (·.rows)).getD []

/-- The rows of ports; a missing table has none. -/
def portRows (store : Store) : List (Row PortCells) := (store.ports?.map (·.rows)).getD []

/-- The rows of links; a missing table has none. -/
def linkRows (store : Store) : List (Row LinkCells) := (store.links?.map (·.rows)).getD []

/-- What the program itself does to a store. -/
inductive Change
  /-- Record an observation. -/
  | record (observation : Observation) (log : Log.Logger)
  /-- Remove the device at an address. -/
  | removeDevice (address : Ipv4) (log : Log.Logger)
  /-- Remove the port with a MAC address. -/
  | removePort (mac : Mac) (log : Log.Logger)
  /-- Remove the link between two ports. -/
  | unlink (a b : Int)
  /-- Forget everything. -/
  | reset (log : Log.Logger)

/-- The change forgets everything. -/
def Change.resets : Change → Bool
  | .reset _ => true
  | _ => false

/-- The transaction of a change. -/
def Change.transaction : Change → StoreM Unit
  | .record observation log => discard (Store.record observation log)
  | .removeDevice address log => discard (Store.removeDevice address log)
  | .removePort mac log => discard (Store.removePort mac log)
  | .unlink a b => discard (Store.unlink a b)
  | .reset log => Store.reset log

/-- What can be done to a store. -/
inductive Operation
  /-- What the program itself does. -/
  | change (made : Change)
  /-- Store a device. -/
  | saveDevice (device : Device)
  /-- Store a port. -/
  | savePort (port : Port)
  /-- Store a link. -/
  | saveLink (link : Link)
  /-- Remove every link at a port. -/
  | unlinkPort (port : Int)
  /-- Remove every link at a port but the one to its peer. -/
  | unlinkBeside (port peer : Int)

/-- The transaction of an operation. -/
def Operation.transaction : Operation → StoreM Unit
  | .change made => made.transaction
  | .saveDevice device => discard (Store.saveDevice device)
  | .savePort port => discard (Store.savePort port)
  | .saveLink link => discard (Store.saveLink link)
  | .unlinkPort port => discard (Store.unlinkPort port)
  | .unlinkBeside port peer => discard (Store.unlinkBeside port peer)

open Tables

variable {tables : Tables}

/-- What a change makes of sound tables. -/
def Tables.afterChange (tables : Tables) : Change → Tables
  | .record observation _ => tables.takeAll observation.notices
  | .removeDevice address _ =>
    match tables.deviceRow? address with
    | none => tables
    | some row => tables.deleteDevice row.id
  | .removePort mac _ =>
    match tables.portRow? mac with
    | none => tables
    | some row => tables.deletePorts (·.id = row.id)
  | .unlink a b => tables.deleteLinks (LinkCells.joins a b)
  | .reset _ => ⟨.empty, .empty, .empty⟩

/-- A change of sound tables comes to what it makes of them. -/
theorem Tables.Sound.after_change_eq (sound : tables.Sound) (change : Change) :
    after change.transaction tables.store = (tables.afterChange change).store := by
  cases change with
  | record observation log =>
    obtain ⟨done, _, _, recorded⟩ := result_record sound observation log
    refine (after_discard _ _).trans ?_
    rw [after, recorded]
    rfl
  | removeDevice address log =>
    simp only [Change.transaction, after_discard, Tables.afterChange]
    cases found : tables.deviceRow? address with
    | none => rw [after, result_removeDevice_of_none found]
    | some row => rw [after, result_removeDevice sound found]
  | removePort mac log =>
    simp only [Change.transaction, after_discard, Tables.afterChange]
    cases found : tables.portRow? mac with
    | none => rw [after, result_removePort_of_none found]
    | some row => rw [after, result_removePort found]
  | unlink a b =>
    refine (after_discard _ _).trans ?_
    rw [after, result_unlink]
    rfl
  | reset log => rfl

/-- What holds where a device is not found and after the one that is found is removed holds after
the removal by an address. -/
theorem Tables.afterChange_removeDevice {P : Tables → Prop} (address : Ipv4) (log : Log.Logger)
    (absent : tables.deviceRow? address = none → P tables)
    (removed : ∀ row, tables.deviceRow? address = some row → P (tables.deleteDevice row.id)) :
    P (tables.afterChange (.removeDevice address log)) := by
  show P (match tables.deviceRow? address with
    | none => tables
    | some row => tables.deleteDevice row.id)
  cases found : tables.deviceRow? address with
  | none => exact absent found
  | some row => exact removed row found

/-- What holds where a port is not found and after the one that is found is removed holds after the
removal by a MAC address. -/
theorem Tables.afterChange_removePort {P : Tables → Prop} (mac : Mac) (log : Log.Logger)
    (absent : tables.portRow? mac = none → P tables)
    (removed : ∀ row, tables.portRow? mac = some row →
      P (tables.deletePorts (·.id = row.id))) : P (tables.afterChange (.removePort mac log)) := by
  show P (match tables.portRow? mac with
    | none => tables
    | some row => tables.deletePorts (·.id = row.id))
  cases found : tables.portRow? mac with
  | none => exact absent found
  | some row => exact removed row found

/-- What holds of the tables themselves, after every recording and removal, and of empty tables
where everything is forgotten, holds after a change. -/
theorem Tables.afterChange_cases {P : Tables → Prop} (change : Change) (same : P tables)
    (record : ∀ observation : Observation, P (tables.takeAll observation.notices))
    (device : ∀ id, P (tables.deleteDevice id)) (ports : ∀ chosen, P (tables.deletePorts chosen))
    (links : ∀ chosen, P (tables.deleteLinks chosen))
    (empty : change.resets → P ⟨.empty, .empty, .empty⟩) : P (tables.afterChange change) := by
  cases change with
  | record observation log => exact record observation
  | removeDevice address log =>
    exact Tables.afterChange_removeDevice address log (fun _ => same) fun row _ => device row.id
  | removePort mac log =>
    exact Tables.afterChange_removePort mac log (fun _ => same) fun _ _ => ports _
  | unlink a b => exact links _
  | reset log => exact empty rfl

/-- A change keeps tables sound. -/
theorem Tables.Sound.afterChange (sound : tables.Sound) (change : Change) :
    (tables.afterChange change).Sound :=
  Tables.afterChange_cases change sound (fun observation => sound.takeAll observation.notices)
    sound.deleteDevice sound.deletePorts sound.deleteLinks fun _ => Sound.empty

/-- A change keeps tables straight. -/
theorem Tables.Straight.afterChange (straight : tables.Straight) (change : Change) :
    (tables.afterChange change).Straight :=
  Tables.afterChange_cases change straight
    (fun observation => straight.takeAll observation.notices)
    (fun _ => straight.deleteLinks _) (fun _ => straight.deleteLinks _) straight.deleteLinks
    fun _ => Straight.empty

/-- What an operation makes of sound tables. What is refused leaves them. -/
def Tables.afterOperation (tables : Tables) : Operation → Tables
  | .change made => tables.afterChange made
  | .saveDevice device => tables.saveDevice device
  | .savePort port =>
    match port.mac? with
    | none => tables
    | some mac => if deviceIsStored tables.devices port then tables.savePort port mac else tables
  | .saveLink link =>
    if tables.ports.has link.a ∧ tables.ports.has link.b then tables.saveLink link else tables
  | .unlinkPort port => tables.deleteLinks (LinkCells.touches port)
  | .unlinkBeside port peer => tables.deleteLinks (LinkCells.touchesBeside port peer)

/-- An operation on sound tables comes to what it makes of them. -/
theorem Tables.Sound.after_operation_eq (sound : tables.Sound) (operation : Operation) :
    after operation.transaction tables.store = (tables.afterOperation operation).store := by
  cases operation with
  | change made => exact sound.after_change_eq made
  | saveDevice device =>
    obtain ⟨row, _, saved⟩ := result_saveDevice tables device
    refine (after_discard _ _).trans ?_
    rw [after, saved]
    rfl
  | savePort port =>
    simp only [Operation.transaction, after_discard, Tables.afterOperation]
    cases known : port.mac? with
    | none => rw [after, result_savePort_of_none known]
    | some mac =>
      by_cases stored : deviceIsStored tables.devices port
      · obtain ⟨row, _, saved⟩ := result_savePort known stored
        rw [after, saved]
        exact congrArg store (if_pos stored).symm
      · rw [after, result_savePort_error known stored]
        exact congrArg store (if_neg stored).symm
  | saveLink link =>
    simp only [Operation.transaction, after_discard, Tables.afterOperation]
    by_cases stored : tables.ports.has link.a ∧ tables.ports.has link.b
    · obtain ⟨row, _, saved⟩ := result_saveLink tables link stored.1 stored.2
      rw [after, saved, if_pos stored]
    · rw [after, result_saveLink_error sound stored, if_neg stored]
  | unlinkPort port =>
    refine (after_discard _ _).trans ?_
    rw [after, result_unlinkPort]
    rfl
  | unlinkBeside port peer =>
    refine (after_discard _ _).trans ?_
    rw [after, result_unlinkBeside]
    rfl

/-- What holds of the tables themselves and after a port was stored holds after an attempt to
store it. -/
theorem Tables.afterOperation_savePort {P : Tables → Prop} (port : Port) (same : P tables)
    (saved : ∀ mac, deviceIsStored tables.devices port → P (tables.savePort port mac)) :
    P (tables.afterOperation (.savePort port)) := by
  simp only [Tables.afterOperation]
  split
  · exact same
  · split
    · exact saved _ ‹_›
    · exact same

/-- What holds of the tables themselves and after a link was stored holds after an attempt to
store it. -/
theorem Tables.afterOperation_saveLink {P : Tables → Prop} (link : Link) (same : P tables)
    (saved : tables.ports.has link.a → tables.ports.has link.b → P (tables.saveLink link)) :
    P (tables.afterOperation (.saveLink link)) := by
  simp only [Tables.afterOperation]
  split
  · rename_i stored
    exact saved stored.1 stored.2
  · exact same

/-- An operation keeps tables sound. -/
theorem Tables.Sound.afterOperation (sound : tables.Sound) (operation : Operation) :
    (tables.afterOperation operation).Sound := by
  cases operation with
  | change made => exact sound.afterChange made
  | saveDevice device => exact sound.saveDevice device
  | savePort port => exact Tables.afterOperation_savePort port sound sound.savePort
  | saveLink link => exact Tables.afterOperation_saveLink link sound sound.saveLink
  | unlinkPort port => exact sound.deleteLinks _
  | unlinkBeside port peer => exact sound.deleteLinks _

/-- What some operations make of sound tables, one after the other. -/
def Tables.afterOperations (tables : Tables) (operations : List Operation) : Tables :=
  operations.foldl Tables.afterOperation tables

/-- Operations keep tables sound. -/
theorem Tables.Sound.afterOperations (sound : tables.Sound) (operations : List Operation) :
    (tables.afterOperations operations).Sound := by
  induction operations generalizing tables with
  | nil => exact sound
  | cons operation operations ih => exact ih (sound.afterOperation operation)

/-- A run from sound tables comes to what its operations make of them. -/
theorem Tables.Sound.after_run_eq (sound : tables.Sound) (operations : List Operation) :
    afterAll (operations.map Operation.transaction) tables.store =
      (tables.afterOperations operations).store := by
  induction operations generalizing tables with
  | nil => rfl
  | cons operation operations ih =>
    have rest := ih (sound.afterOperation operation)
    rw [← sound.after_operation_eq operation] at rest
    exact rest

/-- A run from sound tables leaves sound tables. -/
theorem Tables.Sound.after_run (sound : tables.Sound) (operations : List Operation) :
    ∃ later : Tables, later.Sound ∧
      afterAll (operations.map Operation.transaction) tables.store = later.store :=
  ⟨_, sound.afterOperations operations, sound.after_run_eq operations⟩

/-- What each change of sound tables carries on from the changes before it holds of all that the
program does. -/
theorem Tables.Sound.after_changes_telling {P : List Change → Tables → Prop}
    (sound : tables.Sound) (past : List Change) (start : P past tables)
    (step : ∀ {past : List Change} {tables : Tables}, tables.Sound → P past tables →
      ∀ change, P (past ++ [change]) (tables.afterChange change))
    (changes : List Change) :
    ∃ later : Tables, later.Sound ∧ P (past ++ changes) later ∧
      afterAll (changes.map Change.transaction) tables.store = later.store := by
  induction changes generalizing past tables with
  | nil => exact ⟨tables, sound, by rwa [List.append_nil], rfl⟩
  | cons change changes ih =>
    obtain ⟨later, laterSound, told, rest⟩ :=
      ih (sound.afterChange change) (past ++ [change]) (step sound start change)
    refine ⟨later, laterSound, by rwa [← List.append_cons] at told, ?_⟩
    rw [← rest, ← sound.after_change_eq change]
    rfl

/-- What every change of sound tables keeps is kept by all that the program does. -/
theorem Tables.Sound.after_changes_keeping {P : Tables → Prop} (sound : tables.Sound)
    (start : P tables)
    (step : ∀ {tables : Tables}, tables.Sound → P tables → ∀ change, P (tables.afterChange change))
    (changes : List Change) :
    ∃ later : Tables, later.Sound ∧ P later ∧
      afterAll (changes.map Change.transaction) tables.store = later.store :=
  sound.after_changes_telling (P := fun _ => P) [] start step changes

/-- What the program does from sound and straight tables leaves sound and straight tables. -/
theorem Tables.Sound.after_changes (sound : tables.Sound) (straight : tables.Straight)
    (changes : List Change) :
    ∃ later : Tables, later.Sound ∧ later.Straight ∧
      afterAll (changes.map Change.transaction) tables.store = later.store :=
  sound.after_changes_keeping straight (fun _ kept change => kept.afterChange change) changes

/-- The rows of a store fit together. -/
structure Intact (store : Store) : Prop where
  /-- No table is missing. -/
  tables : store.devices?.isSome ∧ store.ports?.isSome ∧ store.links?.isSome
  /-- No two devices have one address. -/
  addresses : store.deviceRows.Pairwise fun left right => left.cells.address ≠ right.cells.address
  /-- Every port has a MAC address. -/
  macs : ∀ row ∈ store.portRows, ∃ mac : Mac, row.cells.mac = some (toString mac)
  /-- No two ports have one MAC address. -/
  macsApart : store.portRows.Pairwise fun left right => left.cells.mac ≠ right.cells.mac
  /-- No two links join the same two ports, whichever end is which. -/
  pairs : store.linkRows.Pairwise fun left right => left.cells.ends ≠ right.cells.ends
  /-- No two devices have one number. -/
  deviceIds : (store.deviceRows.map (·.id)).Nodup
  /-- No two ports have one number. -/
  portIds : (store.portRows.map (·.id)).Nodup
  /-- No two links have one number. -/
  linkIds : (store.linkRows.map (·.id)).Nodup
  /-- A port that belongs to a device belongs to a stored one. -/
  owners : ∀ port ∈ store.portRows, ∀ id, port.cells.device = some id →
    ∃ device ∈ store.deviceRows, device.id = id
  /-- Both ends of a link are stored ports. -/
  ends : ∀ link ∈ store.linkRows, ∃ a ∈ store.portRows, ∃ b ∈ store.portRows,
    link.cells.a = some a.id ∧ link.cells.b = some b.id

/-- The rows of sound tables fit together. -/
theorem Tables.Sound.intact (sound : tables.Sound) : tables.store.Intact where
  tables := ⟨rfl, rfl, rfl⟩
  addresses := sound.devices.distinct
  macs row inside := by
    obtain ⟨port, mac, cells⟩ := sound.portCells row inside
    exact ⟨mac, by rw [cells]; rfl⟩
  macsApart := sound.ports.distinct
  pairs := sound.links.distinct
  deviceIds := sound.devices.nodup_ids
  portIds := sound.ports.nodup_ids
  linkIds := sound.links.nodup_ids
  owners port inside id belongs := Table.has_iff.1 (sound.owned port inside id belongs)
  ends row inside := by
    obtain ⟨link, cells⟩ := sound.linkCells row inside
    have plugged := sound.plugged row inside
    rw [cells] at plugged
    obtain ⟨a, aInside, aId⟩ := Table.has_iff.1 (plugged link.a (Sym2.mem_mk_left _ _))
    obtain ⟨b, bInside, bId⟩ := Table.has_iff.1 (plugged link.b (Sym2.mem_mk_right _ _))
    refine ⟨a, aInside, b, bInside, ?_⟩
    rw [cells, aId, bId]
    exact ⟨rfl, rfl⟩

/-- A newly opened database has three tables that never had a row. -/
theorem after_openAt (place : String) (log : Log.Logger) :
    after (openAt place log) ⟨none, none, none⟩ = (⟨.empty, .empty, .empty⟩ : Tables).store := rfl

/-- After any operations on a newly opened database, each of which may succeed or fail, the rows of
the store fit together. -/
theorem intact_of_run (place : String) (log : Log.Logger) (operations : List Operation) :
    (afterAll (operations.map Operation.transaction)
      (after (openAt place log) ⟨none, none, none⟩)).Intact := by
  obtain ⟨later, sound, ends⟩ := Sound.empty.after_run operations
  rw [after_openAt, ends]
  exact sound.intact

/-- The store was left by operations on a newly opened database. -/
def Written (store : Store) : Prop :=
  ∃ place log, ∃ operations : List Operation,
    store = afterAll (operations.map Operation.transaction)
      (after (openAt place log) ⟨none, none, none⟩)

/-- A written store is three sound tables. -/
theorem Written.sound {store : Store} (written : store.Written) :
    ∃ tables : Tables, tables.Sound ∧ store = tables.store := by
  obtain ⟨place, log, operations, rfl⟩ := written
  rw [after_openAt]
  exact Sound.empty.after_run operations

end CableMap.Store
