import CableMap.Proofs.Store.Operation

/-!
# Recording takes nothing away but links

A statement that stores a device or a port overwrites rows without touching their numbers and their
keys, or adds one at the end, and recording makes no other statement about devices and ports. So
whatever store it meets, with missing tables and rows that cannot be read, and wherever it fails,
the devices and the ports of before stand at the head of those of after, in their order and under
their numbers.
-/
namespace CableMap.Store

/-! ## One table -/

namespace Table

variable {α κ : Type} {key : α → κ} {table : Table α}

/-- What tells the rows of a table apart: their numbers and their keys. -/
def marks (key : α → κ) (rows : List (Row α)) : List (Int × κ) :=
  rows.map fun row => (row.id, key row.cells)

/-- A row that is added comes behind the others. -/
theorem marks_insert (key : α → κ) (table : Table α) (cells : α) :
    marks key table.rows <+: marks key (table.insert cells).rows := by
  have added : (table.insert cells).rows = table.rows ++ [⟨table.nextId, cells⟩] := rfl
  rw [added, marks, marks, List.map_append]
  exact List.prefix_append _ _

/-- Changes that leave the keys of the chosen rows leave what tells the rows apart. -/
theorem marks_update {chosen : Row α → Bool} {change : α → α}
    (same : ∀ row ∈ table.rows, chosen row → key (change row.cells) = key row.cells) :
    marks key (table.update chosen change).rows = marks key table.rows := by
  rw [marks, marks, update, List.map_map]
  refine List.map_congr_left fun row inside => ?_
  by_cases picked : chosen row = true
  · simp [picked, same row inside picked]
  · simp [picked]

/-- The first row of some under a key has the same number among any more that come behind. -/
theorem id_find?_of_marks [DecidableEq κ] {rows later : List (Row α)}
    (behind : marks key rows <+: marks key later) {k : κ} {id : Int}
    (found : (rows.find? fun row => key row.cells = k).map (·.id) = some id) :
    (later.find? fun row => key row.cells = k).map (·.id) = some id := by
  have byMark (rows : List (Row α)) : (rows.find? fun row => key row.cells = k).map (·.id) =
      ((marks key rows).find? fun mark => mark.2 = k).map (·.1) := by
    rw [marks, List.find?_map, Option.map_map]
    rfl
  rw [byMark] at found ⊢
  obtain ⟨mark, first, own⟩ := Option.map_eq_some_iff.1 found
  rw [behind.find?_eq_some first, Option.map_some, own]

end Table

/-! ## What a store retains -/

/-- The devices and the ports of one store, by their numbers and keys, are the first ones of
another. -/
structure Retains (before after : Store) : Prop where
  devices : Table.marks (·.address) before.deviceRows <+: Table.marks (·.address) after.deviceRows
  ports : Table.marks (·.mac) before.portRows <+: Table.marks (·.mac) after.portRows

/-- A store retains what it has. -/
theorem Retains.refl (store : Store) : Retains store store :=
  ⟨List.prefix_refl _, List.prefix_refl _⟩

/-- What is retained twice is retained. -/
theorem Retains.trans {before middle after : Store} (first : Retains before middle)
    (second : Retains middle after) : Retains before after :=
  ⟨first.devices.trans second.devices, first.ports.trans second.ports⟩

/-- A statement that is carried out takes no device and no port away. -/
def KeepsRows {α : Type} (statement : Statement α) : Prop :=
  ∀ store answer later, statement store = .ok (answer, later) → Retains store later

/-- A transaction takes no device and no port away, whether it fails or not. -/
def Retaining {α : Type} (transaction : StoreM α) : Prop :=
  ∀ store, Retains store (after transaction store)

/-! ## Statements -/

/-- Of two steps that are both taken the first came to something from which the second went on. -/
theorem exists_of_bind_ok {ε α β : Type} {first : Except ε α} {next : α → Except ε β} {value : β}
    (ended : first >>= next = .ok value) :
    ∃ middle, first = .ok middle ∧ next middle = .ok value := by
  cases first with
  | error failure => cases ended
  | ok middle => exact ⟨middle, rfl, ended⟩

/-- A table that is there is the one that must not be missing. -/
theorem eq_some_of_present {α : Type} {name : String} {table? : Option (Table α)} {table : Table α}
    (there : present name table? = .ok table) : table? = some table := by
  cases table? with
  | none => cases there
  | some other => exact congrArg some (Except.ok.inj there)

/-- The devices may be changed as long as those before come first. -/
theorem Retains.of_devices {store : Store} {table later : Table DeviceCells}
    (there : store.deviceTable = .ok table)
    (behind : Table.marks (·.address) table.rows <+: Table.marks (·.address) later.rows) :
    Retains store { store with devices? := some later } where
  devices := by
    have rows : store.deviceRows = table.rows := by
      rw [deviceRows, eq_some_of_present there]
      rfl
    rw [rows]
    exact behind
  ports := List.prefix_refl _

/-- The ports may be changed as long as those before come first. -/
theorem Retains.of_ports {store : Store} {table later : Table PortCells}
    (there : store.portTable = .ok table)
    (behind : Table.marks (·.mac) table.rows <+: Table.marks (·.mac) later.rows) :
    Retains store { store with ports? := some later } where
  devices := List.prefix_refl _
  ports := by
    have rows : store.portRows = table.rows := by
      rw [portRows, eq_some_of_present there]
      rfl
    rw [rows]
    exact behind

/-- The links may be changed at will. -/
theorem Retains.of_links (store : Store) (later : Table LinkCells) :
    Retains store { store with links? := some later } :=
  ⟨List.prefix_refl _, List.prefix_refl _⟩

/-- A new device takes no row away. -/
theorem keepsRows_insertDevice (device : Device) : KeepsRows (insertDevice device) := by
  intro store answer later accepted
  obtain ⟨table, there, rest⟩ := exists_of_bind_ok accepted
  cases rest
  exact .of_devices there (Table.marks_insert _ _ _)

/-- To overwrite a device takes no row away. -/
theorem keepsRows_updateDevice (device : Device) : KeepsRows (updateDevice device) := by
  intro store answer later accepted
  obtain ⟨table, there, rest⟩ := exists_of_bind_ok accepted
  cases rest
  apply Retains.of_devices there
  rw [Table.marks_update fun _ _ _ => rfl]

/-- A new port takes no row away. -/
theorem keepsRows_insertPort (port : Port) : KeepsRows (insertPort port) := by
  intro store answer later accepted
  obtain ⟨mac, _, rest⟩ := exists_of_bind_ok accepted
  obtain ⟨table, there, rest⟩ := exists_of_bind_ok rest
  obtain ⟨devices, _, rest⟩ := exists_of_bind_ok rest
  obtain ⟨_, _, rest⟩ := exists_of_bind_ok rest
  cases rest
  exact .of_ports there (Table.marks_insert _ _ _)

/-- To overwrite a port takes no row away. -/
theorem keepsRows_updatePort (port : Port) : KeepsRows (updatePort port) := by
  intro store answer later accepted
  obtain ⟨mac, _, rest⟩ := exists_of_bind_ok accepted
  obtain ⟨table, there, rest⟩ := exists_of_bind_ok rest
  obtain ⟨devices, _, rest⟩ := exists_of_bind_ok rest
  obtain ⟨_, _, rest⟩ := exists_of_bind_ok rest
  cases rest
  -- What replaces the chosen rows has the MAC address by which they were chosen.
  have same : ∀ row ∈ table.rows, isPortWith mac row →
      (PortCells.ofPort port mac).mac = row.cells.mac := by
    intro row _ chosen
    exact (of_decide_eq_true chosen).symm
  apply Retains.of_ports there
  rw [Table.marks_update same]

/-- A new link takes no device and no port away. -/
theorem keepsRows_insertLink (link : Link) : KeepsRows (insertLink link) := by
  intro store answer later accepted
  obtain ⟨table, _, rest⟩ := exists_of_bind_ok accepted
  obtain ⟨ports, _, rest⟩ := exists_of_bind_ok rest
  obtain ⟨_, _, rest⟩ := exists_of_bind_ok rest
  cases rest
  exact .of_links store _

/-- To overwrite a link takes no device and no port away. -/
theorem keepsRows_updateLink (link : Link) : KeepsRows (updateLink link) := by
  intro store answer later accepted
  obtain ⟨table, _, rest⟩ := exists_of_bind_ok accepted
  cases rest
  exact .of_links store _

/-- To remove links takes no device and no port away. -/
theorem keepsRows_deleteLinks (chosen : Row LinkCells → Bool) :
    KeepsRows (deleteLinks chosen) := by
  intro store answer later accepted
  obtain ⟨table, _, rest⟩ := exists_of_bind_ok accepted
  obtain ⟨ports, _, rest⟩ := exists_of_bind_ok rest
  cases rest
  exact .of_links store _

/-! ## Transactions -/

section Steps

variable {α β : Type}

/-- To answer with a value takes nothing away. -/
theorem retaining_pure (value : α) : Retaining (pure value : StoreM α) := Retains.refl

/-- To fail takes nothing away. -/
theorem retaining_throw (failure : Failure) : Retaining (throw failure : StoreM α) := Retains.refl

/-- To ask takes nothing away. -/
theorem retaining_ask (question : Store → Except Failure α) : Retaining (ask question) :=
  Retains.refl

/-- To log or to print takes nothing away. -/
theorem retaining_liftM (traced : Traced α) : Retaining (liftM traced : StoreM α) := Retains.refl

/-- A transaction behind another takes nothing away if neither do. -/
theorem Retaining.bind {first : StoreM α} {next : α → StoreM β} (starts : Retaining first)
    (goesOn : ∀ value, Retaining (next value)) : Retaining (first >>= next) := by
  intro store
  have retained := starts store
  unfold after at retained ⊢
  rcases ended : result first store with ⟨failure | value, middle⟩
  · rw [ended] at retained
    rw [result_bind_error ended]
    exact retained
  · rw [ended] at retained
    rw [result_bind_ok ended]
    exact retained.trans (goesOn value middle)

/-- A transaction of which the value is let go takes no more away than with it. -/
theorem Retaining.discard {transaction : StoreM α} (holds : Retaining transaction) :
    Retaining (discard transaction) := by
  intro store
  rw [after_discard]
  exact holds store

/-- A statement that takes no row away takes none away where it is refused. -/
theorem KeepsRows.retaining {statement : Statement α} (keeps : KeepsRows statement) :
    Retaining (execute statement) := by
  intro store
  cases accepted : statement store with
  | error failure =>
    rw [after, result_execute_error accepted]
    exact .refl store
  | ok answered =>
    obtain ⟨answer, later⟩ := answered
    rw [after, result_execute_ok accepted]
    exact keeps store answer later accepted

/-- A savepoint leaves the store as it was, or as the transaction in it does. -/
theorem Retaining.savepoint {transaction : StoreM α} (holds : Retaining transaction)
    (point : Savepoint) : Retaining (savepoint point transaction) := by
  intro store
  have retained := holds store
  unfold after at retained ⊢
  cases set : point.set with
  | error refusal =>
    rw [result_savepoint_unset set]
    exact .refl store
  | ok =>
    rcases ended : result transaction store with ⟨failure | value, later⟩
    · cases rolledBack : point.rollback with
      | ok =>
        rw [result_savepoint_error set rolledBack ended]
        exact .refl store
      | error refusal =>
        rw [result_savepoint_kept set rolledBack ended]
        rwa [ended] at retained
    · cases released : point.release with
      | ok =>
        rw [result_savepoint_ok set released ended]
        rwa [ended] at retained
      | error refusal =>
        rw [result_savepoint_unreleased set released ended]
        rwa [ended] at retained

/-- Transactions for one item after the other take nothing away if those for each item do not. -/
theorem Retaining.foldlM {visit : β → α → StoreM β}
    (visits : ∀ sofar item, Retaining (visit sofar item)) (items : List α) (start : β) :
    Retaining (items.foldlM visit start) := by
  induction items generalizing start with
  | nil => exact retaining_pure start
  | cons item items ih =>
    rw [List.foldlM_cons]
    exact (visits start item).bind ih

/-- To insist on a row that was just written takes nothing away. -/
theorem retaining_found (what : String) (value? : Option α) : Retaining (found what value?) := by
  cases value? with
  | none => exact retaining_throw _
  | some value => exact retaining_pure value

/-- To overwrite or add, and to look up what was written. -/
theorem Retaining.upsert {lookup : Store → Except Failure (Option Int)}
    {overwrite add : StoreM Unit} (overwrites : Retaining overwrite) (adds : Retaining add)
    (what : String) :
    Retaining (do
      if (← ask lookup).isSome then overwrite else add
      found what (← ask lookup)) := by
  have ends : Retaining (do found what (← ask lookup)) :=
    (retaining_ask lookup).bind fun known => retaining_found what known
  apply (retaining_ask lookup).bind
  intro known
  cases known with
  | none => exact adds.bind fun _ => ends
  | some id => exact overwrites.bind fun _ => ends

end Steps

/-- To store a device takes nothing away. -/
theorem retaining_saveDevice (device : Device) : Retaining (saveDevice device) :=
  .upsert (keepsRows_updateDevice device).retaining
    (keepsRows_insertDevice device).retaining.discard _

/-- To store a port takes nothing away. -/
theorem retaining_savePort (port : Port) : Retaining (savePort port) := by
  unfold savePort
  cases port.mac? with
  | none => exact retaining_throw _
  | some mac =>
    exact .upsert (keepsRows_updatePort port).retaining
      (keepsRows_insertPort port).retaining.discard _

/-- To store a link takes nothing away. -/
theorem retaining_saveLink (link : Link) : Retaining (saveLink link) :=
  .upsert (keepsRows_updateLink link).retaining (keepsRows_insertLink link).retaining.discard _

/-- To look for the port at the other end of a cable takes nothing away. -/
theorem retaining_peerOf? (observation : Observation) (port : Port) :
    Retaining (peerOf? observation port) := by
  unfold peerOf?
  cases observation.neighbourOn? port.interface with
  | none => exact retaining_pure none
  | some neighbour => exact (retaining_ask _).bind fun _ => retaining_pure _

/-- To record one port takes no device and no port away, whatever links it removes. -/
theorem retaining_recordPort (observation : Observation) (log : Log.Logger) (sofar : Recorded)
    (port : Port) : Retaining (recordPort observation log sofar port) := by
  unfold recordPort
  apply (retaining_savePort _).bind
  intro id
  apply (retaining_peerOf? observation port).bind
  intro peer?
  cases peer?.filter (·.1 ≠ id) with
  | none =>
    apply (keepsRows_deleteLinks _).retaining.bind
    intro removed
    dsimp only
    split
    · exact (retaining_liftM _).bind fun _ => retaining_pure _
    · exact retaining_pure _
  | some peer =>
    -- Whether a link was removed decides only what is logged.
    apply (keepsRows_deleteLinks _).retaining.bind
    intro removed
    dsimp only
    split
    · apply (retaining_liftM _).bind
      intro _
      apply (retaining_saveLink _).discard.bind
      exact fun _ => (retaining_liftM _).bind fun _ => retaining_pure _
    · apply (retaining_saveLink _).discard.bind
      exact fun _ => (retaining_liftM _).bind fun _ => retaining_pure _

/-- Where tables are missing, empty ones are made. -/
theorem retaining_createTables : Retaining createTables := by
  intro store
  show Retains store store.withTables
  constructor
  · cases there : store.devices? with
    | none => simp [deviceRows, there, Table.marks]
    | some table => simp [deviceRows, withTables, there]
  · cases there : store.ports? with
    | none => simp [portRows, there, Table.marks]
    | some table => simp [portRows, withTables, there]

/-- To record an observation takes no device and no port away. -/
theorem retaining_record (observation : Observation) (log : Log.Logger) :
    Retaining (record observation log) := by
  refine Retaining.savepoint ?_ .granted
  apply (retaining_saveDevice observation.device).bind
  intro device
  exact .foldlM (retaining_recordPort observation log) _ _

/-! ## What is found again -/

/-- Every device and every port of one store is in another, under its number. -/
structure Retained (before after : Store) : Prop where
  /-- A device is there under its number and its address. -/
  device : ∀ row ∈ before.deviceRows, ∃ kept ∈ after.deviceRows,
    kept.id = row.id ∧ kept.cells.address = row.cells.address
  /-- A port is there under its number and its MAC address. -/
  port : ∀ row ∈ before.portRows, ∃ kept ∈ after.portRows,
    kept.id = row.id ∧ kept.cells.mac = row.cells.mac
  /-- The number that is found at an address is found there again. -/
  deviceId : ∀ address id, before.deviceId? address = .ok (some id) →
    after.deviceId? address = .ok (some id)
  /-- The number that is found under a MAC address is found there again. -/
  portId : ∀ mac id, before.portId? mac = .ok (some id) → after.portId? mac = .ok (some id)

/-- A row is there among any more that come behind. -/
theorem Table.exists_of_marks {α κ : Type} {key : α → κ} {rows later : List (Row α)}
    (behind : marks key rows <+: marks key later) {row : Row α} (inside : row ∈ rows) :
    ∃ kept ∈ later, kept.id = row.id ∧ key kept.cells = key row.cells := by
  have marked : (row.id, key row.cells) ∈ marks key later :=
    behind.subset (List.mem_map_of_mem inside)
  obtain ⟨kept, there, same⟩ := List.mem_map.1 marked
  exact ⟨kept, there, congrArg Prod.fst same, congrArg Prod.snd same⟩

/-- The number of a device is found at its address if the first row at it has the number. -/
theorem deviceId?_eq_some_iff {store : Store} {address : Ipv4} {id : Int} :
    store.deviceId? address = .ok (some id) ↔
      (store.deviceRows.find? fun row => row.cells.address = some (addressKey address)).map (·.id) =
        some id := by
  unfold deviceId? deviceTable deviceRows
  cases store.devices? with
  | none => exact iff_of_false (fun found => nomatch found) (Option.some_ne_none _).symm
  | some table =>
    show Except.ok _ = Except.ok (some id) ↔ _
    rw [Except.ok.injEq]
    rfl

/-- The number of a port is found under its MAC address if the first row with it has the number. -/
theorem portId?_eq_some_iff {store : Store} {mac : Mac} {id : Int} :
    store.portId? mac = .ok (some id) ↔
      (store.portRows.find? fun row => row.cells.mac = some (toString mac)).map (·.id) =
        some id := by
  unfold portId? portTable portRows
  cases store.ports? with
  | none => exact iff_of_false (fun found => nomatch found) (Option.some_ne_none _).symm
  | some table =>
    show Except.ok _ = Except.ok (some id) ↔ _
    rw [Except.ok.injEq]
    rfl

/-- Rows that are the first ones of a later store are found in it under their numbers. -/
theorem Retains.retained {before after : Store} (retains : Retains before after) :
    Retained before after where
  device _ inside := Table.exists_of_marks retains.devices inside
  port _ inside := Table.exists_of_marks retains.ports inside
  deviceId address id found := by
    rw [deviceId?_eq_some_iff] at found ⊢
    exact Table.id_find?_of_marks retains.devices found
  portId mac id found := by
    rw [portId?_eq_some_iff] at found ⊢
    exact Table.id_find?_of_marks retains.ports found

end CableMap.Store
