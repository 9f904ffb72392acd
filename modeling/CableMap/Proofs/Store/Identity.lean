import CableMap.Proofs.Store.Cabling
import CableMap.Proofs.Store.Devices

/-!
# Row numbers as identities

A table gives each number once and no statement changes the key of a row, so a number that was
given belongs to one key for good. Whether it still belongs to it is a matter of removals only: a
row keeps its number, whatever is stored over it, until an operation removes it, and what removes
devices, ports and links can be told from the operation and the store that it meets.
-/
namespace CableMap.Store

/-! ## The numbers of one table -/

namespace Table

variable {α κ : Type} {key : α → κ} {earlier middle later table : Table α}

/-- What a table may come to: numbers may have been given, and a row whose number is not new was
there before, under the same key. -/
structure Becomes (key : α → κ) (earlier later : Table α) : Prop where
  /-- No number is taken back. -/
  given : earlier.lastId ≤ later.lastId
  /-- A row that is not new was there before. -/
  old : ∀ row ∈ later.rows, row.id ≤ earlier.lastId →
    ∃ before ∈ earlier.rows, before.id = row.id ∧ key before.cells = key row.cells

/-- A table may come to itself. -/
theorem Becomes.refl (key : α → κ) (table : Table α) : table.Becomes key table where
  given := Int.le_refl _
  old row inside _ := ⟨row, inside, rfl, rfl⟩

/-- What a table may come to in two goes it may come to. -/
theorem Becomes.trans (first : earlier.Becomes key middle) (second : middle.Becomes key later) :
    earlier.Becomes key later where
  given := first.given.trans second.given
  old row inside known := by
    obtain ⟨between, there, id, same⟩ := second.old row inside (known.trans first.given)
    have betweenKnown : between.id ≤ earlier.lastId := by omega
    obtain ⟨before, stored, id', same'⟩ := first.old between there betweenKnown
    exact ⟨before, stored, id'.trans id, same'.trans same⟩

/-- A table may lose rows. -/
theorem becomes_delete (key : α → κ) (table : Table α) (chosen : Row α → Bool) :
    table.Becomes key (table.delete chosen) where
  given := Int.le_refl _
  old row inside _ := ⟨row, (List.mem_filter.1 inside).1, rfl, rfl⟩

/-- A row that a table has after numbers were given is an old one if its number is. -/
theorem Becomes.has (becomes : earlier.Becomes key later) {id : Int} (stored : later.has id)
    (known : id ≤ earlier.lastId) : earlier.has id := by
  obtain ⟨row, inside, rfl⟩ := has_iff.1 stored
  obtain ⟨before, there, same, _⟩ := becomes.old row inside known
  exact has_iff.2 ⟨before, there, same⟩

/-- Of a keyed table those rows go that are chosen. -/
theorem Keyed.has_delete_iff (keyed : table.Keyed key) {row : Row α} (inside : row ∈ table.rows)
    (chosen : Row α → Bool) : (table.delete chosen).has row.id ↔ ¬ chosen row := by
  rw [has_iff]
  constructor
  · rintro ⟨other, kept, same⟩
    obtain ⟨stored, stays⟩ := List.mem_filter.1 kept
    rw [keyed.eq_of_id stored inside same] at stays
    simpa using stays
  · intro stays
    have kept : row ∈ (table.delete chosen).rows := List.mem_filter.2 ⟨inside, by simpa using stays⟩
    exact ⟨row, kept, rfl⟩

variable [DecidableEq κ]

/-- Of a keyed table the row under one key goes exactly if the row under that key is removed. -/
theorem Keyed.has_delete_found_iff (keyed : table.Keyed key) {k other : κ} {row gone : Row α}
    (found : table.rowAt? key k = some row) (removed : table.rowAt? key other = some gone) :
    (table.delete (·.id = gone.id)).has row.id ↔ ¬ other = k := by
  obtain ⟨inside, under⟩ := keyed.rowAt?_eq_some_iff.1 found
  obtain ⟨goneInside, goneUnder⟩ := keyed.rowAt?_eq_some_iff.1 removed
  rw [keyed.has_delete_iff inside, decide_eq_true_eq, not_iff_not]
  constructor
  · intro same
    have equal : row = gone := keyed.eq_of_id inside goneInside same
    rw [← under, ← goneUnder, equal]
  · intro same
    rw [same, found] at removed
    rw [Option.some.inj removed]

/-- A table may store cells under their key. -/
theorem becomes_save (table : Table α) {k : κ} {change : α → α} {cells : α}
    (same : ∀ old, key old = k → key (change old) = k) :
    table.Becomes key (table.save key k change cells) where
  given := by
    unfold save
    split
    · exact Int.le_refl _
    · have next : table.nextId = table.lastId + 1 := rfl
      show table.lastId ≤ table.nextId
      omega
  old row inside known := by
    rcases mem_save same inside with there | rfl
    · exact there
    · have next : table.nextId = table.lastId + 1 := rfl
      have known : table.nextId ≤ table.lastId := known
      omega

/-- In a keyed table a number is found under a key exactly if a row has both. -/
theorem Keyed.id_rowAt?_iff (keyed : table.Keyed key) {k : κ} {id : Int} :
    (table.rowAt? key k).map (·.id) = some id ↔
      ∃ row ∈ table.rows, key row.cells = k ∧ row.id = id := by
  rw [Option.map_eq_some_iff]
  constructor
  · rintro ⟨row, found, own⟩
    obtain ⟨inside, under⟩ := keyed.rowAt?_eq_some_iff.1 found
    exact ⟨row, inside, under, own⟩
  · rintro ⟨row, inside, under, own⟩
    exact ⟨row, keyed.rowAt?_eq_some_iff.2 ⟨inside, under⟩, own⟩

/-- A number that is found under a key was given. -/
theorem Keyed.id_rowAt?_le (keyed : table.Keyed key) {k : κ} {id : Int}
    (found : (table.rowAt? key k).map (·.id) = some id) : id ≤ table.lastId := by
  obtain ⟨row, inside, _, own⟩ := keyed.id_rowAt?_iff.1 found
  rw [← own]
  exact keyed.given row inside

/-- A number that was found under a key is found under no other later. -/
theorem Becomes.key_eq (becomes : earlier.Becomes key later) (keyed : earlier.Keyed key)
    (laterKeyed : later.Keyed key) {k other : κ} {id : Int}
    (start : (earlier.rowAt? key k).map (·.id) = some id)
    (found : (later.rowAt? key other).map (·.id) = some id) : k = other := by
  obtain ⟨row, inside, under, own⟩ := keyed.id_rowAt?_iff.1 start
  obtain ⟨last, there, lastUnder, lastOwn⟩ := laterKeyed.id_rowAt?_iff.1 found
  have known : last.id ≤ earlier.lastId := lastOwn.trans_le (keyed.id_rowAt?_le start)
  obtain ⟨before, stored, same, kept⟩ := becomes.old last there known
  have equal : before = row := keyed.eq_of_id stored inside (by omega)
  rw [← under, ← lastUnder, ← kept, equal]

/-- A number that was found under a key is still found there exactly if some row has it. -/
theorem Becomes.id_rowAt?_iff_has (becomes : earlier.Becomes key later)
    (keyed : earlier.Keyed key) (laterKeyed : later.Keyed key) {k : κ} {id : Int}
    (start : (earlier.rowAt? key k).map (·.id) = some id) :
    (later.rowAt? key k).map (·.id) = some id ↔ later.has id := by
  constructor
  · intro found
    obtain ⟨row, inside, _, own⟩ := laterKeyed.id_rowAt?_iff.1 found
    exact has_iff.2 ⟨row, inside, own⟩
  · intro stored
    obtain ⟨row, inside, own⟩ := has_iff.1 stored
    have found : (later.rowAt? key (key row.cells)).map (·.id) = some id :=
      laterKeyed.id_rowAt?_iff.2 ⟨row, inside, rfl, own⟩
    rwa [becomes.key_eq keyed laterKeyed start found]

/-- A number that is found under a key before and after was found there in between. -/
theorem Becomes.id_rowAt?_between (first : earlier.Becomes key middle)
    (second : middle.Becomes key later) (keyed : earlier.Keyed key) (middleKeyed : middle.Keyed key)
    (laterKeyed : later.Keyed key) {k : κ} {id : Int}
    (start : (earlier.rowAt? key k).map (·.id) = some id)
    (found : (later.rowAt? key k).map (·.id) = some id) :
    (middle.rowAt? key k).map (·.id) = some id := by
  have stored : later.has id :=
    ((first.trans second).id_rowAt?_iff_has keyed laterKeyed start).1 found
  have known : id ≤ middle.lastId := (keyed.id_rowAt?_le start).trans first.given
  exact (first.id_rowAt?_iff_has keyed middleKeyed start).2 (second.has stored known)

end Table

/-! ## The numbers of three tables -/

namespace Tables

variable {tables earlier middle later : Tables}

/-- What three tables may come to, each on its own. -/
structure Becomes (earlier later : Tables) : Prop where
  devices : earlier.devices.Becomes (·.address) later.devices
  ports : earlier.ports.Becomes (·.mac) later.ports
  links : earlier.links.Becomes LinkCells.ends later.links

/-- Tables may come to themselves. -/
theorem Becomes.refl (tables : Tables) : tables.Becomes tables :=
  ⟨.refl _ _, .refl _ _, .refl _ _⟩

/-- What tables may come to in two goes they may come to. -/
theorem Becomes.trans (first : earlier.Becomes middle) (second : middle.Becomes later) :
    earlier.Becomes later :=
  ⟨first.devices.trans second.devices, first.ports.trans second.ports,
    first.links.trans second.links⟩

/-- To store a device gives no number again. -/
theorem becomes_saveDevice (tables : Tables) (device : Device) :
    tables.Becomes (tables.saveDevice device) :=
  { Becomes.refl tables with devices := Table.becomes_save _ fun _ _ => rfl }

/-- To store a port gives no number again. -/
theorem becomes_savePort (tables : Tables) (port : Port) (mac : Mac) :
    tables.Becomes (tables.savePort port mac) :=
  { Becomes.refl tables with ports := Table.becomes_save _ fun _ _ => rfl }

/-- To store a link gives no number again. -/
theorem becomes_saveLink (tables : Tables) (link : Link) :
    tables.Becomes (tables.saveLink link) :=
  { Becomes.refl tables with links := Table.becomes_save _ fun _ own => own }

/-- To remove links gives no number again. -/
theorem becomes_deleteLinks (tables : Tables) (chosen : Row LinkCells → Bool) :
    tables.Becomes (tables.deleteLinks chosen) :=
  { Becomes.refl tables with links := Table.becomes_delete _ _ _ }

/-- To remove ports gives no number again. -/
theorem becomes_deletePorts (tables : Tables) (chosen : Row PortCells → Bool) :
    tables.Becomes (tables.deletePorts chosen) :=
  { Becomes.refl tables with
    ports := Table.becomes_delete _ _ _
    links := Table.becomes_delete _ _ _ }

/-- To remove a device with its ports gives no number again. -/
theorem becomes_deleteDevice (tables : Tables) (id : Int) :
    tables.Becomes (tables.deleteDevice id) :=
  { becomes_deletePorts tables (isPortOf id) with devices := Table.becomes_delete _ _ _ }

/-- To plug a cable in or out gives no number again. -/
theorem becomes_plug (tables : Tables) (here : Row PortCells) (sighting : Sighting) :
    tables.Becomes (tables.plug here sighting) := by
  unfold plug
  split
  · exact (becomes_deleteLinks _ _).trans (becomes_saveLink _ _)
  · exact becomes_deleteLinks _ _

/-- A notice gives numbers and leaves what they belong to. -/
theorem becomes_take (tables : Tables) (notice : Notice) :
    tables.Becomes (tables.take notice) := by
  cases notice with
  | device device => exact becomes_saveDevice tables device
  | port sighting =>
    obtain ⟨here, _, _, sighted⟩ := sight_eq_plug tables sighting
    show tables.Becomes (tables.sight sighting)
    rw [sighted]
    exact (becomes_savePort tables _ _).trans (becomes_plug _ here sighting)

/-- To take notices in gives no number again. -/
theorem becomes_takeAll (tables : Tables) (notices : List Notice) :
    tables.Becomes (tables.takeAll notices) := by
  induction notices generalizing tables with
  | nil => exact .refl tables
  | cons notice notices ih => exact (becomes_take tables notice).trans (ih (tables.take notice))

end Tables

/-- The operation forgets everything. -/
def Operation.resets : Operation → Bool
  | .change made => made.resets
  | _ => false

namespace Tables

variable {tables : Tables}

/-- An operation that does not forget everything gives numbers and leaves what they belong to. -/
theorem becomes_afterOperation (tables : Tables) {operation : Operation}
    (kept : operation.resets = false) : tables.Becomes (tables.afterOperation operation) := by
  cases operation with
  | change made =>
    have kept : made.resets = false := kept
    exact afterChange_cases made (.refl tables) (fun _ => becomes_takeAll tables _)
      (becomes_deleteDevice tables) (becomes_deletePorts tables) (becomes_deleteLinks tables)
      fun resets => absurd (kept.symm.trans resets) Bool.false_ne_true
  | saveDevice device => exact becomes_saveDevice tables device
  | savePort port =>
    exact afterOperation_savePort port (.refl tables) fun mac _ => becomes_savePort tables port mac
  | saveLink link =>
    exact afterOperation_saveLink link (.refl tables) fun _ _ => becomes_saveLink tables link
  | unlinkPort port => exact becomes_deleteLinks tables _
  | unlinkBeside port peer => exact becomes_deleteLinks tables _

/-- Operations of which none resets the store give no number again. -/
theorem becomes_afterOperations (tables : Tables) {operations : List Operation}
    (kept : ∀ operation ∈ operations, operation.resets = false) :
    tables.Becomes (tables.afterOperations operations) := by
  induction operations generalizing tables with
  | nil => exact .refl tables
  | cons operation operations ih =>
    have first := becomes_afterOperation tables (kept operation List.mem_cons_self)
    have rest := ih (tables.afterOperation operation) fun other inside =>
      kept other (List.mem_cons_of_mem _ inside)
    exact first.trans rest

end Tables

end CableMap.Store
