import CableMap.Store.Table
import Mathlib.Data.List.Induction
import Mathlib.Data.List.Nodup

/-!
# Keyed tables

The rows of a table are told apart by a key that a function reads off their cells. A table is
keyed when its row numbers rise, none is above the last number given, and no two rows have one
key. Adding a row under a fresh key, changing rows without changing their keys, and removing rows
each keep a table keyed. Two keyed tables that answer every look-up alike are equal, and to put
a list of cells into a table twice is to put it once.
-/
namespace CableMap.Store.Table

variable {α κ : Type} {key : α → κ} {table : Table α}

/-- A key stands for at most one row of the table. -/
structure Keyed (key : α → κ) (table : Table α) : Prop where
  /-- Row numbers rise. -/
  rising : table.rows.Pairwise fun left right => left.id < right.id
  /-- Every row number was given. -/
  given : ∀ row ∈ table.rows, row.id ≤ table.lastId
  /-- No two rows have one key. -/
  distinct : table.rows.Pairwise fun left right => key left.cells ≠ key right.cells

/-! ## Keyed tables stay keyed -/

/-- A table that never had a row is keyed. -/
theorem Keyed.empty : (empty : Table α).Keyed key :=
  ⟨.nil, by simp [Table.empty], .nil⟩

/-- A row under a fresh key keeps a table keyed. -/
theorem Keyed.insert (keyed : table.Keyed key) {cells : α}
    (fresh : ∀ row ∈ table.rows, key row.cells ≠ key cells) : (table.insert cells).Keyed key := by
  constructor
  · refine List.pairwise_append.2 ⟨keyed.rising, List.pairwise_singleton _ _, ?_⟩
    intro left inside right last
    rw [List.mem_singleton.1 last]
    have bound := keyed.given left inside
    show left.id < table.lastId + 1
    omega
  · intro row inside
    show row.id ≤ table.lastId + 1
    rcases List.mem_append.1 inside with old | last
    · have bound := keyed.given row old
      omega
    · rw [List.mem_singleton.1 last]
      exact Int.le_refl _
  · refine List.pairwise_append.2 ⟨keyed.distinct, List.pairwise_singleton _ _, ?_⟩
    intro left inside right last
    rw [List.mem_singleton.1 last]
    exact fresh left inside

/-- Changes that leave the keys of the chosen rows as they are keep a table keyed. -/
theorem Keyed.update (keyed : table.Keyed key) {chosen : Row α → Bool} {change : α → α}
    (same : ∀ row ∈ table.rows, chosen row → key (change row.cells) = key row.cells) :
    (table.update chosen change).Keyed key := by
  have sameId : ∀ row : Row α,
      (if chosen row then { row with cells := change row.cells } else row).id = row.id := by
    intro row
    split <;> rfl
  have sameKey : ∀ row ∈ table.rows,
      key (if chosen row then { row with cells := change row.cells } else row).cells =
        key row.cells := by
    intro row inside
    split
    · exact same row inside ‹_›
    · rfl
  constructor
  · refine List.pairwise_map.2 (keyed.rising.imp ?_)
    intro left right rising
    rw [sameId, sameId]
    exact rising
  · intro row inside
    obtain ⟨old, stored, rfl⟩ := List.mem_map.1 inside
    rw [sameId]
    exact keyed.given old stored
  · refine List.pairwise_map.2 (keyed.distinct.imp_of_mem ?_)
    intro left right leftInside rightInside distinct
    rw [sameKey left leftInside, sameKey right rightInside]
    exact distinct

/-- Removing rows keeps a table keyed. -/
theorem Keyed.delete (keyed : table.Keyed key) (chosen : Row α → Bool) :
    (table.delete chosen).Keyed key :=
  ⟨keyed.rising.filter _, fun row inside => keyed.given row (List.mem_filter.1 inside |>.1),
    keyed.distinct.filter _⟩

/-- No two rows have one number. -/
theorem Keyed.nodup_ids (keyed : table.Keyed key) : (table.rows.map (·.id)).Nodup :=
  List.pairwise_map.2 (keyed.rising.imp fun rising => Int.ne_of_lt rising)

/-- Stored rows with one number are one row. -/
theorem Keyed.eq_of_id (keyed : table.Keyed key) {left right : Row α}
    (leftInside : left ∈ table.rows) (rightInside : right ∈ table.rows)
    (same : left.id = right.id) : left = right :=
  List.inj_on_of_nodup_map keyed.nodup_ids leftInside rightInside same

/-- Stored rows have one number exactly if they are one row. -/
theorem Keyed.id_inj (keyed : table.Keyed key) {left right : Row α}
    (leftInside : left ∈ table.rows) (rightInside : right ∈ table.rows) :
    left.id = right.id ↔ left = right := by
  constructor
  · exact keyed.eq_of_id leftInside rightInside
  · intro same
    rw [same]

/-- Which rows go depends on which of the stored rows are chosen. -/
theorem delete_congr {left right : Row α → Bool}
    (same : ∀ row ∈ table.rows, left row = right row) : table.delete left = table.delete right := by
  have kept : table.rows.filter (! left ·) = table.rows.filter (! right ·) := by
    apply List.filter_congr
    intro row inside
    rw [same row inside]
  rw [delete, delete, kept]

/-- A table stays as it is where none of its rows is removed. -/
theorem delete_of_none {chosen : Row α → Bool} (none : ∀ row ∈ table.rows, ¬ chosen row) :
    table.delete chosen = table := by
  have kept : table.rows.filter (! chosen ·) = table.rows := by
    apply List.filter_eq_self.2
    intro row inside
    simpa using none row inside
  rw [delete, kept]

/-- A stored row is found by its number. -/
theorem Keyed.find?_id (keyed : table.Keyed key) {row : Row α} (inside : row ∈ table.rows) :
    table.rows.find? (·.id = row.id) = some row := by
  cases found : table.rows.find? (·.id = row.id) with
  | none => exact absurd (decide_eq_true rfl) (List.find?_eq_none.1 found row inside)
  | some other =>
    have same : other.id = row.id := by simpa using List.find?_some found
    rw [keyed.eq_of_id (List.mem_of_find?_eq_some found) inside same]

/-! ## Looking up and saving by key -/

variable [DecidableEq κ]

/-- The first row with a key. -/
def rowAt? (key : α → κ) (table : Table α) (k : κ) : Option (Row α) :=
  table.find? fun row => key row.cells = k

/-- The rows with a key overwritten, or one row added where there is none. -/
def save (key : α → κ) (table : Table α) (k : κ) (change : α → α) (cells : α) : Table α :=
  if (table.rowAt? key k).isSome then table.update (fun row => key row.cells = k) change
  else table.insert cells

/-- The rows with the key of some cells replaced by them, or one row added where there is none. -/
def put (key : α → κ) (table : Table α) (cells : α) : Table α :=
  table.save key (key cells) (fun _ => cells) cells

/-- No row has a key that a look-up does not find. -/
theorem rowAt?_eq_none_iff {k : κ} :
    table.rowAt? key k = none ↔ ∀ row ∈ table.rows, key row.cells ≠ k := by
  simp [rowAt?, find?]

/-- Saving under a key that there is overwrites. -/
theorem save_of_found {k : κ} {row : Row α} (found : table.rowAt? key k = some row)
    (change : α → α) (cells : α) :
    table.save key k change cells = table.update (fun row => key row.cells = k) change := by
  rw [save, found, Option.isSome_some, if_pos rfl]

/-- Saving under a key that there is not adds. -/
theorem save_of_absent {k : κ} (absent : table.rowAt? key k = none) (change : α → α)
    (cells : α) : table.save key k change cells = table.insert cells := by
  rw [save, absent, Option.isSome_none, if_neg Bool.false_ne_true]

/-- Saving cells under their own key keeps a table keyed. -/
theorem Keyed.save (keyed : table.Keyed key) {k : κ} {change : α → α} {cells : α}
    (same : ∀ old, key old = k → key (change old) = k) (own : key cells = k) :
    (table.save key k change cells).Keyed key := by
  unfold Table.save
  split
  · refine keyed.update ?_
    intro row _ chosen
    rw [decide_eq_true_eq] at chosen
    rw [same row.cells chosen, chosen]
  · rename_i absent
    refine keyed.insert ?_
    rw [own]
    exact rowAt?_eq_none_iff.1 (Option.not_isSome_iff_eq_none.1 absent)

/-- Putting cells keeps a table keyed. -/
theorem Keyed.put (keyed : table.Keyed key) (cells : α) : (table.put key cells).Keyed key :=
  keyed.save (fun _ _ => rfl) rfl

/-- In a keyed table a look-up finds a row exactly if it is there under the key. -/
theorem Keyed.rowAt?_eq_some_iff (keyed : table.Keyed key) {k : κ} {row : Row α} :
    table.rowAt? key k = some row ↔ row ∈ table.rows ∧ key row.cells = k := by
  have distinct : (table.rows.map fun row => key row.cells).Nodup :=
    List.pairwise_map.2 keyed.distinct
  constructor
  · intro found
    exact ⟨List.mem_of_find?_eq_some found, by simpa using List.find?_some found⟩
  · rintro ⟨inside, own⟩
    cases found : table.rowAt? key k with
    | none => exact absurd own (rowAt?_eq_none_iff.1 found row inside)
    | some other =>
      have otherInside : other ∈ table.rows := List.mem_of_find?_eq_some found
      have otherOwn : key other.cells = k := by simpa using List.find?_some found
      rw [List.inj_on_of_nodup_map distinct otherInside inside (otherOwn.trans own.symm)]

/-- A look-up for the key of a stored row finds that row. -/
theorem Keyed.rowAt?_of_mem (keyed : table.Keyed key) {row : Row α} (inside : row ∈ table.rows) :
    table.rowAt? key (key row.cells) = some row :=
  keyed.rowAt?_eq_some_iff.2 ⟨inside, rfl⟩

/-- A table stays as it is where saving does not change the row under the key. -/
theorem Keyed.save_of_same (keyed : table.Keyed key) {k : κ} {row : Row α}
    (found : table.rowAt? key k = some row) {change : α → α} (same : change row.cells = row.cells)
    (cells : α) : table.save key k change cells = table := by
  have kept : (table.rows.map fun other =>
      if key other.cells = k then { other with cells := change other.cells } else other) =
        table.rows := by
    refine (List.map_congr_left ?_).trans (List.map_id table.rows)
    intro other inside
    by_cases own : key other.cells = k
    · have single : table.rowAt? key k = some other :=
        keyed.rowAt?_eq_some_iff.2 ⟨inside, own⟩
      obtain rfl : row = other := Option.some.inj (found.symm.trans single)
      rw [if_pos own, same]
      rfl
    · rw [if_neg own]
      rfl
  rw [save_of_found found, Table.update]
  simp only [decide_eq_true_eq, kept]

/-- To put cells that are stored already changes nothing. -/
theorem Keyed.put_of_stored (keyed : table.Keyed key) {row : Row α} (inside : row ∈ table.rows) :
    table.put key row.cells = table :=
  keyed.save_of_same (keyed.rowAt?_of_mem inside) rfl row.cells

/-- Two keyed tables with the same last number that answer every look-up alike are equal. -/
theorem Keyed.ext {left right : Table α} (leftKeyed : left.Keyed key)
    (rightKeyed : right.Keyed key) (same : ∀ k, left.rowAt? key k = right.rowAt? key k)
    (last : left.lastId = right.lastId) : left = right := by
  have members : ∀ row, row ∈ left.rows ↔ row ∈ right.rows := by
    intro row
    constructor
    · intro inside
      exact (rightKeyed.rowAt?_eq_some_iff.1 (same _ ▸ leftKeyed.rowAt?_of_mem inside)).1
    · intro inside
      exact (leftKeyed.rowAt?_eq_some_iff.1 (same _ ▸ rightKeyed.rowAt?_of_mem inside)).1
  have nodup : ∀ {table : Table α}, table.Keyed key → table.rows.Nodup := fun keyed =>
    keyed.rising.imp fun rising equal => by simp [equal] at rising
  have perm : left.rows.Perm right.rows :=
    (List.perm_ext_iff_of_nodup (nodup leftKeyed) (nodup rightKeyed)).2 members
  have rows : left.rows = right.rows := by
    refine perm.eq_of_pairwise ?_ leftKeyed.rising rightKeyed.rising
    intro a b _ _ ab ba
    omega
  cases left
  cases right
  simp_all

/-- A row added at the end is found where no row before it has the key. -/
theorem rowAt?_insert (cells : α) (k : κ) :
    (table.insert cells).rowAt? key k =
      (table.rowAt? key k).or (if key cells = k then some ⟨table.nextId, cells⟩ else none) := by
  simp only [rowAt?, find?, insert, List.find?_append, List.find?_singleton, decide_eq_true_eq]

/-- A look-up after rows were removed finds what it found before unless that was removed. -/
theorem Keyed.rowAt?_delete (keyed : table.Keyed key) (chosen : Row α → Bool) (k : κ) :
    (table.delete chosen).rowAt? key k = (table.rowAt? key k).filter (! chosen ·) := by
  ext row
  rw [(keyed.delete chosen).rowAt?_eq_some_iff, Option.filter_eq_some_iff,
    keyed.rowAt?_eq_some_iff]
  simp only [Table.delete, List.mem_filter]
  tauto

/-- A row that was found is not found after it was removed. -/
theorem Keyed.rowAt?_delete_found (keyed : table.Keyed key) {k : κ} {row : Row α}
    (found : table.rowAt? key k = some row) :
    (table.delete (·.id = row.id)).rowAt? key k = none := by
  rw [keyed.rowAt?_delete, found, Option.filter_some, decide_eq_true rfl]
  rfl

/-- A look-up after the rows with one key were changed, but not their keys, finds the row that it
found before, changed if it has that key. -/
theorem rowAt?_update {k : κ} {change : α → α} (same : ∀ old, key old = k → key (change old) = k)
    (other : κ) :
    (table.update (fun row => key row.cells = k) change).rowAt? key other =
      (table.rowAt? key other).map fun row =>
        if key row.cells = k then { row with cells := change row.cells } else row := by
  have stays : ((fun row : Row α => decide (key row.cells = other)) ∘ fun row =>
      if decide (key row.cells = k) then { row with cells := change row.cells } else row) =
        fun row => decide (key row.cells = other) := by
    funext row
    by_cases chosen : key row.cells = k
    · simp [chosen, same row.cells chosen]
    · simp [chosen]
  show List.find? _ (List.map _ table.rows) = _
  rw [List.find?_map, stays]
  simp only [decide_eq_true_eq]
  rfl

/-- The row that saving leaves under the key: the old row with its cells changed, or a new one. -/
def savedRow (key : α → κ) (table : Table α) (k : κ) (change : α → α) (cells : α) : Row α :=
  match table.rowAt? key k with
  | some row => { row with cells := change row.cells }
  | none => ⟨table.nextId, cells⟩

/-- What was saved is found under its key. -/
theorem rowAt?_save_self {k : κ} {change : α → α} {cells : α}
    (same : ∀ old, key old = k → key (change old) = k) (own : key cells = k) :
    (table.save key k change cells).rowAt? key k =
      some (table.savedRow key k change cells) := by
  unfold save savedRow
  cases found : table.rowAt? key k with
  | none => simp [rowAt?_insert, found, own]
  | some row =>
    have rowKey : key row.cells = k := by simpa using List.find?_some found
    simp only [Option.isSome_some, if_true]
    rw [rowAt?_update same, found, Option.map_some, if_pos rowKey]

/-- Cells that were put are found under their key. -/
theorem rowAt?_put_self (key : α → κ) (table : Table α) (cells : α) :
    ∃ row, (table.put key cells).rowAt? key (key cells) = some row ∧ row.cells = cells := by
  refine ⟨_, rowAt?_save_self (fun _ _ => rfl) rfl, ?_⟩
  rw [savedRow]
  split <;> rfl

/-- Saving under one key leaves every other look-up as it was. -/
theorem rowAt?_save_of_ne {k other : κ} {change : α → α} {cells : α}
    (same : ∀ old, key old = k → key (change old) = k) (own : key cells = k) (apart : other ≠ k) :
    (table.save key k change cells).rowAt? key other = table.rowAt? key other := by
  unfold save
  split
  · rw [rowAt?_update same]
    cases found : table.rowAt? key other with
    | none => rfl
    | some row =>
      have rowKey : key row.cells = other := by simpa using List.find?_some found
      rw [Option.map_some, if_neg (by rw [rowKey]; exact apart)]
  · rw [rowAt?_insert, own, if_neg apart.symm, Option.or_none]

/-- Saving where the key is found gives no new number. -/
theorem lastId_save_of_found {k : κ} (change : α → α) (cells : α)
    (found : (table.rowAt? key k).isSome) :
    (table.save key k change cells).lastId = table.lastId := by
  obtain ⟨row, stored⟩ := Option.isSome_iff_exists.1 found
  rw [save_of_found stored]
  rfl

/-- A row has a number exactly if the table has one with it. -/
theorem has_iff {id : Int} : table.has id ↔ ∃ row ∈ table.rows, row.id = id := by
  simp [has, any]

/-- Saving takes no row's number away. -/
theorem has_save {k : κ} {change : α → α} {cells : α} {id : Int} (stored : table.has id) :
    (table.save key k change cells).has id := by
  obtain ⟨row, inside, rfl⟩ := has_iff.1 stored
  rw [has_iff]
  unfold save
  split
  · refine ⟨_, List.mem_map_of_mem inside, ?_⟩
    split <;> rfl
  · exact ⟨row, List.mem_append_left _ inside, rfl⟩

/-- A row that saving leaves has the number and the key of an old one, or was added. -/
theorem mem_save {k : κ} {change : α → α} {cells : α}
    (same : ∀ old, key old = k → key (change old) = k) {row : Row α}
    (inside : row ∈ (table.save key k change cells).rows) :
    (∃ old ∈ table.rows, old.id = row.id ∧ key old.cells = key row.cells) ∨
      row = ⟨table.nextId, cells⟩ := by
  unfold save at inside
  split at inside
  · obtain ⟨old, stored, rfl⟩ := List.mem_map.1 inside
    refine .inl ⟨old, stored, ?_⟩
    by_cases chosen : key old.cells = k
    · simp [chosen, same old.cells chosen]
    · simp [chosen]
  · rcases List.mem_append.1 inside with old | last
    · exact .inl ⟨row, old, rfl, rfl⟩
    · exact .inr (List.mem_singleton.1 last)

/-! ## Putting a list of cells -/

/-- Some cells put one after the other. -/
def putAll (key : α → κ) (table : Table α) (list : List α) : Table α := list.foldl (put key) table

/-- Putting some cells keeps a table keyed. -/
theorem Keyed.putAll (keyed : table.Keyed key) (list : List α) :
    (table.putAll key list).Keyed key := by
  induction list generalizing table with
  | nil => exact keyed
  | cons cells list ih => exact ih (keyed.put cells)

/-- Putting cells keeps the number of the row under every key that there is. -/
theorem rowAt?_put_of_found {k : κ} {row : Row α} (found : table.rowAt? key k = some row)
    (cells : α) : ∃ later, (table.put key cells).rowAt? key k = some later ∧ later.id = row.id := by
  by_cases own : k = key cells
  · subst own
    refine ⟨_, rowAt?_save_self (fun _ _ => rfl) rfl, ?_⟩
    rw [savedRow, found]
  · exact ⟨row, (rowAt?_save_of_ne (fun _ _ => rfl) rfl own).trans found, rfl⟩

/-- Putting some cells keeps the number of the row under every key that there is. -/
theorem rowAt?_putAll_of_found {k : κ} {row : Row α} (found : table.rowAt? key k = some row)
    (list : List α) :
    ∃ later, (table.putAll key list).rowAt? key k = some later ∧ later.id = row.id := by
  induction list generalizing table row with
  | nil => exact ⟨row, found, rfl⟩
  | cons cells list ih =>
    obtain ⟨middle, middleFound, middleId⟩ := rowAt?_put_of_found found cells
    obtain ⟨later, laterFound, laterId⟩ := ih middleFound
    exact ⟨later, laterFound, laterId.trans middleId⟩

/-- Putting some cells leaves the row under a key that none of them has. -/
theorem rowAt?_putAll_of_not_mem {k : κ} {list : List α} (absent : ∀ cells ∈ list, key cells ≠ k) :
    (table.putAll key list).rowAt? key k = table.rowAt? key k := by
  induction list generalizing table with
  | nil => rfl
  | cons cells list ih =>
    have head : k ≠ key cells := (absent cells List.mem_cons_self).symm
    have tail : ∀ other ∈ list, key other ≠ k := fun other inside =>
      absent other (List.mem_cons_of_mem _ inside)
    exact (ih tail).trans (rowAt?_save_of_ne (fun _ _ => rfl) rfl head)

/-- The last of some cells that has a key. -/
def lastUnder? (key : α → κ) (list : List α) (k : κ) : Option α :=
  list.reverse.find? fun cells => key cells = k

/-- Cells at the end are the last under their key, and leave the others. -/
theorem lastUnder?_concat (key : α → κ) (list : List α) (last : α) (k : κ) :
    lastUnder? key (list ++ [last]) k =
      if key last = k then some last else lastUnder? key list k := by
  rw [lastUnder?, List.reverse_concat, List.find?_cons]
  by_cases own : key last = k <;> simp [own, lastUnder?]

/-- The last cells under a key are some of the list and have the key. -/
theorem mem_of_lastUnder? {list : List α} {k : κ} {cells : α}
    (last : lastUnder? key list k = some cells) : cells ∈ list ∧ key cells = k :=
  ⟨List.mem_reverse.1 (List.mem_of_find?_eq_some last), by simpa using List.find?_some last⟩

/-- No cells have a key under which there are no last ones. -/
theorem lastUnder?_eq_none_iff {list : List α} {k : κ} :
    lastUnder? key list k = none ↔ ∀ cells ∈ list, key cells ≠ k := by
  simp [lastUnder?]

/-- Under the key of some cells there are last ones. -/
theorem exists_lastUnder? (key : α → κ) {list : List α} {cells : α} (inside : cells ∈ list) :
    ∃ last, lastUnder? key list (key cells) = some last := by
  cases last : lastUnder? key list (key cells) with
  | none => exact absurd rfl (lastUnder?_eq_none_iff.1 last cells inside)
  | some final => exact ⟨final, rfl⟩

/-- After some cells were put, the row under a key that some of them have holds the last of
these. -/
theorem rowAt?_putAll_of_last (table : Table α) {list : List α} {k : κ} {cells : α}
    (last : lastUnder? key list k = some cells) :
    ∃ row, (table.putAll key list).rowAt? key k = some row ∧ row.cells = cells := by
  induction list using List.reverseRecOn with
  | nil => simp [lastUnder?] at last
  | append_singleton list final ih =>
    rw [putAll, List.foldl_concat]
    rw [lastUnder?_concat] at last
    by_cases own : key final = k
    · rw [if_pos own, Option.some.injEq] at last
      subst own
      rw [← last]
      exact rowAt?_put_self key (list.foldl (put key) table) final
    · rw [if_neg own] at last
      obtain ⟨row, found, holds⟩ := ih last
      exact ⟨row, (rowAt?_save_of_ne (fun _ _ => rfl) rfl (Ne.symm own)).trans found, holds⟩

/-- Putting cells under keys that there are gives no new number. -/
theorem lastId_putAll_of_found {list : List α}
    (found : ∀ cells ∈ list, (table.rowAt? key (key cells)).isSome) :
    (table.putAll key list).lastId = table.lastId := by
  induction list generalizing table with
  | nil => rfl
  | cons cells list ih =>
    have head := lastId_save_of_found (fun _ => cells) cells (found cells List.mem_cons_self)
    refine (ih ?_).trans head
    intro other inside
    obtain ⟨row, stored⟩ := Option.isSome_iff_exists.1
      (found other (List.mem_cons_of_mem _ inside))
    obtain ⟨later, laterFound, _⟩ := rowAt?_put_of_found stored cells
    exact Option.isSome_iff_exists.2 ⟨later, laterFound⟩

/-- To put some cells a second time changes nothing. -/
theorem Keyed.putAll_putAll (keyed : table.Keyed key) (list : List α) :
    (table.putAll key list).putAll key list = table.putAll key list := by
  have once := keyed.putAll list
  refine (once.putAll list).ext once ?_ (lastId_putAll_of_found ?_)
  · intro k
    cases last : lastUnder? key list k with
    | none => exact rowAt?_putAll_of_not_mem (lastUnder?_eq_none_iff.1 last)
    | some cells =>
      obtain ⟨row, found, holds⟩ := rowAt?_putAll_of_last table last
      obtain ⟨later, laterFound, laterHolds⟩ :=
        rowAt?_putAll_of_last (table.putAll key list) last
      obtain ⟨kept, keptFound, keptId⟩ := rowAt?_putAll_of_found found list
      rw [laterFound, Option.some.injEq] at keptFound
      subst keptFound
      rw [laterFound, found]
      obtain ⟨id, cells⟩ := row
      obtain ⟨laterId, laterCells⟩ := later
      simp_all
  · intro cells inside
    obtain ⟨final, last⟩ := exists_lastUnder? key inside
    obtain ⟨row, found, _⟩ := rowAt?_putAll_of_last table last
    exact Option.isSome_iff_exists.2 ⟨row, found⟩

/-- Cells under fresh keys, each under its own, become new rows at the end in their order. -/
theorem cells_putAll_of_fresh {list : List α} (distinct : (list.map key).Nodup)
    (fresh : ∀ row ∈ table.rows, ∀ cells ∈ list, key row.cells ≠ key cells) :
    (table.putAll key list).rows.map (·.cells) = table.rows.map (·.cells) ++ list := by
  induction list generalizing table with
  | nil => simp [putAll]
  | cons cells list ih =>
    rw [List.map_cons, List.nodup_cons] at distinct
    have absent : table.rowAt? key (key cells) = none :=
      rowAt?_eq_none_iff.2 fun row inside => fresh row inside cells List.mem_cons_self
    have added : table.put key cells = table.insert cells := save_of_absent absent _ _
    have later : ∀ row ∈ (table.insert cells).rows, ∀ other ∈ list, key row.cells ≠ key other := by
      intro row inside other otherInside
      rcases List.mem_append.1 inside with old | new
      · exact fresh row old other (List.mem_cons_of_mem _ otherInside)
      · rw [List.mem_singleton.1 new]
        exact fun equal => distinct.1 (equal ▸ List.mem_map_of_mem otherInside)
    have rest := ih distinct.2 later
    rw [putAll, List.foldl_cons, added]
    rw [putAll] at rest
    rw [rest, insert, List.map_append, List.append_assoc]
    rfl

/-- Cells of different keys become the rows of a table that never had one. -/
theorem cells_putAll_empty {list : List α} (distinct : (list.map key).Nodup) :
    ((Table.empty : Table α).putAll key list).rows.map (·.cells) = list :=
  cells_putAll_of_fresh distinct fun _ inside => absurd inside List.not_mem_nil

end CableMap.Store.Table
