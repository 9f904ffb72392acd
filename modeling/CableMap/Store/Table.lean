/-!
# Tables

A table holds rows in the order in which they were inserted. Each row has a number of its own;
numbers rise and are never given twice.
-/
namespace CableMap.Store

/-- A row of a table. -/
structure Row (α : Type) where
  /-- The number of the row. -/
  id : Int
  /-- What the row holds. -/
  cells : α
  deriving DecidableEq

/-- A table. -/
structure Table (α : Type) where
  /-- The rows, by rising number. -/
  rows : List (Row α)
  /-- The last number given to a row. -/
  lastId : Int
  deriving DecidableEq

namespace Table

variable {α : Type}

/-- A table that never had a row. -/
def empty : Table α := ⟨[], 0⟩

/-- The number that the next row takes. -/
def nextId (table : Table α) : Int := table.lastId + 1

/-- The table with one more row at its end. -/
def insert (table : Table α) (cells : α) : Table α :=
  ⟨table.rows ++ [⟨table.nextId, cells⟩], table.nextId⟩

/-- The table with every row that is chosen changed. -/
def update (table : Table α) (chosen : Row α → Bool) (change : α → α) : Table α :=
  { table with
    rows := table.rows.map fun row =>
      if chosen row then { row with cells := change row.cells } else row }

/-- The table without the rows that are chosen. -/
def delete (table : Table α) (chosen : Row α → Bool) : Table α :=
  { table with rows := table.rows.filter (! chosen ·) }

/-- The first row that is chosen. -/
def find? (table : Table α) (chosen : Row α → Bool) : Option (Row α) := table.rows.find? chosen

/-- Some row is chosen. -/
def any (table : Table α) (chosen : Row α → Bool) : Bool := table.rows.any chosen

/-- How many rows are chosen. -/
def count (table : Table α) (chosen : Row α → Bool) : Nat := table.rows.countP chosen

/-- A row has this number. -/
def has (table : Table α) (id : Int) : Bool := table.any (·.id = id)

end Table

end CableMap.Store
