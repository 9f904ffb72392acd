import CableMap.Oid
import CableMap.Text.Blank
import CableMap.Text.Decimal
import CableMap.Text.Search

/-!
# Bindings

A binding is one value that a host reported: the identifier it was found under, the row of the
table it belongs to, and the value with its type. Its printed form is a line of walk output.
-/
namespace CableMap

/-- The type that a walk prints before a value. -/
inductive ValueType
  /-- Text. -/
  | string
  /-- Octets in hexadecimal. -/
  | hexString
  /-- An integer, with or without its label. -/
  | integer
  /-- A gauge of 32 bits. -/
  | gauge32
  /-- Any other type, by its tag. -/
  | other (tag : String)
  deriving DecidableEq

namespace ValueType

/-- The tag of a type. -/
def tag : ValueType → String
  | .string => "STRING"
  | .hexString => "Hex-STRING"
  | .integer => "INTEGER"
  | .gauge32 => "Gauge32"
  | .other tag => tag

/-- The type of a tag. -/
def ofTag (tag : String) : ValueType :=
  match tag with
  | "STRING" => .string
  | "Hex-STRING" => .hexString
  | "INTEGER" => .integer
  | "Gauge32" => .gauge32
  | tag => .other tag

instance : ToString ValueType := ⟨tag⟩

end ValueType

/-- The integer that a value writes: a bare number, or a label with the number in parentheses,
blanks around either aside. -/
def enumerated? (value : String) : Option Int :=
  let text := Text.trim value.toList
  match Text.signed? text with
  | some n => some n
  | none => do
    let (_, opened) ← Text.cutAt? '(' text
    let (inner, _) ← Text.cutAt? ')' opened.tail
    Text.signed? (Text.trim inner)

/-- A value that a host reported. -/
structure Binding where
  /-- The identifier of the catalog that it was found under. -/
  oid : Oid
  /-- The row of the table, empty if the identifier names no table. -/
  index : String
  /-- The type of the value. -/
  type : ValueType
  /-- The value as text. -/
  value : String
  deriving DecidableEq

namespace Binding

/-- The line that a walk prints for a binding. -/
def line (binding : Binding) : String :=
  let row := if binding.index.isEmpty then "" else "." ++ binding.index
  s!"{binding.oid}{row} = {binding.type}: {binding.value}"

instance : ToString Binding := ⟨line⟩

/-- The first binding of an identifier and a row. -/
def lookup? (bindings : List Binding) (oid : Oid) (index : String) : Option Binding :=
  bindings.find? fun binding => binding.oid = oid && binding.index = index

/-- All bindings of an identifier, in order. -/
def column (bindings : List Binding) (oid : Oid) : List Binding :=
  bindings.filter fun binding => binding.oid = oid

end Binding

end CableMap
