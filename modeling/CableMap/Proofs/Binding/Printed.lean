import CableMap.Proofs.Binding.Batch
import CableMap.Proofs.Binding.Line

/-!
# Printed bindings are read back

Bindings are printed one to a line. With any catalog in which they were found, the text is read as
the bindings that it prints, in their order, as long as each can be told apart in its line: no part
holds the sign that ends it or loses a mark, no line is broken, and no line mentions an identifier
that stands in front of its own in the catalog. Signs and marks elsewhere do no harm.
-/
namespace CableMap.Binding

/-- The tags that stand for a type of their own. -/
def knownTags : List String := ["STRING", "Hex-STRING", "INTEGER", "Gauge32"]

/-- A tag is read as the type that prints it, unless that is a type by a tag that stands for
another. -/
theorem ofTag_tag {type : ValueType} (own : ∀ tag, type = .other tag → tag ∉ knownTags) :
    ValueType.ofTag type.tag = type := by
  cases type with
  | other tag =>
    have unknown := own tag rfl
    simp only [knownTags, List.mem_cons, List.not_mem_nil, or_false, not_or] at unknown
    obtain ⟨text, octets, integer, gauge⟩ := unknown
    rw [ValueType.tag, ValueType.ofTag] <;> assumption
  | _ => rfl

/-- A binding that is printed with a catalog is read back. -/
structure Printable (catalog : Catalog) (binding : Binding) : Prop where
  among : binding.oid ∈ catalog
  /-- The row holds no equals sign and neither begins nor ends with a dot or a space. -/
  row : '=' ∉ binding.index.toList ∧ Text.Bare isRowMark binding.index.toList
  /-- The tag holds no colon and neither begins nor ends with an equals sign or a space. -/
  tag : ':' ∉ binding.type.tag.toList ∧ Text.Bare isTypeMark binding.type.tag.toList
  /-- A type by its tag is none of the types that have a tag of their own. -/
  type : ∀ tag, binding.type = .other tag → tag ∉ knownTags
  /-- The value neither begins nor ends with a colon, a space or a quote. -/
  value : Text.Bare isMark binding.value.toList
  /-- No part holds a newline, and the value does not end with a return. -/
  noNewline : '\n' ∉ binding.index.toList ∧ '\n' ∉ binding.type.tag.toList
  oneLine : OneLine binding.value.toList
  /-- The line mentions no identifier that stands in front of its own in the catalog. -/
  unmentioned : ∀ other ∈ catalog.before binding.oid, other.isMentionedIn binding.line = false

variable {catalog : Catalog} {binding : Binding}

/-- The parts of a printable binding can be told apart. -/
theorem Printable.separable (printable : Printable catalog binding) : Separable binding where
  equals := printable.row.1
  row := printable.row.2
  colon := printable.tag.1
  tag := printable.tag.2
  type := ofTag_tag printable.type

/-- A printable binding has no marks around its value. -/
theorem Printable.bare_eq (printable : Printable catalog binding) : binding.bare = binding := by
  rw [bare, printable.value.stripBoth_eq, String.ofList_toList]

/-- The line of a printable binding is read as the binding. -/
theorem Printable.value_ofLine? (printable : Printable catalog binding)
    (named : binding.oid.toList ≠ []) (host : Ipv4) (log : Log.Logger) :
    (ofLine? catalog host log binding.line.toList).value = some binding := by
  have unmentioned : ∀ other ∈ catalog.before binding.oid,
      other.mention? binding.line.toList = none := fun other earlier =>
    Option.isSome_eq_false_iff.mp (printable.unmentioned other earlier)
      |> Option.isNone_iff_eq_none.mp
  rw [value_ofLine?_of_separable printable.among named printable.separable unmentioned,
    printable.bare_eq]

/-- Bindings printed with a newline between each two are read back, in their order. -/
theorem value_readAll_printed {bindings : List Binding}
    (names : ∀ oid ∈ catalog, oid ≠ "" ∧ '\n' ∉ oid.toList)
    (printable : ∀ binding ∈ bindings, Printable catalog binding) (host : Ipv4)
    (log : Log.Logger) :
    (readAll catalog host log ("\n".intercalate (bindings.map line))).value = bindings := by
  have named {binding : Binding} (inside : binding ∈ bindings) : binding.oid.toList ≠ [] := by
    rw [Ne, String.toList_eq_nil_iff]
    exact (names _ (printable binding inside).among).1
  have lines : Text.lines ("\n".intercalate (bindings.map line)).toList =
      bindings.map fun binding => binding.line.toList := by
    have joined : ("\n".intercalate (bindings.map line)).toList =
        ['\n'].intercalate (bindings.map fun binding => binding.line.toList) := by
      rw [String.toList_intercalate, List.map_map]
      rfl
    rw [joined]
    refine Text.lines_intercalate _ fun row inside => ?_
    obtain ⟨binding, among, rfl⟩ := List.mem_map.mp inside
    have printed := printable binding among
    have whole := oneLine_line (names _ printed.among).2 printed.noNewline.1 printed.noNewline.2
      printed.oneLine
    refine ⟨?_, whole.noNewline, whole.noReturn⟩
    rw [toList_line]
    exact List.append_ne_nil_of_left_ne_nil (named among) _
  have each : ∀ binding ∈ bindings,
      (ofLine? catalog host log binding.line.toList).value = some binding := fun binding among =>
    (printable binding among).value_ofLine? (named among) host log
  rw [value_readAll_eq, lines, List.filterMap_map]
  exact (List.filterMap_congr each).trans List.filterMap_some

/-- A name, an address and a counter, with signs and marks inside their parts. -/
def markedBindings : List Binding :=
  [⟨Oid.localSystemName, "", .string, "core = a: b"⟩,
    ⟨Oid.remoteChassis, "0.1: 2.3", .hexString, "02 00 : 0A"⟩,
    ⟨Oid.interfaceIndex, "7", .other "Counter = 64", "1 \"or\" 2"⟩]

/-- Each of the marked bindings is read back from its line. -/
theorem markedBindings_printable : ∀ binding ∈ markedBindings, Printable .full binding := by
  intro binding inside
  rcases (by simpa [markedBindings] using inside) with rfl | rfl | rfl
  all_goals exact {
    among := by decide +kernel
    row := by decide +kernel
    tag := by decide +kernel
    type := fun tag same => by cases same <;> decide
    value := by decide +kernel
    noNewline := by decide +kernel
    oneLine := ⟨by decide +kernel, by decide +kernel⟩
    unmentioned := by decide +kernel }

/-- The three are read back. -/
theorem markedBindings_read_back :
    (∀ oid ∈ Catalog.full, oid ≠ "" ∧ '\n' ∉ oid.toList) ∧
      (readAll .full ⟨10, 0, 0, 1⟩ .root ("\n".intercalate (markedBindings.map line))).value =
        markedBindings := by
  have names : ∀ oid ∈ Catalog.full, oid ≠ "" ∧ '\n' ∉ oid.toList := by decide +kernel
  exact ⟨names, value_readAll_printed names markedBindings_printable _ _⟩

end CableMap.Binding
