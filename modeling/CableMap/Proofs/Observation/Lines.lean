import CableMap.Proofs.Observation.Reading

/-!
# The lines of a description are read back

The line of every attribute is legible: its row is one or three numbers, and no value but a name
could mention another identifier. So the text of a description is read as its attributes, in
whatever order they are printed.
-/
namespace CableMap.Description

open Binding (PlainRow OneLine Quiet Legible isMark)

/-! ## Rows -/

/-- The row of a value of the system is a plain one, numbered or not. -/
theorem plainRow_systemRow (isNumbered : Bool) : PlainRow (systemRow isNumbered).toList := by
  cases isNumbered
  · exact ⟨by simp [systemRow], by decide, by decide, by decide⟩
  · exact ⟨by simp [systemRow], by decide, by decide, by decide⟩

/-- A number is a plain row. -/
theorem plainRow_number (n : Int) : PlainRow (toString n).toList := by
  have undotted : '.' ∉ (toString n).toList := by
    intro found
    rcases Text.toString_int_chars n _ found with digit | minus
    · exact absurd digit (by decide)
    · exact absurd minus (by decide)
  refine ⟨fun c inside => ?_, fun first => ?_, fun last => ?_, ?_⟩
  · exact (Text.toString_int_chars n c inside).imp_right .inr
  · exact undotted (List.mem_of_mem_head? first)
  · exact undotted (List.mem_of_getLast? last)
  · rw [List.count_eq_zero.mpr undotted]
    decide

/-- The row of a neighbour has three numbers. -/
theorem toList_row (neighbour : Neighbour) :
    neighbour.row.toList = Nat.toDigits 10 neighbour.timeMark ++ '.' ::
      (Nat.toDigits 10 neighbour.localPort ++ '.' :: Nat.toDigits 10 neighbour.remoteIndex) := by
  simp [Neighbour.row, toString]

/-- No number of a row holds a dot. -/
theorem undotted_toDigits (n : Nat) : '.' ∉ Nat.toDigits 10 n := fun found =>
  absurd (Text.isDigit_toDigits n _ found) (by decide)

/-- A time mark, a port and an index make a plain row. -/
theorem plainRow_row (neighbour : Neighbour) : PlainRow neighbour.row.toList := by
  rw [toList_row]
  refine ⟨fun c inside => ?_, ?_, ?_, ?_⟩
  · simp only [List.mem_append, List.mem_cons] at inside
    rcases inside with digit | rfl | digit | rfl | digit
    · exact .inl (Text.isDigit_toDigits _ c digit)
    · exact .inr (.inl rfl)
    · exact .inl (Text.isDigit_toDigits _ c digit)
    · exact .inr (.inl rfl)
    · exact .inl (Text.isDigit_toDigits _ c digit)
  · rw [List.head?_append_of_ne_nil _ Nat.toDigits_ne_nil]
    exact fun first => undotted_toDigits _ (List.mem_of_mem_head? first)
  · rw [List.getLast?_append, List.getLast?_cons, List.getLast?_append, List.getLast?_cons]
    cases last : (Nat.toDigits 10 neighbour.remoteIndex).getLast? with
    | none => exact absurd (List.getLast?_eq_none_iff.mp last) Nat.toDigits_ne_nil
    | some c =>
      have digit := Text.isDigit_toDigits _ c (List.mem_of_getLast? last)
      simp only [Option.getD_some, Option.some_or, ne_eq, Option.some.injEq]
      rintro rfl
      exact absurd digit (by decide)
  · simp [List.count_append, List.count_eq_zero.mpr (undotted_toDigits _)]

/-! ## Attributes -/

/-- The name of an attribute is clear, if it has one. -/
def Attribute.Clear : Attribute → Prop
  | .systemName _ name => ClearName Oid.localSystemName name
  | .interfaceName interface => ClearName Oid.interfaceName interface.name
  | _ => True

/-- What an attribute has to be to belong to a description. -/
def Attribute.Belongs (description : Description) : Attribute → Prop
  | .systemName isNumbered name =>
    isNumbered = description.isNumbered ∧ name = description.name
  | .supported isNumbered mask =>
    isNumbered = description.isNumbered ∧ mask = description.supported
  | .enabled isNumbered mask => isNumbered = description.isNumbered ∧ mask = description.enabled
  | .interfaceNumber interface => interface ∈ description.interfaces
  | .interfaceSpeed interface => interface ∈ description.interfaces
  | .interfaceMac interface => interface ∈ description.interfaces
  | .interfaceStatus interface => interface ∈ description.interfaces
  | .interfaceName interface => interface ∈ description.interfaces
  | .chassisSubtype neighbour => neighbour ∈ description.neighbours
  | .chassis neighbour => neighbour ∈ description.neighbours

/-- The attributes of a description are those that belong to it. -/
theorem mem_attributes {description : Description} {item : Attribute} :
    item ∈ description.attributes ↔ item.Belongs description := by
  cases item <;>
    simp [attributes, systemAttributes, Interface.attributes, Neighbour.attributes,
      Attribute.Belongs]

/-- A description can be printed in its own order. -/
theorem ordered_attributes (description : Description) :
    description.Ordered description.attributes where
  all := .refl _
  numbers := by
    have interfaces (interfaces : List Interface) :
        (interfaces.flatMap Interface.attributes).filter Attribute.isNumber =
          interfaces.map .interfaceNumber := by
      induction interfaces with
      | nil => rfl
      | cons interface interfaces ih => exact congrArg (Attribute.interfaceNumber interface :: ·) ih
    have neighbours (neighbours : List Neighbour) :
        (neighbours.flatMap Neighbour.attributes).filter Attribute.isNumber = [] := by
      rw [List.filter_flatMap]
      exact List.flatMap_eq_nil_iff.mpr fun _ _ => rfl
    rw [attributes, List.filter_append, List.filter_append, interfaces, neighbours,
      List.append_nil]
    rfl
  subtypes := by
    have interfaces (interfaces : List Interface) :
        (interfaces.flatMap Interface.attributes).filter Attribute.isSubtype = [] := by
      rw [List.filter_flatMap]
      exact List.flatMap_eq_nil_iff.mpr fun _ _ => rfl
    have neighbours (neighbours : List Neighbour) :
        (neighbours.flatMap Neighbour.attributes).filter Attribute.isSubtype =
          neighbours.map .chassisSubtype := by
      induction neighbours with
      | nil => rfl
      | cons neighbour neighbours ih =>
        exact congrArg (Attribute.chassisSubtype neighbour :: ·) ih
    rw [attributes, List.filter_append, List.filter_append, interfaces, neighbours]
    rfl

/-- In a clear description every attribute is clear. -/
theorem Clear.each {description : Description} (clear : description.Clear) :
    ∀ item ∈ description.attributes, item.Clear := by
  intro item inside
  have belongs := mem_attributes.mp inside
  cases item with
  | systemName isNumbered name =>
    obtain ⟨-, rfl⟩ := belongs
    exact clear.name
  | interfaceName interface => exact clear.names interface belongs
  | _ => trivial

/-- A binding with a plain row and a quiet value can be read back from its line. -/
theorem legible_of_quiet {binding : Binding} (observed : binding.oid ∈ Catalog.observed)
    (row : PlainRow binding.index.toList) (known : ∀ tag, binding.type ≠ .other tag)
    (quiet : Quiet binding.value.toList) : Legible binding where
  observed := observed
  row := row
  known := known
  oneLine := quiet.oneLine
  unmentioned _ earlier :=
    quiet.unmentioned (Catalog.full_isNumeric _ (Catalog.mem_of_mem_before earlier))

/-- A binding with a plain row and a clear name can be read back from its line. -/
theorem legible_of_clear {binding : Binding} {name : String}
    (observed : binding.oid ∈ Catalog.observed) (row : PlainRow binding.index.toList)
    (known : ∀ tag, binding.type ≠ .other tag)
    (value : binding.value = String.ofList (inQuotes name.toList))
    (clear : ClearName binding.oid name) : Legible binding where
  observed := observed
  row := row
  known := known
  oneLine := by
    rw [value, String.toList_ofList]
    refine ⟨?_, ?_⟩
    · simpa [inQuotes] using clear.1
    · rw [inQuotes, List.cons_append, List.getLast?_cons, List.getLast?_concat]
      decide
  unmentioned other earlier := by
    have numeric := Catalog.full_isNumeric _ (Catalog.mem_of_mem_before earlier)
    have opened : other.mention? (inQuotes name.toList) = Oid.mentionFrom other.toList 0
        (name.toList ++ ['"']) :=
      Oid.mentionFrom_append_of_not_mem numeric.1 (by decide : '.' ∉ ['"'])
    have unmentioned : Oid.mentionFrom other.toList 0 name.toList = none :=
      Option.isNone_iff_eq_none.mp (Option.isSome_eq_false_iff.mp (clear.2 other earlier))
    have foreign : '"' ∉ other.toList := numeric.not_mem (by decide)
    have closed := Oid.mentionFrom_append_cons foreign (by decide) (Nat.zero_le name.toList.length) []
    rw [value, String.toList_ofList, opened, closed, unmentioned]
    rfl

/-- A MAC address is printed under a type that has a name of its own. -/
theorem known_type (style : MacStyle) : ∀ tag, style.type ≠ .other tag := by
  intro tag
  unfold MacStyle.type
  split <;> simp

/-- Every attribute is printed under one of the identifiers that observations are made of. -/
theorem Attribute.observed (item : Attribute) : item.binding.oid ∈ Catalog.observed := by
  cases item <;> simp [Attribute.binding, Catalog.observed]

/-- The line of every attribute with a clear name can be read back. -/
theorem Attribute.legible {item : Attribute} (clear : item.Clear) : item.binding.Legible := by
  have plain : ∀ {tag}, ValueType.string ≠ .other tag ∧ ValueType.hexString ≠ .other tag ∧
      ValueType.integer ≠ .other tag ∧ ValueType.gauge32 ≠ .other tag := by
    simp
  have quietMask (mask : MaskOctets) :
      Quiet (String.ofList (blankSeparated mask.pieces mask.blankBehind)).toList := by
    rw [String.toList_ofList]
    exact Binding.quiet_blankSeparated (Binding.areOctets_mask mask) mask.blankBehind
  have quietMac (style : MacStyle) (mac : Mac) :
      Quiet (String.ofList (style.print mac)).toList := by
    rw [String.toList_ofList]
    exact Binding.quiet_print style mac
  have quietNumber (label? : Option Label) (n : Int) : Quiet (labelled label? n).toList :=
    fun c inside => (Binding.solid_labelled label? n c inside).quiet
  cases item with
  | systemName isNumbered name =>
    exact legible_of_clear (observed _) (plainRow_systemRow isNumbered) (fun _ => plain.1) rfl clear
  | supported isNumbered mask =>
    exact legible_of_quiet (observed _) (plainRow_systemRow isNumbered) (fun _ => plain.2.1)
      (quietMask mask)
  | enabled isNumbered mask =>
    exact legible_of_quiet (observed _) (plainRow_systemRow isNumbered) (fun _ => plain.2.1)
      (quietMask mask)
  | interfaceNumber interface =>
    exact legible_of_quiet (observed _) (plainRow_number _) (fun _ => plain.2.2.1)
      (quietNumber none interface.number)
  | interfaceSpeed interface =>
    exact legible_of_quiet (observed _) (plainRow_number _) (fun _ => plain.2.2.2)
      (quietNumber none interface.speed.toNat)
  | interfaceMac interface =>
    exact legible_of_quiet (observed _) (plainRow_number _) (known_type _)
      (quietMac interface.macStyle interface.mac)
  | interfaceStatus interface =>
    exact legible_of_quiet (observed _) (plainRow_number _) (fun _ => plain.2.2.1)
      (quietNumber interface.label? interface.status)
  | interfaceName interface =>
    exact legible_of_clear (observed _) (plainRow_number _) (fun _ => plain.1) rfl clear
  | chassisSubtype neighbour =>
    exact legible_of_quiet (observed _) (plainRow_row _) (fun _ => plain.2.2.1)
      (quietNumber neighbour.label? 4)
  | chassis neighbour =>
    exact legible_of_quiet (observed _) (plainRow_row _) (known_type _)
      (quietMac neighbour.macStyle neighbour.mac)

/-- The attributes as they are read. -/
def readings (items : List Attribute) : List Binding := items.map (·.binding.bare)

/-- The text of a description is read as its attributes. -/
theorem value_readAll {description : Description} (clear : description.Clear)
    {items : List Attribute} (all : items.Perm description.attributes) (host : Ipv4)
    (log : Log.Logger) :
    (Binding.readAll .full host log (print items)).value = readings items := by
  have legible : ∀ binding ∈ items.map (·.binding), Binding.Legible binding := by
    intro binding inside
    obtain ⟨item, among, rfl⟩ := List.mem_map.mp inside
    exact Attribute.legible (clear.each item (all.mem_iff.mp among))
  rw [print, Binding.value_readAll legible, List.map_map]
  rfl

end CableMap.Description
