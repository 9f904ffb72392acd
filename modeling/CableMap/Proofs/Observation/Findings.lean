import CableMap.Proofs.Observation.Columns
import CableMap.Proofs.Observation.Lines
import Mathlib.Data.List.Nodup

/-!
# What the attributes of a description are found to be

Identifier and row tell the attributes of a description apart, so each is read from its own line,
wherever that stands among the others. An interface is found to be its port, and a neighbour is
seen.
-/
namespace CableMap.Description

variable {description : Description} {items : List Attribute}

/-! ## Looking attributes up -/

/-- A binding is found by its identifier and its row if no other has both. -/
theorem lookup?_eq_some {bindings : List Binding} {binding : Binding} {oid : Oid} {row : String}
    (among : binding ∈ bindings) (ofOid : binding.oid = oid) (inRow : binding.index = row)
    (only : ∀ other ∈ bindings, other.oid = oid → other.index = row → other = binding) :
    Binding.lookup? bindings oid row = some binding := by
  unfold Binding.lookup?
  cases found : bindings.find? fun other =>
      other.oid = oid && other.index = row with
  | none => simpa [ofOid, inRow] using List.find?_eq_none.mp found binding among
  | some other =>
    have same := List.find?_some found
    simp only [Bool.and_eq_true, decide_eq_true_eq] at same
    rw [only other (List.mem_of_find?_eq_some found) same.1 same.2]

/-- No two integers have the same text. -/
theorem toString_int_inj {left right : Int} (same : toString left = toString right) :
    left = right := by
  have read := Text.integer?_toString left
  rw [same, Text.integer?_toString] at read
  exact (Option.some.inj read).symm

/-- The row of a neighbour falls into its three numbers. -/
theorem splitOn_row (neighbour : Neighbour) : neighbour.row.toList.splitOn '.' =
    [Nat.toDigits 10 neighbour.timeMark, Nat.toDigits 10 neighbour.localPort,
      Nat.toDigits 10 neighbour.remoteIndex] := by
  simp only [toList_row, List.splitOn_append_cons_self,
    List.splitOn_eq_singleton (undotted_toDigits _), List.singleton_append]

/-- The rows of neighbours tell them apart. -/
theorem row_inj {left right : Neighbour} (same : left.row = right.row) :
    (left.timeMark, left.localPort, left.remoteIndex) =
      (right.timeMark, right.localPort, right.remoteIndex) := by
  have digits : Function.Injective (Nat.toDigits 10) := by
    intro m n same
    have read := Text.natural?_toDigits m
    rw [same, Text.natural?_toDigits] at read
    exact (Option.some.inj read).symm
  have pieces := splitOn_row left
  rw [same, splitOn_row right] at pieces
  simp only [List.cons.injEq, and_true] at pieces
  rw [digits pieces.1, digits pieces.2.1, digits pieces.2.2]

/-- The place of an attribute's identifier among those that observations are made of. -/
def Attribute.place : Attribute → Nat
  | .systemName .. => 0
  | .supported .. => 1
  | .enabled .. => 2
  | .interfaceNumber _ => 3
  | .interfaceSpeed _ => 4
  | .interfaceMac _ => 5
  | .interfaceStatus _ => 6
  | .interfaceName _ => 7
  | .chassisSubtype _ => 8
  | .chassis _ => 9

/-- Attributes under one identifier have one place. -/
theorem Attribute.place_eq {left right : Attribute}
    (same : left.binding.oid = right.binding.oid) : left.place = right.place := by
  have distinct : Catalog.observed.Nodup := by decide +kernel
  have placed (item : Attribute) : Catalog.observed[item.place]? = some item.binding.oid := by
    cases item <;> rfl
  have small : left.place < Catalog.observed.length := by
    cases left <;> simp [Attribute.place, Catalog.observed]
  exact (List.getElem?_inj small distinct).mp ((placed left).trans (same ▸ (placed right).symm))

/-- No two attributes of a description have the same identifier and the same row. -/
theorem eq_of_key {left right : Attribute} (leftIn : left ∈ description.attributes)
    (rightIn : right ∈ description.attributes) (oid : left.binding.oid = right.binding.oid)
    (row : left.binding.index = right.binding.index) : left = right := by
  have place := Attribute.place_eq oid
  have leftBelongs := mem_attributes.mp leftIn
  have rightBelongs := mem_attributes.mp rightIn
  have interfaces {i j : Interface} (left : i ∈ description.interfaces)
      (right : j ∈ description.interfaces) (row : toString i.number = toString j.number) : i = j :=
    List.inj_on_of_nodup_map description.interfaces_distinct left right (toString_int_inj row)
  have neighbours {m n : Neighbour} (left : m ∈ description.neighbours)
      (right : n ∈ description.neighbours) (row : m.row = n.row) : m = n :=
    List.inj_on_of_nodup_map description.neighbours_distinct left right (row_inj row)
  -- Attributes of different kinds have different places.
  cases left <;> cases right <;> simp [Attribute.place] at place
  case systemName.systemName =>
    obtain ⟨rfl, rfl⟩ := leftBelongs
    obtain ⟨rfl, rfl⟩ := rightBelongs
    rfl
  case supported.supported =>
    obtain ⟨rfl, rfl⟩ := leftBelongs
    obtain ⟨rfl, rfl⟩ := rightBelongs
    rfl
  case enabled.enabled =>
    obtain ⟨rfl, rfl⟩ := leftBelongs
    obtain ⟨rfl, rfl⟩ := rightBelongs
    rfl
  case interfaceNumber.interfaceNumber =>
    exact congrArg _ (interfaces leftBelongs rightBelongs row)
  case interfaceSpeed.interfaceSpeed =>
    exact congrArg _ (interfaces leftBelongs rightBelongs row)
  case interfaceMac.interfaceMac =>
    exact congrArg _ (interfaces leftBelongs rightBelongs row)
  case interfaceStatus.interfaceStatus =>
    exact congrArg _ (interfaces leftBelongs rightBelongs row)
  case interfaceName.interfaceName =>
    exact congrArg _ (interfaces leftBelongs rightBelongs row)
  case chassisSubtype.chassisSubtype =>
    exact congrArg _ (neighbours leftBelongs rightBelongs row)
  case chassis.chassis =>
    exact congrArg _ (neighbours leftBelongs rightBelongs row)

/-- Every attribute is read from its own line, wherever that stands. -/
theorem value_attribute?_readings (all : items.Perm description.attributes) (item : Attribute)
    (belongs : item.Belongs description) {α : Type} (log : Log.Logger)
    (read? : Binding → Traced (Option α)) :
    (Binding.attribute? (readings items) item.binding.oid item.binding.index log read?).value =
      (read? item.binding.bare).value := by
  have among := mem_attributes.mpr belongs
  have inside : item.binding.bare ∈ readings items := List.mem_map_of_mem (all.mem_iff.mpr among)
  refine Binding.value_attribute? (lookup?_eq_some inside (Binding.bare_oid _)
    (Binding.bare_index _) fun other otherIn oid row => ?_) log read?
  obtain ⟨otherItem, otherAmong, rfl⟩ := List.mem_map.mp otherIn
  rw [Binding.bare_oid] at oid
  rw [Binding.bare_index] at row
  rw [eq_of_key (all.mem_iff.mp otherAmong) among oid row]

/-! ## The findings -/

/-- The finding that an attribute gives. The other attributes of an interface and of a neighbour
belong to the finding of their row. -/
def Attribute.finding? : Attribute → Option Finding
  | .systemName _ name => some (.name (bareName name))
  | .supported _ mask => some (.supported mask.first.toNat)
  | .enabled _ mask => some (.enabled mask.first.toNat)
  | .interfaceNumber interface => some (.port (interface.port (bareName interface.name)))
  | .chassisSubtype neighbour => some (.neighbour neighbour.seen)
  | _ => none

/-- A labelled number has nothing around it to strip. -/
theorem bare_labelled {binding : Binding} {label? : Option Label} {n : Int}
    (printed : binding.value = labelled label? n) : binding.bare.value = labelled label? n := by
  rw [Binding.bare, printed, Binding.stripBoth_of_solid (Binding.solid_labelled label? n),
    String.ofList_toList]

/-- Of a printed MAC address the quotes and blanks around it are stripped. -/
theorem bare_print {binding : Binding} {style : MacStyle} {mac : Mac}
    (printed : binding.value = String.ofList (style.print mac)) :
    binding.bare.value = String.ofList (style.core mac) := by
  rw [Binding.bare, printed, String.toList_ofList, Binding.stripBoth_print]

/-- Of a name in quotes the quotes are stripped, and the marks that the name begins and ends with.
-/
theorem bare_inQuotes {binding : Binding} {name : String}
    (printed : binding.value = String.ofList (inQuotes name.toList)) :
    binding.bare.value = bareName name := by
  rw [Binding.bare, printed, String.toList_ofList, Binding.stripBoth_inQuotes, bareName]

/-- The port of an interface is made of its attributes. -/
theorem value_portOfBindings (all : items.Perm description.attributes) {interface : Interface}
    (among : interface ∈ description.interfaces) (log : Log.Logger) :
    (Port.ofBindings (readings items) interface.number log).value =
      interface.port (bareName interface.name) := by
  have mac : (Binding.attribute? (readings items) Oid.interfaceMac (toString interface.number) log
      (·.mac? .either log)).value = some interface.mac := by
    refine (value_attribute?_readings all (.interfaceMac interface) among log _).trans ?_
    exact Binding.value_mac? interface.macStyle rfl (bare_print rfl) interface.mac_some _ log
  have status : (Binding.attribute? (readings items) Oid.interfaceStatus
      (toString interface.number) log (·.status? interface.number log)).value =
        some interface.status := by
    refine (value_attribute?_readings all (.interfaceStatus interface) among log _).trans ?_
    rw [Binding.value_status? rfl, bare_labelled rfl]
    exact Binding.enumerated?_labelled interface.label? interface.status_fits
  have speed : (Binding.attribute? (readings items) Oid.interfaceSpeed
      (toString interface.number) log (·.speed? interface.number log)).value =
        some interface.speed := by
    refine (value_attribute?_readings all (.interfaceSpeed interface) among log _).trans ?_
    have bare : (Attribute.interfaceSpeed interface).binding.bare.value =
        labelled none (interface.speed.toNat : Int) := bare_labelled rfl
    have read : Text.unsigned? Text.limit32 (Text.trim (labelled none
        (interface.speed.toNat : Int)).toList) = some interface.speed.toNat :=
      Binding.unsigned?_speed interface.speed
    rw [Binding.value_speed? rfl, bare, read, Option.map_some, UInt32.ofNat_toNat]
  have name : (Binding.attribute? (readings items) Oid.interfaceName (toString interface.number)
      log (·.name? log)).value = some (bareName interface.name) := by
    refine (value_attribute?_readings all (.interfaceName interface) among log _).trans ?_
    rw [Binding.value_name? rfl, bare_inQuotes rfl]
  simp only [Port.ofBindings, Traced.value_bind, Traced.value_pure, mac, status, speed, name]
  rfl

/-- The second number of its row is the interface on which a neighbour is seen. -/
theorem interfaceOf?_row (neighbour : Neighbour) :
    CableMap.Neighbour.interfaceOf? neighbour.row = some (neighbour.localPort : Int) := by
  rw [CableMap.Neighbour.interfaceOf?, splitOn_row]
  dsimp only
  rw [Text.signed?, Text.integer?_toDigits]
  simp [neighbour.localPort_fits]

/-- The number of the way to identify a chassis by a MAC address is read with or without its
label. -/
theorem ofString_labelled (label? : Option Label) :
    ChassisSubtype.ofString (labelled label? 4) = .known .macAddress := by
  rw [ChassisSubtype.ofString, Binding.enumerated?_labelled label? (by decide)]
  rfl

/-- A neighbour is seen from its two attributes. -/
theorem value_neighbourOfBinding? (all : items.Perm description.attributes)
    {neighbour : Neighbour} (among : neighbour ∈ description.neighbours) (log : Log.Logger) :
    (CableMap.Neighbour.ofBinding? (readings items)
      (Attribute.chassisSubtype neighbour).binding.bare log).value = some neighbour.seen := by
  have mac : (Binding.attribute? (readings items) Oid.remoteChassis neighbour.row log
      (·.mac? .colons log)).value = some neighbour.mac := by
    refine (value_attribute?_readings all (.chassis neighbour) among log _).trans ?_
    exact Binding.value_mac? neighbour.macStyle rfl (bare_print rfl) neighbour.mac_some _ log
  have type : (Attribute.chassisSubtype neighbour).binding.bare.type = .integer := rfl
  have subtype : ChassisSubtype.ofString (Attribute.chassisSubtype neighbour).binding.bare.value =
      .known .macAddress := by
    rw [bare_labelled rfl, ofString_labelled]
  have row : (Attribute.chassisSubtype neighbour).binding.bare.index = neighbour.row := rfl
  rw [CableMap.Neighbour.ofBinding?, if_pos type, if_pos subtype, Traced.value_bind, row, mac,
    interfaceOf?_row]
  rfl

/-- An interface is a port by its number. -/
theorem value_portOfBinding? (all : items.Perm description.attributes) {interface : Interface}
    (among : interface ∈ description.interfaces) (log : Log.Logger) :
    (Port.ofBinding? (readings items) (Attribute.interfaceNumber interface).binding.bare
      log).value = some (interface.port (bareName interface.name)) := by
  have type : (Attribute.interfaceNumber interface).binding.bare.type = .integer := rfl
  have bare : (Attribute.interfaceNumber interface).binding.bare.value =
      labelled none interface.number := bare_labelled rfl
  rw [Port.ofBinding?, if_pos type, bare, Binding.enumerated?_labelled none interface.number_fits]
  dsimp only
  rw [Traced.value_bind, value_portOfBindings all among]
  rfl

/-- Capabilities are read as the first of their octets. -/
theorem value_capabilities? {binding : Binding} {mask : MaskOctets}
    (type : binding.type = .hexString)
    (printed : binding.value = String.ofList (blankSeparated mask.pieces mask.blankBehind))
    (log : Log.Logger) :
    (binding.bare.capabilities? log).value = some (mask.first.toNat : Int) := by
  have value : binding.bare.value = String.ofList ([' '].intercalate mask.pieces) := by
    rw [Binding.bare, printed, String.toList_ofList,
      Binding.stripBoth_blankSeparated (Binding.areOctets_mask mask)]
  rw [Binding.value_capabilities? (binding.bare_type.trans type), value, String.toList_ofList,
    Binding.hexMask?_pieces]

/-- A binding of another identifier gives no finding. -/
theorem value_findingOfBinding?_of_other {bindings : List Binding} {binding : Binding} (oid : Oid)
    (ofOid : binding.oid = oid)
    (other : oid ∉ Finding.sources) (log : Log.Logger) :
    (Finding.ofBinding? bindings log binding).value = none := by
  rw [Finding.ofBinding?_of_other (ofOid ▸ other)]
  rfl

/-- Every attribute gives its finding. -/
theorem value_findingOfBinding? (all : items.Perm description.attributes) (item : Attribute)
    (belongs : item.Belongs description) (log : Log.Logger) :
    (Finding.ofBinding? (readings items) log item.binding.bare).value = item.finding? := by
  cases item with
  | supported isNumbered mask =>
    have oid : (Attribute.supported isNumbered mask).binding.bare.oid =
        Oid.localCapabilitiesSupported := rfl
    have read := value_capabilities? (rfl : (Attribute.supported isNumbered mask).binding.type =
      .hexString) rfl log
    rw [Finding.ofBinding?, if_pos oid, Traced.value_bind, read]
    rfl
  | enabled isNumbered mask =>
    have oid : (Attribute.enabled isNumbered mask).binding.bare.oid =
        Oid.localCapabilitiesEnabled := rfl
    have read := value_capabilities? (rfl : (Attribute.enabled isNumbered mask).binding.type =
      .hexString) rfl log
    rw [Finding.ofBinding?, oid, if_neg (by decide), if_pos rfl, Traced.value_bind, read]
    rfl
  | systemName isNumbered name =>
    have oid : (Attribute.systemName isNumbered name).binding.bare.oid = Oid.localSystemName := rfl
    have read : ((Attribute.systemName isNumbered name).binding.bare.name? log).value =
        some (bareName name) := by
      rw [Binding.value_name? rfl, bare_inQuotes rfl]
    rw [Finding.ofBinding?, oid, if_neg (by decide), if_neg (by decide), if_pos rfl,
      Traced.value_bind, read]
    rfl
  | interfaceNumber interface =>
    have oid : (Attribute.interfaceNumber interface).binding.bare.oid = Oid.interfaceIndex := rfl
    have read := value_portOfBinding? all belongs log
    rw [Finding.ofBinding?_of_index oid, Traced.value_bind, read]
    rfl
  | chassisSubtype neighbour =>
    have oid : (Attribute.chassisSubtype neighbour).binding.bare.oid =
        Oid.remoteChassisSubtype := rfl
    have read := value_neighbourOfBinding? all belongs log
    rw [Finding.ofBinding?_of_subtype oid, Traced.value_bind, read]
    rfl
  | interfaceSpeed interface =>
    exact value_findingOfBinding?_of_other Oid.interfaceSpeed rfl (by decide) log
  | interfaceMac interface =>
    exact value_findingOfBinding?_of_other Oid.interfaceMac rfl (by decide) log
  | interfaceStatus interface =>
    exact value_findingOfBinding?_of_other Oid.interfaceStatus rfl (by decide) log
  | interfaceName interface =>
    exact value_findingOfBinding?_of_other Oid.interfaceName rfl (by decide) log
  | chassis neighbour =>
    exact value_findingOfBinding?_of_other Oid.remoteChassis rfl (by decide) log

end CableMap.Description
