import CableMap.Proofs.Observation.Columns
import Mathlib.Data.List.Forall2

/-!
# Rows that keep to themselves

A binding of an attribute belongs to one interface, the one whose number is its row. Wherever it is
put among the bindings of a host, the device, the neighbours and the ports of all other interfaces
stay as they are. Of its own interface it can change this attribute and no other, and nothing if a
binding of the same attribute and row stands in front of it.
-/
namespace CableMap

/-- The attributes of an interface that make its port. -/
inductive Port.Field
  /-- The MAC address. Without one the port is dropped. -/
  | mac
  /-- The operating status. -/
  | status
  /-- The speed. -/
  | speed
  /-- The name. -/
  | name
  deriving DecidableEq

namespace Port.Field

/-- The identifier of an attribute. -/
def oid : Field → Oid
  | mac => Oid.interfaceMac
  | status => Oid.interfaceStatus
  | speed => Oid.interfaceSpeed
  | name => Oid.interfaceName

/-- A port as if nothing was reported of an attribute. Two ports differ at most in it exactly if
they are the same without it. -/
def erase (field : Field) (port : Port) : Port :=
  let unknown := ofInterface port.interface
  match field with
  | mac => { port with mac? := unknown.mac? }
  | status => { port with status := unknown.status }
  | speed => { port with maxSpeed := unknown.maxSpeed }
  | name => { port with name := unknown.name }

/-- No two fields of a port are read under one identifier. -/
theorem oid_inj {field other : Field} (same : field.oid = other.oid) : field = other := by
  revert same
  cases field <;> cases other <;> decide

/-- Attributes stand apart from what devices and neighbours are made of, and from the numbers of
interfaces. -/
theorem oid_apart (field : Field) :
    ∀ oid ∈ Catalog.ofDevice ++ Oid.interfaceIndex :: Catalog.ofNeighbours, field.oid ≠ oid := by
  cases field <;> decide

/-- No field of a port is read under an identifier that gives findings. -/
theorem oid_not_source (field : Field) : field.oid ∉ Finding.sources := by
  cases field <;> decide

end Port.Field

/-! ## Bindings with one more among them -/

namespace Binding

variable {before later : List Binding} {binding : Binding}

/-- A binding stands in its own column only. -/
theorem column_insert {oid : Oid} (foreign : binding.oid ≠ oid) :
    column (before ++ binding :: later) oid = column (before ++ later) oid := by
  rw [column, List.filter_append, List.filter_cons_of_neg (by simpa using foreign),
    ← List.filter_append, column]

/-- A binding is found only by its identifier and its row. -/
theorem lookup?_insert {oid : Oid} {index : String}
    (foreign : ¬ (binding.oid = oid ∧ binding.index = index)) :
    lookup? (before ++ binding :: later) oid index = lookup? (before ++ later) oid index := by
  rw [lookup?, List.find?_append, List.find?_cons_of_neg (by simpa using foreign),
    ← List.find?_append, lookup?]

/-- A binding is not found behind another with its identifier and its row. -/
theorem lookup?_insert_of_found {oid : Oid} {index : String}
    (found : (lookup? before oid index).isSome) :
    lookup? (before ++ binding :: later) oid index = lookup? (before ++ later) oid index := by
  obtain ⟨earlier, found⟩ := Option.isSome_iff_exists.mp found
  rw [lookup?] at found
  rw [lookup?, lookup?, List.find?_append, List.find?_append, found]
  rfl

end Binding

namespace Port

variable {left right : List Binding} {interface : Int} {log : Log.Logger}

/-- Bindings among which the same is found for the row of an interface give the same port. -/
theorem ofBindings_congr_of_lookup?
    (same : ∀ oid, Binding.lookup? left oid (toString interface) =
      Binding.lookup? right oid (toString interface)) :
    ofBindings left interface log = ofBindings right interface log := by
  unfold ofBindings
  dsimp only
  simp only [Binding.attribute?_congr_of_found (same _)]

/-- The port of an interface has what is read of its attributes. -/
theorem value_ofBindings (bindings : List Binding) (interface : Int) (log : Log.Logger) :
    (ofBindings bindings interface log).value =
      let row := toString interface
      let unknown := ofInterface interface
      { unknown with
        mac? := (Binding.attribute? bindings Oid.interfaceMac row log (·.mac? .either log)).value
        status := (Binding.attribute? bindings Oid.interfaceStatus row log
          (·.status? interface log)).value.getD unknown.status
        maxSpeed := (Binding.attribute? bindings Oid.interfaceSpeed row log
          (·.speed? interface log)).value.getD unknown.maxSpeed
        name := (Binding.attribute? bindings Oid.interfaceName row log
          (·.name? log)).value.getD unknown.name } := rfl

/-- Bindings that agree on the columns of all attributes but one give ports that differ at most in
that one. -/
theorem erase_ofBindings_congr {field : Field}
    (same : ∀ other : Field, other ≠ field →
      Binding.column left other.oid = Binding.column right other.oid) :
    field.erase (ofBindings left interface log).value =
      field.erase (ofBindings right interface log).value := by
  have mac (apart : .mac ≠ field) := Binding.attribute?_congr (α := Mac) (same .mac apart)
  have status (apart : .status ≠ field) := Binding.attribute?_congr (α := Int) (same .status apart)
  have speed (apart : .speed ≠ field) := Binding.attribute?_congr (α := UInt32) (same .speed apart)
  have name (apart : .name ≠ field) := Binding.attribute?_congr (α := String) (same .name apart)
  simp only [Field.oid] at mac status speed name
  simp only [value_ofBindings]
  cases field with
  | mac => simp only [Field.erase, status (by decide), speed (by decide), name (by decide)]
  | status => simp only [Field.erase, mac (by decide), speed (by decide), name (by decide)]
  | speed => simp only [Field.erase, mac (by decide), status (by decide), name (by decide)]
  | name => simp only [Field.erase, mac (by decide), status (by decide), speed (by decide)]

end Port

/-- What is found for a binding depends on what is found among all of them. -/
theorem Finding.ofBinding?_congr_of_lookup? {left right : List Binding}
    (same : ∀ oid index, Binding.lookup? left oid index = Binding.lookup? right oid index) :
    ofBinding? left = ofBinding? right := by
  have ports : Port.ofBindings left = Port.ofBindings right := by
    funext interface log
    exact Port.ofBindings_congr_of_lookup? fun oid => same oid _
  have chassis (index : String) := Binding.attribute?_congr_of_found (α := Mac)
    (same Oid.remoteChassis index)
  funext log binding
  simp only [ofBinding?, Port.ofBinding?, ports, Neighbour.ofBinding?, chassis]

/-- Lists that are related member by member keep the same members if each two that are related are
equal or both dropped. -/
theorem filter_eq_of_forall₂ {α : Type} {R : α → α → Prop} {left right : List α} {keep : α → Bool}
    (same : ∀ old new, R old new → new = old ∨ keep old = false ∧ keep new = false)
    (related : List.Forall₂ R left right) : right.filter keep = left.filter keep := by
  induction related with
  | nil => rfl
  | @cons old new left right pair _ ih =>
    rcases same old new pair with rfl | ⟨oldGone, newGone⟩
    · rw [List.filter_cons, List.filter_cons, ih]
    · rw [List.filter_cons_of_neg (by simp [newGone]), List.filter_cons_of_neg (by simp [oldGone]), ih]

namespace Observation

/-- Two ports differ at most in one attribute, and only if their interface has a number that is
written as a row. -/
def Beside (field : Port.Field) (row : String) (old new : Port) : Prop :=
  field.erase new = field.erase old ∧ (toString old.interface ≠ row → new = old)

/-- Some bindings and some others of a host say the same but for one attribute in one row. -/
structure Confined (host : Ipv4) (log : Log.Logger) (field : Port.Field) (row : String)
    (left right : List Binding) : Prop where
  /-- The device is the same. -/
  device : (ofBindings host right log).value.device = (ofBindings host left log).value.device
  /-- The neighbours are the same. -/
  neighbours :
    (ofBindings host right log).value.neighbours = (ofBindings host left log).value.neighbours
  /-- The ports of other rows are the same, in the same order. -/
  others : (ofBindings host right log).value.ports.filter (toString ·.interface ≠ row) =
    (ofBindings host left log).value.ports.filter (toString ·.interface ≠ row)
  /-- Interface by interface, those without a port included, nothing but the attribute differs. -/
  beside : List.Forall₂ (Beside field row) (interfaces host left log) (interfaces host right log)
  /-- Whether a port is kept depends on its MAC address alone. -/
  kept : (ofBindings host left log).value.ports =
      (interfaces host left log).filter (·.mac?.isSome) ∧
    (ofBindings host right log).value.ports = (interfaces host right log).filter (·.mac?.isSome)
  /-- So if the attribute is not the MAC address, port by port nothing but the attribute differs. -/
  paired : field ≠ .mac → List.Forall₂ (Beside field row)
    (ofBindings host left log).value.ports (ofBindings host right log).value.ports

variable {field : Port.Field} {row : String}

/-- A port that differs in one field has the same number. -/
theorem Beside.interface_eq {old new : Port} (beside : Beside field row old new) :
    new.interface = old.interface := by
  have same := congrArg Port.interface beside.1
  cases field <;> exact same

/-- A port that differs in a field other than its MAC address has the same MAC address. -/
theorem Beside.mac?_eq {old new : Port} (beside : Beside field row old new) (other : field ≠ .mac) :
    new.mac? = old.mac? := by
  have same := congrArg Port.mac? beside.1
  cases field with
  | mac => exact absurd rfl other
  | _ => exact same

/-- A binding of an attribute changes nothing but this attribute in its row. -/
theorem beside_insert (host : Ipv4) (log : Log.Logger) (before later : List Binding)
    (field : Port.Field) (row : String) (type : ValueType) (value : String) :
    List.Forall₂ (Beside field row) (interfaces host (before ++ later) log)
      (interfaces host (before ++ ⟨field.oid, row, type, value⟩ :: later) log) := by
  have numbers : field.oid ≠ Oid.interfaceIndex := field.oid_apart _ (by decide)
  rw [interfaces, interfaces, Binding.column_insert numbers, List.forall₂_map_left_iff,
    List.forall₂_map_right_iff, List.forall₂_same]
  intro interface _
  constructor
  · apply Port.erase_ofBindings_congr
    intro other apart
    exact Binding.column_insert fun same => apart (Port.Field.oid_inj same).symm
  · intro foreign
    rw [Port.ofBindings_congr_of_lookup? fun oid => Binding.lookup?_insert fun own => ?_]
    exact foreign own.2.symm

/-- A binding of a field, wherever it is put among others, changes that field of its row and nothing
else. -/
theorem confined_insert (host : Ipv4) (log : Log.Logger) (before later : List Binding)
    (field : Port.Field) (row : String) (type : ValueType) (value : String) :
    Confined host log field row (before ++ later)
      (before ++ ⟨field.oid, row, type, value⟩ :: later) where
  device := device_ofBindings_congr fun oid inside =>
    Binding.column_insert (field.oid_apart oid (List.mem_append_left _ inside))
  neighbours := neighbours_ofBindings_congr fun oid inside =>
    Binding.column_insert (field.oid_apart oid (by simp [inside]))
  others := by
    rw [ports_ofBindings, ports_ofBindings, List.filter_filter, List.filter_filter]
    refine filter_eq_of_forall₂ (fun old new beside => ?_)
      (beside_insert host log before later field row type value)
    by_cases own : toString old.interface = row
    · refine .inr ⟨by simp [own], ?_⟩
      rw [beside.interface_eq]
      simp [own]
    · exact .inl (beside.2 own)
  beside := beside_insert host log before later field row type value
  kept := ⟨ports_ofBindings host _ log, ports_ofBindings host _ log⟩
  paired other := by
    rw [ports_ofBindings, ports_ofBindings]
    refine List.rel_filter (fun old new beside => ?_)
      (beside_insert host log before later field row type value)
    show old.mac?.isSome = true ↔ new.mac?.isSome = true
    rw [beside.mac?_eq other]

/-- Behind a binding of the same attribute and row nothing changes, not even what is logged. -/
theorem ofBindings_insert_of_found (host : Ipv4) (log : Log.Logger) {before : List Binding}
    (later : List Binding) {field : Port.Field} {row : String} (type : ValueType) (value : String)
    (found : ∃ earlier ∈ before, earlier.oid = field.oid ∧ earlier.index = row) :
    ofBindings host (before ++ ⟨field.oid, row, type, value⟩ :: later) log =
      ofBindings host (before ++ later) log := by
  have same : Finding.ofBinding? (before ++ ⟨field.oid, row, type, value⟩ :: later) =
      Finding.ofBinding? (before ++ later) := by
    apply Finding.ofBinding?_congr_of_lookup?
    intro oid index
    by_cases own : field.oid = oid ∧ row = index
    · obtain ⟨earlier, inside, ofOid, inRow⟩ := found
      apply Binding.lookup?_insert_of_found
      rw [Binding.lookup?, List.find?_isSome]
      exact ⟨earlier, inside, by simp [ofOid, inRow, own]⟩
    · exact Binding.lookup?_insert own
  have quiet (bindings : List Binding) (log : Log.Logger) :
      Finding.ofBinding? bindings log ⟨field.oid, row, type, value⟩ = pure none :=
    Finding.ofBinding?_of_other field.oid_not_source bindings log
  simp only [ofBindings, same, List.mapM_append, List.mapM_cons, quiet, pure_bind, bind_assoc,
    List.filterMap_append, List.filterMap_cons, id]

/-- Wherever a binding of an attribute is put among the bindings of a host, it changes nothing but
this attribute in its row, and nothing at all behind another of the same attribute and row. -/
theorem attributes_keep_to_their_row (host : Ipv4) (log : Log.Logger) (before later : List Binding)
    (field : Port.Field) (row : String) (type : ValueType) (value : String) :
    let added : Binding := ⟨field.oid, row, type, value⟩
    Confined host log field row (before ++ later) (before ++ added :: later) ∧
      ((∃ earlier ∈ before, earlier.oid = added.oid ∧ earlier.index = added.index) →
        ofBindings host (before ++ added :: later) log = ofBindings host (before ++ later) log) :=
  ⟨confined_insert host log before later field row type value,
    ofBindings_insert_of_found host log later type value⟩

end Observation

end CableMap
