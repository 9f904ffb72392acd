import CableMap.Proofs.Observation.Columns
import CableMap.Proofs.Observation.Findings
import CableMap.Proofs.Trace
import Mathlib.Data.Bool.AllAny

/-!
# A printed description is read back as the observation that it describes

The findings of the lines make the observation. Each kind of finding fills a part of its own, so
only the order of the lines that number interfaces and of those that begin neighbours matters.
-/
namespace CableMap

namespace Description

variable {description : Description} {items : List Attribute}

/-- The findings of the lines are those of their attributes. -/
theorem findings_readings (all : items.Perm description.attributes) (log : Log.Logger) :
    (((readings items).mapM (Finding.ofBinding? (readings items) log)).value.filterMap id) =
      items.filterMap Attribute.finding? := by
  have each : ∀ item ∈ items,
      (Finding.ofBinding? (readings items) log item.binding.bare).value = item.finding? :=
    fun item among =>
      value_findingOfBinding? all item (mem_attributes.mp (all.mem_iff.mp among)) log
  rw [Traced.value_mapM, List.filterMap_map, readings, List.filterMap_map]
  exact List.filterMap_congr each

/-- A kind of finding that only the attributes of the system give is found once, whatever the
order of the lines. -/
theorem filterMap_of_system {α : Type} {kind? : Attribute → Option α} {value : α}
    (all : items.Perm description.attributes)
    (system : description.systemAttributes.filterMap kind? = [value])
    (interfaces : ∀ interface : Interface, interface.attributes.filterMap kind? = [])
    (neighbours : ∀ neighbour : Neighbour, neighbour.attributes.filterMap kind? = []) :
    items.filterMap kind? = [value] := by
  have single : description.attributes.filterMap kind? = [value] := by
    rw [attributes, List.filterMap_append, List.filterMap_append, system,
      List.filterMap_flatMap, List.filterMap_flatMap, List.flatMap_eq_nil_iff.mpr,
      List.flatMap_eq_nil_iff.mpr]
    · rfl
    · exact fun neighbour _ => neighbours neighbour
    · exact fun interface _ => interfaces interface
  exact List.perm_singleton.mp (single ▸ all.filterMap kind?)

/-- A description that is printed as lines of any forms and in any order that keeps that of its
interfaces and of its neighbours is read back as its observation, with the names as they are
without the marks around them. -/
theorem observed_from_text (description : Description) (clear : description.Clear)
    {items : List Attribute} (ordered : description.Ordered items) (host : Ipv4)
    (walkLog log : Log.Logger) :
    (Observation.ofBindings host (Binding.readAll .full host walkLog (print items)).value
      log).value = description.observation host bareName := by
  have supported : (items.filterMap Attribute.finding?).filterMap (·.supported?) =
      [(description.supported.first.toNat : Int)] := by
    rw [List.filterMap_filterMap]
    exact filterMap_of_system ordered.all rfl (fun _ => rfl) fun _ => rfl
  have enabled : (items.filterMap Attribute.finding?).filterMap (·.enabled?) =
      [(description.enabled.first.toNat : Int)] := by
    rw [List.filterMap_filterMap]
    exact filterMap_of_system ordered.all rfl (fun _ => rfl) fun _ => rfl
  have name : (items.filterMap Attribute.finding?).filterMap (·.name?) =
      [bareName description.name] := by
    rw [List.filterMap_filterMap]
    exact filterMap_of_system ordered.all rfl (fun _ => rfl) fun _ => rfl
  have ports : (items.filterMap Attribute.finding?).filterMap (·.port?) =
      description.interfaces.map fun interface => interface.port (bareName interface.name) := by
    have only (item : Attribute) (other : item.isNumber = false) :
        item.finding?.bind (·.port?) = none := by
      cases item with
      | interfaceNumber => cases other
      | _ => rfl
    rw [List.filterMap_filterMap, filterMap_of_only only, ordered.numbers, List.filterMap_map]
    exact congrFun (List.filterMap_eq_map
      (f := fun interface : Interface => interface.port (bareName interface.name))) _
  have neighbours : (items.filterMap Attribute.finding?).filterMap (·.neighbour?) =
      description.neighbours.map Neighbour.seen := by
    have only (item : Attribute) (other : item.isSubtype = false) :
        item.finding?.bind (·.neighbour?) = none := by
      cases item with
      | chassisSubtype => cases other
      | _ => rfl
    rw [List.filterMap_filterMap, filterMap_of_only only, ordered.subtypes, List.filterMap_map]
    exact congrFun (List.filterMap_eq_map (f := Neighbour.seen)) _
  rw [value_readAll clear ordered.all, Observation.ofBindings, Traced.value_bind,
    Traced.value_pure, findings_readings ordered.all, Observation.foldl_add, supported, enabled,
    name, ports, neighbours]
  rfl

/-- A switch with two interfaces, on each of which it sees a neighbour. -/
def accessSwitch : Description where
  name := "core \"1\""
  supported := ⟨0x28, 0, fun _ => .canonical, true⟩
  enabled := ⟨0x08, 0, fun _ => .canonical, false⟩
  interfaces := [
    { number := 1, mac := ⟨2, 0, 0, 0, 0xA, 1⟩, speed := 1000000000, status := 1
      name := "to .1.3", macStyle := ⟨.blanks true, fun _ => .canonical⟩
      label? := some ⟨"up", List.all_iff_forall_prop.mp (by decide)⟩
      number_fits := by decide, status_fits := by decide, mac_some := by decide },
    { number := 2, mac := ⟨2, 0, 0, 0, 0xA, 2⟩, speed := 100000000, status := 2
      name := "desk", macStyle := ⟨.colons false, fun _ => ⟨false, false⟩⟩
      label? := none
      number_fits := by decide, status_fits := by decide, mac_some := by decide }]
  neighbours := [
    { timeMark := 0, localPort := 2, remoteIndex := 7, mac := ⟨2, 0, 0, 0, 0xB, 1⟩
      macStyle := ⟨.colons true, fun _ => ⟨true, false⟩⟩
      label? := some ⟨"macAddress", List.all_iff_forall_prop.mp (by decide)⟩
      localPort_fits := by decide, mac_some := by decide },
    { timeMark := 0, localPort := 1, remoteIndex := 3, mac := ⟨2, 0, 0, 0, 0xC, 1⟩
      macStyle := ⟨.blanks false, fun _ => .canonical⟩
      label? := none
      localPort_fits := by decide, mac_some := by decide }]
  isNumbered := true
  interfaces_distinct := by decide
  neighbours_distinct := by decide

/-- No name of the access switch gets in the way of the reading. -/
theorem accessSwitch_clear : accessSwitch.Clear where
  name := ⟨by decide +kernel, by decide +kernel⟩
  names := by
    unfold ClearName
    decide +kernel

/-- The lines of the switch, its neighbours first and its system last. -/
def accessSwitchLines : List Attribute :=
  accessSwitch.neighbours.flatMap Neighbour.attributes ++
    (accessSwitch.interfaces.flatMap Interface.attributes ++ accessSwitch.systemAttributes)

/-- The lines of the access switch keep the order that is needed. -/
theorem accessSwitchLines_ordered : accessSwitch.Ordered accessSwitchLines where
  all := List.perm_append_comm.trans (by
    rw [attributes, ← List.append_assoc]
    exact List.perm_append_comm.append_right _)
  numbers := rfl
  subtypes := rfl

/-- The switch is read back. -/
theorem accessSwitch_observed_from_text :
    accessSwitch.Clear ∧ accessSwitch.Ordered accessSwitchLines ∧
      (Observation.ofBindings ⟨10, 0, 0, 1⟩
        (Binding.readAll .full ⟨10, 0, 0, 1⟩ .root (print accessSwitchLines)).value .root).value =
          accessSwitch.observation ⟨10, 0, 0, 1⟩ bareName :=
  ⟨accessSwitch_clear, accessSwitchLines_ordered,
    observed_from_text accessSwitch accessSwitch_clear accessSwitchLines_ordered _ _ _⟩

/-! ## Names that are not kept -/

/-- A host with one interface. -/
def oneInterface (system interface : String) : Description where
  name := system
  supported := ⟨0x28, 0, fun _ => .canonical, true⟩
  enabled := ⟨0x08, 0, fun _ => .canonical, false⟩
  interfaces := [
    { number := 1, mac := ⟨2, 0, 0, 0, 0xA, 1⟩, speed := 1000000000, status := 1
      name := interface, macStyle := ⟨.blanks true, fun _ => .canonical⟩
      label? := none
      number_fits := by decide, status_fits := by decide, mac_some := by decide }]
  neighbours := []
  isNumbered := true
  interfaces_distinct := List.nodup_singleton _
  neighbours_distinct := List.nodup_nil

/-- A host without interfaces. -/
def noInterface (system : String) : Description :=
  { oneInterface system "" with interfaces := [], interfaces_distinct := List.nodup_nil }

/-- What is read back from a description that is printed in its own order. -/
def readBack (description : Description) : Observation :=
  (Observation.ofBindings ⟨10, 0, 0, 1⟩ (Binding.readAll .full ⟨10, 0, 0, 1⟩ .root
    (print description.attributes)).value .root).value

/-- A blank in front of a name is not read back. -/
theorem readBack_blank :
    readBack (noInterface " core") ≠ (noInterface " core").observation ⟨10, 0, 0, 1⟩ id := by
  have clear : (noInterface " core").Clear :=
    ⟨⟨by decide +kernel, by decide +kernel⟩, fun _ inside => absurd inside List.not_mem_nil⟩
  rw [readBack, value_readAll clear (.refl _)]
  decide +kernel

/-- A newline in a name cuts the name off. -/
theorem readBack_newline : readBack (noInterface "co\nre") ≠
    (noInterface "co\nre").observation ⟨10, 0, 0, 1⟩ bareName := by
  decide +kernel

/-- The line of a name that mentions an earlier identifier is no binding, so it is passed over. -/
theorem readBack_mention : readBack (oneInterface "core" "at .1.0.8802.1.1.2.1.3.3 too") ≠
    (oneInterface "core" "at .1.0.8802.1.1.2.1.3.3 too").observation ⟨10, 0, 0, 1⟩ bareName := by
  let others := (oneInterface "core" "").attributes.dropLast
  let named : Binding := ⟨Oid.interfaceName, "1", .string, "\"at .1.0.8802.1.1.2.1.3.3 too\""⟩
  have clear : (oneInterface "core" "").Clear := by
    refine ⟨⟨by decide +kernel, by decide +kernel⟩, ?_⟩
    unfold ClearName
    decide +kernel
  have legible : ∀ binding ∈ others.map (·.binding), binding.Legible := by
    intro binding inside
    obtain ⟨item, among, rfl⟩ := List.mem_map.mp inside
    exact Attribute.legible (clear.each item (List.mem_of_mem_dropLast among))
  have whole : '\n' ∉ named.line.toList ∧ named.line.toList.getLast? ≠ some '\r' := by
    decide +kernel
  have passed : (Binding.ofLine? .full ⟨10, 0, 0, 1⟩ .root named.line.toList).value = none := by
    decide +kernel
  have printed : print (oneInterface "core" "at .1.0.8802.1.1.2.1.3.3 too").attributes =
      Binding.text (others.map (·.binding) ++ [named]) := rfl
  have read : (Binding.readAll .full ⟨10, 0, 0, 1⟩ .root
      (Binding.text (others.map (·.binding) ++ [named]))).value = readings others := by
    have each : ∀ binding ∈ others.map (·.binding),
        (Binding.ofLine? .full ⟨10, 0, 0, 1⟩ .root binding.line.toList).value =
          some binding.bare :=
      fun binding among => Binding.value_ofLine? (legible binding among) _ _
    rw [Binding.value_readAll_text, List.filterMap_append, List.filterMap_congr each]
    · simp [passed, readings, List.filterMap_map]
    · intro binding inside
      rcases List.mem_append.mp inside with among | last
      · exact Binding.line_whole (legible binding among)
      · exact List.mem_singleton.mp last ▸ whole
  rw [readBack, printed, read]
  decide +kernel

/-- Names do not come out as they went in. One that begins with a blank loses it, one with a newline
is cut there, and that of an interface is lost if it mentions an identifier that stands before its
own. -/
theorem names_not_verbatim :
    (∀ description : Description, description.Ordered description.attributes) ∧
      readBack (noInterface " core") ≠ (noInterface " core").observation ⟨10, 0, 0, 1⟩ id ∧
      readBack (noInterface "co\nre") ≠
        (noInterface "co\nre").observation ⟨10, 0, 0, 1⟩ bareName ∧
      readBack (oneInterface "core" "at .1.0.8802.1.1.2.1.3.3 too") ≠
        (oneInterface "core" "at .1.0.8802.1.1.2.1.3.3 too").observation ⟨10, 0, 0, 1⟩
          bareName :=
  ⟨ordered_attributes, readBack_blank, readBack_newline, readBack_mention⟩

end Description

end CableMap
