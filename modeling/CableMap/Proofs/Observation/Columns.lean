import CableMap.Observation.Bindings
import CableMap.Proofs.Trace
import Mathlib.Data.List.Basic

/-!
# Observations by columns

Each kind of finding comes from the bindings of one identifier, and what a finding looks up it
looks up in a column. So an observation is put together column by column: how the columns stand
among each other makes no difference. The device depends on three columns, the ports on five and
the neighbours on two.
-/
namespace CableMap

namespace Catalog

/-- The identifiers that a device is made of. -/
def ofDevice : Catalog :=
  [Oid.localSystemName, Oid.localCapabilitiesSupported, Oid.localCapabilitiesEnabled]

/-- The identifiers that ports are made of: the number of an interface and its attributes. -/
def ofPorts : Catalog :=
  [Oid.interfaceIndex, Oid.interfaceMac, Oid.interfaceStatus, Oid.interfaceSpeed,
    Oid.interfaceName]

/-- The identifiers that neighbours are made of. -/
def ofNeighbours : Catalog := [Oid.remoteChassisSubtype, Oid.remoteChassis]

/-- The identifiers that tell of the device tell of the system. -/
theorem ofDevice_subset : ∀ oid ∈ ofDevice, oid ∈ system := by
  decide

end Catalog

namespace Finding

def supported? : Finding → Option Int
  | .supported mask => some mask
  | _ => none

def enabled? : Finding → Option Int
  | .enabled mask => some mask
  | _ => none

def name? : Finding → Option String
  | .name text => some text
  | _ => none

def port? : Finding → Option Port
  | .port found => some found
  | _ => none

def neighbour? : Finding → Option Neighbour
  | .neighbour seen => some seen
  | _ => none

end Finding

/-- What findings make of an observation: the last value of each kind for the device, and all
ports and neighbours in order. -/
theorem Observation.foldl_add (findings : List Finding) (observation : Observation) :
    findings.foldl add observation =
      { device := { observation.device with
          supported := (findings.filterMap (·.supported?)).getLastD observation.device.supported
          enabled := (findings.filterMap (·.enabled?)).getLastD observation.device.enabled
          name := (findings.filterMap (·.name?)).getLastD observation.device.name }
        ports := observation.ports ++ findings.filterMap (·.port?)
        neighbours := observation.neighbours ++ findings.filterMap (·.neighbour?) } := by
  induction findings generalizing observation with
  | nil => simp
  | cons finding findings ih =>
    rw [List.foldl_cons, ih]
    cases finding <;>
      simp only [add, List.filterMap_cons, Finding.supported?, Finding.enabled?, Finding.name?,
        Finding.port?, Finding.neighbour?, List.getLastD_cons, List.append_assoc,
        List.singleton_append]

/-- What only some items give is given by these alone. -/
theorem filterMap_of_only {α β : Type} {kind? : α → Option β} {gives : α → Bool}
    (only : ∀ item, gives item = false → kind? item = none) (items : List α) :
    items.filterMap kind? = (items.filter gives).filterMap kind? := by
  rw [List.filterMap_filter]
  refine List.filterMap_congr fun item _ => ?_
  cases given : gives item with
  | true => rfl
  | false => exact only item given

/-! ## Look-ups -/

/-- A look-up looks into one column. -/
theorem Binding.lookup?_eq_find?_column (bindings : List Binding) (oid : Oid) (index : String) :
    lookup? bindings oid index = (column bindings oid).find? fun binding =>
      binding.index = index := by
  rw [lookup?, column, List.find?_filter]
  congr 1
  funext binding
  simp

/-- An attribute is read from what is found for it. -/
theorem Binding.attribute?_congr_of_found {α : Type} {left right : List Binding} {oid : Oid}
    {index : String} (same : lookup? left oid index = lookup? right oid index) (log : Log.Logger)
    (read? : Binding → Traced (Option α)) :
    attribute? left oid index log read? = attribute? right oid index log read? := by
  rw [attribute?, attribute?, same]

/-- An attribute is looked up in one column. -/
theorem Binding.attribute?_congr {α : Type} {left right : List Binding} {oid : Oid}
    (same : column left oid = column right oid) (index : String) (log : Log.Logger)
    (read? : Binding → Traced (Option α)) :
    attribute? left oid index log read? = attribute? right oid index log read? := by
  apply attribute?_congr_of_found
  rw [lookup?_eq_find?_column, lookup?_eq_find?_column, same]

/-- The port of an interface depends on the columns of its attributes. -/
theorem Port.ofBinding?_congr {left right : List Binding}
    (same : ∀ oid ∈ Catalog.ofPorts, Binding.column left oid = Binding.column right oid)
    (numbered : Binding) (log : Log.Logger) :
    Port.ofBinding? left numbered log = Port.ofBinding? right numbered log := by
  have attributes : Port.ofBindings left = Port.ofBindings right := by
    funext interface log
    unfold Port.ofBindings
    dsimp only
    rw [Binding.attribute?_congr (same Oid.interfaceMac (by decide)),
      Binding.attribute?_congr (same Oid.interfaceStatus (by decide)),
      Binding.attribute?_congr (same Oid.interfaceSpeed (by decide)),
      Binding.attribute?_congr (same Oid.interfaceName (by decide))]
  rw [Port.ofBinding?, Port.ofBinding?, attributes]

/-- The number of an interface that a binding holds. -/
def Binding.interface? (numbered : Binding) : Option Int :=
  if numbered.type = .integer then enumerated? numbered.value else none

/-- The port of a binding is that of the interface which it numbers, if this has a MAC address. -/
theorem Port.value_ofBinding? (bindings : List Binding) (numbered : Binding) (log : Log.Logger) :
    (Port.ofBinding? bindings numbered log).value =
      (numbered.interface?.map fun interface =>
        (Port.ofBindings bindings interface log).value).filter (·.mac?.isSome) := by
  unfold Port.ofBinding? Binding.interface?
  split_ifs
  · cases enumerated? numbered.value with
    | none => rfl
    | some interface =>
      rw [Option.map_some, Option.filter_some, Traced.value_bind]
      split <;> rfl
  · rfl

/-- The neighbour of a row depends on the column of the chassis. -/
theorem Neighbour.ofBinding?_congr {left right : List Binding}
    (same : Binding.column left Oid.remoteChassis = Binding.column right Oid.remoteChassis)
    (subtype : Binding) (log : Log.Logger) :
    Neighbour.ofBinding? left subtype log = Neighbour.ofBinding? right subtype log := by
  rw [Neighbour.ofBinding?, Neighbour.ofBinding?, Binding.attribute?_congr same]

/-! ## Where findings come from -/

/-- The identifier whose bindings give findings of a kind. -/
def Finding.source : Finding → Oid
  | .supported _ => Oid.localCapabilitiesSupported
  | .enabled _ => Oid.localCapabilitiesEnabled
  | .name _ => Oid.localSystemName
  | .port _ => Oid.interfaceIndex
  | .neighbour _ => Oid.remoteChassisSubtype

/-- A finding comes from a binding of its identifier. -/
theorem Finding.source_of_ofBinding? {bindings : List Binding} {log : Log.Logger}
    {binding : Binding} {finding : Finding}
    (found : (Finding.ofBinding? bindings log binding).value = some finding) :
    binding.oid = finding.source := by
  unfold Finding.ofBinding? at found
  split_ifs at found with supported enabled named numbers subtype
  · obtain ⟨mask, _, rfl⟩ := Option.map_eq_some_iff.mp found
    exact supported
  · obtain ⟨mask, _, rfl⟩ := Option.map_eq_some_iff.mp found
    exact enabled
  · obtain ⟨name, _, rfl⟩ := Option.map_eq_some_iff.mp found
    exact named
  · obtain ⟨port, _, rfl⟩ := Option.map_eq_some_iff.mp found
    exact numbers
  · obtain ⟨neighbour, _, rfl⟩ := Option.map_eq_some_iff.mp found
    exact subtype
  · cases found

/-- The findings of one kind come from one column. -/
theorem Finding.filterMap_ofBinding? {α : Type} {kind? : Finding → Option α} {oid : Oid}
    (only : ∀ finding, (kind? finding).isSome → finding.source = oid)
    (bindings all : List Binding) (log : Log.Logger) :
    (bindings.filterMap fun binding => (Finding.ofBinding? all log binding).value).filterMap
        kind? =
      (Binding.column bindings oid).filterMap fun binding =>
        (Finding.ofBinding? all log binding).value.bind kind? := by
  rw [List.filterMap_filterMap, Binding.column]
  refine filterMap_of_only (fun binding other => ?_) bindings
  cases found : (Finding.ofBinding? all log binding).value with
  | none => rfl
  | some finding =>
    by_contra given
    have source := only finding (Option.isSome_iff_ne_none.mpr given)
    rw [← source_of_ofBinding? found] at source
    exact of_decide_eq_false other source

/-- A binding that numbers an interface gives its port. -/
theorem Finding.ofBinding?_of_index {bindings : List Binding} {binding : Binding}
    (own : binding.oid = Oid.interfaceIndex) (log : Log.Logger) :
    Finding.ofBinding? bindings log binding = (do
      pure ((← Port.ofBinding? bindings binding log).map .port)) := by
  rw [Finding.ofBinding?, own, if_neg (by decide), if_neg (by decide), if_neg (by decide),
    if_pos rfl]

/-- A binding that says how a chassis is identified gives its neighbour. -/
theorem Finding.ofBinding?_of_subtype {bindings : List Binding} {binding : Binding}
    (own : binding.oid = Oid.remoteChassisSubtype) (log : Log.Logger) :
    Finding.ofBinding? bindings log binding = (do
      pure ((← Neighbour.ofBinding? bindings binding log).map .neighbour)) := by
  rw [Finding.ofBinding?, own, if_neg (by decide), if_neg (by decide), if_neg (by decide),
    if_neg (by decide), if_pos rfl]

/-- The identifiers whose bindings give findings. -/
def Finding.sources : Catalog :=
  [Oid.localCapabilitiesSupported, Oid.localCapabilitiesEnabled, Oid.localSystemName,
    Oid.interfaceIndex, Oid.remoteChassisSubtype]

/-- A binding of another identifier gives no finding, and nothing is said of it. -/
theorem Finding.ofBinding?_of_other {binding : Binding} (other : binding.oid ∉ sources)
    (bindings : List Binding) (log : Log.Logger) :
    Finding.ofBinding? bindings log binding = pure none := by
  simp only [sources, List.mem_cons, List.not_mem_nil, or_false, not_or] at other
  rw [Finding.ofBinding?, if_neg other.1, if_neg other.2.1, if_neg other.2.2.1,
    if_neg other.2.2.2.1, if_neg other.2.2.2.2]

/-- What is said of the system depends on no other binding. -/
theorem Finding.ofBinding?_of_system (left right : List Binding) (log : Log.Logger)
    {binding : Binding} (system : binding.oid ∈ Catalog.system) :
    Finding.ofBinding? left log binding = Finding.ofBinding? right log binding := by
  have number : binding.oid ≠ Oid.interfaceIndex := by
    intro same
    rw [same] at system
    revert system
    decide
  have subtype : binding.oid ≠ Oid.remoteChassisSubtype := by
    intro same
    rw [same] at system
    revert system
    decide
  unfold Finding.ofBinding?
  simp only [if_neg number, if_neg subtype]

/-! ## The whole observation -/

namespace Observation

/-- The findings that the bindings of a host give. -/
def findings (host : Ipv4) (bindings : List Binding) (log : Log.Logger) : List Finding :=
  bindings.filterMap fun binding =>
    (Finding.ofBinding? bindings (log.child "host" (toString host)) binding).value

variable {host : Ipv4} {left right bindings : List Binding} {log : Log.Logger}

/-- An observation is made of the findings of its bindings. -/
theorem value_ofBindings (host : Ipv4) (bindings : List Binding) (log : Log.Logger) :
    (ofBindings host bindings log).value =
      (findings host bindings log).foldl add (.ofAddress host) := by
  rw [ofBindings, Traced.value_bind, Traced.value_pure, Traced.value_mapM, List.filterMap_map]
  rfl

/-- Bindings with one column in common, each of which gives the same finding among the others,
give the same findings of the kind of this column. -/
theorem filterMap_findings_congr {α : Type} {kind? : Finding → Option α} {oid : Oid}
    (only : ∀ finding, (kind? finding).isSome → finding.source = oid)
    (column : Binding.column left oid = Binding.column right oid)
    (same : ∀ log, ∀ binding : Binding, binding.oid = oid →
      Finding.ofBinding? left log binding = Finding.ofBinding? right log binding) :
    (findings host left log).filterMap kind? = (findings host right log).filterMap kind? := by
  rw [findings, findings, Finding.filterMap_ofBinding? only, Finding.filterMap_ofBinding? only,
    column]
  refine List.filterMap_congr fun binding inside => ?_
  rw [same _ binding (of_decide_eq_true (List.mem_filter.mp inside).2)]

/-- The capabilities that a device supports are found under their own identifier only. -/
theorem source_of_supported? (finding : Finding) (given : finding.supported?.isSome) :
    finding.source = Oid.localCapabilitiesSupported := by
  cases finding with
  | supported mask => rfl
  | _ => cases given

/-- The capabilities that a device has enabled are found under their own identifier only. -/
theorem source_of_enabled? (finding : Finding) (given : finding.enabled?.isSome) :
    finding.source = Oid.localCapabilitiesEnabled := by
  cases finding with
  | enabled mask => rfl
  | _ => cases given

/-- The name of a device is found under its own identifier only. -/
theorem source_of_name? (finding : Finding) (given : finding.name?.isSome) :
    finding.source = Oid.localSystemName := by
  cases finding with
  | name text => rfl
  | _ => cases given

/-- A port is found under the identifier of interface numbers only. -/
theorem source_of_port? (finding : Finding) (given : finding.port?.isSome) :
    finding.source = Oid.interfaceIndex := by
  cases finding with
  | port found => rfl
  | _ => cases given

/-- A neighbour is found under the identifier of chassis subtypes only. -/
theorem source_of_neighbour? (finding : Finding) (given : finding.neighbour?.isSome) :
    finding.source = Oid.remoteChassisSubtype := by
  cases finding with
  | neighbour seen => rfl
  | _ => cases given

/-- The device is the host itself. -/
@[simp] theorem address_ofBindings (host : Ipv4) (bindings : List Binding) (log : Log.Logger) :
    (ofBindings host bindings log).value.device.address = host := by
  rw [value_ofBindings, foldl_add]
  rfl

/-- The device depends on the columns that it is made of. -/
theorem device_ofBindings_congr
    (same : ∀ oid ∈ Catalog.ofDevice, Binding.column left oid = Binding.column right oid) :
    (ofBindings host left log).value.device = (ofBindings host right log).value.device := by
  have kind {α : Type} {kind? : Finding → Option α} {oid : Oid} (inside : oid ∈ Catalog.ofDevice)
      (only : ∀ finding, (kind? finding).isSome → finding.source = oid) :
      (findings host left log).filterMap kind? = (findings host right log).filterMap kind? :=
    filterMap_findings_congr only (same oid inside) fun log binding own =>
      Finding.ofBinding?_of_system left right log (own ▸ Catalog.ofDevice_subset oid inside)
  rw [value_ofBindings, value_ofBindings, foldl_add, foldl_add,
    kind (by decide) source_of_supported?, kind (by decide) source_of_enabled?,
    kind (by decide) source_of_name?]

/-- The ports depend on the columns that they are made of. -/
theorem ports_ofBindings_congr
    (same : ∀ oid ∈ Catalog.ofPorts, Binding.column left oid = Binding.column right oid) :
    (ofBindings host left log).value.ports = (ofBindings host right log).value.ports := by
  have found : (findings host left log).filterMap (·.port?) =
      (findings host right log).filterMap (·.port?) := by
    refine filterMap_findings_congr source_of_port? (same Oid.interfaceIndex (by decide)) ?_
    intro log binding own
    rw [Finding.ofBinding?_of_index own, Finding.ofBinding?_of_index own,
      Port.ofBinding?_congr same]
  rw [value_ofBindings, value_ofBindings, foldl_add, foldl_add, found]

/-- The neighbours depend on the columns that they are made of. -/
theorem neighbours_ofBindings_congr
    (same : ∀ oid ∈ Catalog.ofNeighbours, Binding.column left oid = Binding.column right oid) :
    (ofBindings host left log).value.neighbours =
      (ofBindings host right log).value.neighbours := by
  have found : (findings host left log).filterMap (·.neighbour?) =
      (findings host right log).filterMap (·.neighbour?) := by
    refine filterMap_findings_congr source_of_neighbour?
      (same Oid.remoteChassisSubtype (by decide)) ?_
    intro log binding own
    rw [Finding.ofBinding?_of_subtype own, Finding.ofBinding?_of_subtype own,
      Neighbour.ofBinding?_congr (same Oid.remoteChassis (by decide))]
  rw [value_ofBindings, value_ofBindings, foldl_add, foldl_add, found]

/-- Bindings with the same columns make the same observation. -/
theorem ofBindings_congr (same : ∀ oid, Binding.column left oid = Binding.column right oid) :
    (ofBindings host left log).value = (ofBindings host right log).value := by
  show Observation.mk (ofBindings host left log).value.device
    (ofBindings host left log).value.ports (ofBindings host left log).value.neighbours = _
  rw [device_ofBindings_congr fun oid _ => same oid, ports_ofBindings_congr fun oid _ => same oid,
    neighbours_ofBindings_congr fun oid _ => same oid]

/-! ## Interfaces and their ports -/

/-- The ports of all interfaces of a host in the order reported, also of those that are dropped. -/
def interfaces (host : Ipv4) (bindings : List Binding) (log : Log.Logger) : List Port :=
  ((Binding.column bindings Oid.interfaceIndex).filterMap (·.interface?)).map fun interface =>
    (Port.ofBindings bindings interface (log.child "host" (toString host))).value

/-- The ports that are observed are those of the interfaces that have a MAC address. -/
theorem ports_ofBindings (host : Ipv4) (bindings : List Binding) (log : Log.Logger) :
    (ofBindings host bindings log).value.ports =
      (interfaces host bindings log).filter (·.mac?.isSome) := by
  rw [value_ofBindings, foldl_add]
  refine (List.nil_append _).trans ?_
  rw [findings, Finding.filterMap_ofBinding? source_of_port?, interfaces, List.map_filterMap,
    List.filter_filterMap]
  refine List.filterMap_congr fun numbered inside => ?_
  rw [Finding.ofBinding?_of_index (of_decide_eq_true (List.mem_filter.mp inside).2),
    Traced.value_bind, Traced.value_pure, ← Port.value_ofBinding?]
  cases (Port.ofBinding? bindings numbered (log.child "host" (toString host))).value <;> rfl

/-! ## Ports have MAC addresses -/

/-- A MAC address that is read is not the null address. -/
theorem ne_null_of_mac? {binding : Binding} {written : Binding.MacText} {mac : Mac}
    (read : (binding.mac? written log).value = some mac) : mac ≠ .null := by
  unfold Binding.mac? at read
  dsimp only at read
  split at read
  · cases read
  · cases read
  · split at read
    · cases read
    · rename_i found notNull
      obtain rfl := Option.some.inj read
      intro null
      exact notNull (decide_eq_true null)

/-- The MAC address of a port is the one in its row. -/
theorem mac?_portOfBindings (bindings : List Binding) (interface : Int) (log : Log.Logger) :
    (Port.ofBindings bindings interface log).value.mac? =
      (Binding.attribute? bindings Oid.interfaceMac (toString interface) log
        (·.mac? .either log)).value := rfl

/-- Every port that is observed has a MAC address other than the null address. -/
theorem mac_of_mem_ports {port : Port} (inside : port ∈ (ofBindings host bindings log).value.ports) :
    ∃ mac, port.mac? = some mac ∧ mac ≠ .null := by
  rw [ports_ofBindings] at inside
  obtain ⟨among, known⟩ := List.mem_filter.mp inside
  obtain ⟨interface, _, rfl⟩ := List.mem_map.mp among
  obtain ⟨mac, read⟩ := Option.isSome_iff_exists.mp known
  refine ⟨mac, read, ?_⟩
  rw [mac?_portOfBindings, Binding.attribute?] at read
  split at read
  · exact ne_null_of_mac? read
  · cases read

end Observation

end CableMap
