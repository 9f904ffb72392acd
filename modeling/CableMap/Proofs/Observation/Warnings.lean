import CableMap.Proofs.Observation.Columns
import Mathlib.Data.List.Forall2

/-!
# What is not taken over is reported

Every binding of a host is accounted for. It is taken over with nothing said, or it is not and one
warning says why. An interface that is numbered has four attributes besides, each of which is read
or warned of. There are no warnings but these, and all of them carry the host.
-/
namespace CableMap

/-- The event that a warning is. -/
def Log.Logger.warned (log : Log.Logger) (message : String) (fields : List Log.Field) : Event :=
  .logged (log.entry .warning message fields)

/-- What can come of a reading. -/
inductive Tells {α : Type} (log : Log.Logger) : Traced (Option α) → Prop
  /-- A value, and nothing is said. -/
  | read (value : α) : Tells log ⟨some value, []⟩
  /-- No value, and one warning is given. -/
  | warned (message : String) (fields : List Log.Field) :
      Tells log ⟨none, [log.warned message fields]⟩

/-- What can come of the attributes of an interface: each is set where it is read, and is left as it
is unknown with a warning where it is not. -/
inductive Makes (log : Log.Logger) (number : Int) : Traced Port → Prop
  | port {mac : Traced (Option Mac)} {status : Traced (Option Int)}
      {speed : Traced (Option UInt32)} {name : Traced (Option String)}
      (ofMac : Tells log mac) (ofStatus : Tells log status) (ofSpeed : Tells log speed)
      (ofName : Tells log name) :
      Makes log number
        ⟨{ Port.ofInterface number with
            mac? := mac.value
            status := status.value.getD (Port.ofInterface number).status
            maxSpeed := speed.value.getD (Port.ofInterface number).maxSpeed
            name := name.value.getD (Port.ofInterface number).name },
          [mac.events, status.events, speed.events, name.events].flatten⟩

/-- What can come of a binding. -/
inductive Accounts (log : Log.Logger) (binding : Binding) : Traced (Option Finding) → Prop
  /-- The capabilities that the device supports are read or warned of. -/
  | supported {mask : Traced (Option Int)} (own : binding.oid = Oid.localCapabilitiesSupported)
      (told : Tells log mask) : Accounts log binding ⟨mask.value.map .supported, mask.events⟩
  /-- The capabilities that are enabled on it are read or warned of. -/
  | enabled {mask : Traced (Option Int)} (own : binding.oid = Oid.localCapabilitiesEnabled)
      (told : Tells log mask) : Accounts log binding ⟨mask.value.map .enabled, mask.events⟩
  /-- Its name is read or warned of. -/
  | name {name : Traced (Option String)} (own : binding.oid = Oid.localSystemName)
      (told : Tells log name) : Accounts log binding ⟨name.value.map .name, name.events⟩
  /-- The number of an interface is warned of if it is no integer. -/
  | mistyped (own : binding.oid = Oid.interfaceIndex) (type : binding.type ≠ .integer) :
      Accounts log binding ⟨none, [log.warned
        s!"couldn't parse {binding.oid} of type {binding.type} - not implemented" []]⟩
  /-- It is warned of if it writes no number. -/
  | unnumbered (own : binding.oid = Oid.interfaceIndex) (type : binding.type = .integer)
      (bad : enumerated? binding.value = none) :
      Accounts log binding
        ⟨none, [log.warned s!"bad interface index {Text.quoted binding.value}" []]⟩
  /-- The port of an interface that is numbered and has a MAC address is kept. -/
  | kept {number : Int} {port : Traced Port} (own : binding.oid = Oid.interfaceIndex)
      (usable : binding.interface? = some number) (made : Makes log number port)
      (known : port.value.mac?.isSome) :
      Accounts log binding ⟨some (.port port.value), port.events⟩
  /-- One without a MAC address is dropped, and warned of for that. -/
  | dropped {number : Int} {port : Traced Port} (own : binding.oid = Oid.interfaceIndex)
      (usable : binding.interface? = some number) (made : Makes log number port)
      (unknown : port.value.mac? = none) :
      Accounts log binding ⟨none, port.events ++
        [log.warned s!"dropping interface {number} without a MAC" []]⟩
  /-- A neighbour is seen or warned of. -/
  | neighbour {seen : Traced (Option Neighbour)} (own : binding.oid = Oid.remoteChassisSubtype)
      (told : Tells log seen) : Accounts log binding ⟨seen.value.map .neighbour, seen.events⟩
  /-- Nothing else gives a finding or a warning of its own. -/
  | other (foreign : binding.oid ∉ Finding.sources) :
      Accounts log binding ⟨none, []⟩

/-! ## Each value is read or warned of -/

namespace Binding

variable {log : Log.Logger}

/-- To warn of a type that is not known gives nothing and one warning. -/
theorem tells_warnNotImplemented {α : Type} (binding : Binding) :
    Tells log (do binding.warnNotImplemented log; pure (none : Option α)) :=
  .warned _ _

/-- Capabilities are read with nothing said, or not at all with one warning. -/
theorem tells_capabilities? (binding : Binding) : Tells log (binding.capabilities? log) := by
  unfold capabilities?
  dsimp only
  split
  · cases hexMask? binding.value.toList with
    | none => exact .warned _ _
    | some mask => exact .read mask
  · cases firstOctet? binding.value with
    | none => exact .warned _ _
    | some mask => exact .read mask
  · exact binding.tells_warnNotImplemented

/-- A MAC address is read with nothing said, or not at all with one warning. -/
theorem tells_mac? (binding : Binding) (written : MacText) : Tells log (binding.mac? written log) := by
  unfold mac?
  dsimp only
  split
  · exact binding.tells_warnNotImplemented
  · exact .warned _ _
  · split
    · exact .warned _ _
    · exact .read _

/-- A status is read with nothing said, or not at all with one warning. -/
theorem tells_status? (binding : Binding) (interface : Int) :
    Tells log (binding.status? interface log) := by
  unfold status?
  split
  · cases enumerated? binding.value with
    | none => exact .warned _ _
    | some status => exact .read status
  · exact binding.tells_warnNotImplemented

/-- A speed is read with nothing said, or not at all with one warning. -/
theorem tells_speed? (binding : Binding) (interface : Int) :
    Tells log (binding.speed? interface log) := by
  unfold speed?
  split
  · dsimp only
    cases Text.unsigned? Text.limit32 (Text.trim binding.value.toList) with
    | none => exact .warned _ _
    | some speed => exact .read (UInt32.ofNat speed)
  · exact binding.tells_warnNotImplemented

/-- A name is read with nothing said, or not at all with one warning. -/
theorem tells_name? (binding : Binding) : Tells log (binding.name? log) := by
  unfold name?
  split
  · exact .read binding.value
  · exact binding.tells_warnNotImplemented

/-- An attribute that is not found is warned of, and one that is found is read or warned of. -/
theorem tells_attribute? {α : Type} {read? : Binding → Traced (Option α)}
    (told : ∀ binding, Tells log (read? binding)) (bindings : List Binding) (oid : Oid)
    (index : String) : Tells log (attribute? bindings oid index log read?) := by
  unfold attribute?
  split
  · exact told _
  · exact .warned _ _

end Binding

/-- The attributes of an interface are looked up one by one. -/
theorem Port.makes_ofBindings (bindings : List Binding) (number : Int) (log : Log.Logger) :
    Makes log number (ofBindings bindings number log) :=
  .port (Binding.tells_attribute? (·.tells_mac? .either) bindings _ _)
    (Binding.tells_attribute? (·.tells_status? number) bindings _ _)
    (Binding.tells_attribute? (·.tells_speed? number) bindings _ _)
    (Binding.tells_attribute? (·.tells_name?) bindings _ _)

/-- A neighbour is seen, or one warning says why it is not. -/
theorem Neighbour.tells_ofBinding? (bindings : List Binding) (subtype : Binding)
    (log : Log.Logger) : Tells log (ofBinding? bindings subtype log) := by
  have chassis : Tells log (Binding.attribute? bindings Oid.remoteChassis subtype.index log
      (·.mac? .colons log)) :=
    Binding.tells_attribute? (·.tells_mac? .colons) bindings _ _
  unfold ofBinding?
  split_ifs
  · generalize Binding.attribute? bindings Oid.remoteChassis subtype.index log
      (·.mac? .colons log) = reading at chassis ⊢
    cases chassis with
    | warned message fields => exact .warned message fields
    | read mac =>
      cases interfaceOf? subtype.index with
      | none => exact .warned _ _
      | some interface => exact .read (⟨mac, interface⟩ : Neighbour)
  · exact .warned _ _
  · exact subtype.tells_warnNotImplemented

/-- What comes of the number of an interface. -/
theorem Finding.accounts_of_index {bindings : List Binding} {binding : Binding}
    (own : binding.oid = Oid.interfaceIndex) (log : Log.Logger) :
    Accounts log binding (ofBinding? bindings log binding) := by
  rw [ofBinding?_of_index own, Traced.bind_pure_eq, Port.ofBinding?]
  split_ifs with type
  · cases number : enumerated? binding.value with
    | none => exact .unnumbered own type number
    | some interface =>
      have usable : binding.interface? = some interface := by
        rw [Binding.interface?, if_pos type, number]
      have made := Port.makes_ofBindings bindings interface log
      dsimp only
      rw [Traced.value_bind, Traced.events_bind]
      split_ifs with known
      · rw [Traced.events_pure, List.append_nil]
        exact .kept own usable made known
      · exact .dropped own usable made (Option.not_isSome_iff_eq_none.mp known)
  · exact .mistyped own type

/-- What comes of each binding. -/
theorem Finding.accounts_ofBinding? (bindings : List Binding) (log : Log.Logger)
    (binding : Binding) : Accounts log binding (ofBinding? bindings log binding) := by
  by_cases numbers : binding.oid = Oid.interfaceIndex
  · exact accounts_of_index numbers log
  unfold ofBinding?
  split_ifs with supported enabled named subtype
  · rw [Traced.bind_pure_eq]
    exact .supported supported binding.tells_capabilities?
  · rw [Traced.bind_pure_eq]
    exact .enabled enabled binding.tells_capabilities?
  · rw [Traced.bind_pure_eq]
    exact .name named binding.tells_name?
  · rw [Traced.bind_pure_eq]
    exact .neighbour subtype (Neighbour.tells_ofBinding? bindings binding log)
  · exact .other (by simp [sources, supported, enabled, named, numbers, subtype])

/-! ## All that is said is a warning -/

/-- What is said at the reading of a value are warnings of its logger. -/
theorem Tells.carried {α : Type} {log : Log.Logger} {reading : Traced (Option α)}
    (told : Tells log reading) :
    ∀ event ∈ reading.events, ∃ message fields, event = log.warned message fields := by
  cases told with
  | read value => simp
  | warned message fields =>
    intro event inside
    exact ⟨message, fields, List.mem_singleton.mp inside⟩

/-- What is said at the reading of the attributes of an interface are warnings of its logger. -/
theorem Makes.carried {log : Log.Logger} {number : Int} {port : Traced Port}
    (made : Makes log number port) :
    ∀ event ∈ port.events, ∃ message fields, event = log.warned message fields := by
  cases made with
  | port ofMac ofStatus ofSpeed ofName =>
    intro event inside
    simp only [List.flatten_cons, List.flatten_nil, List.append_nil, List.mem_append] at inside
    rcases inside with mac | status | speed | name
    · exact ofMac.carried event mac
    · exact ofStatus.carried event status
    · exact ofSpeed.carried event speed
    · exact ofName.carried event name

/-- What is said of a binding are warnings of its logger. -/
theorem Accounts.carried {log : Log.Logger} {binding : Binding} {account : Traced (Option Finding)}
    (accounts : Accounts log binding account) :
    ∀ event ∈ account.events, ∃ message fields, event = log.warned message fields := by
  cases accounts with
  | supported _ told => exact told.carried
  | enabled _ told => exact told.carried
  | name _ told => exact told.carried
  | neighbour _ told => exact told.carried
  | kept _ _ made _ => exact made.carried
  | other _ => simp
  | mistyped _ _ | unnumbered _ _ _ =>
    intro event inside
    exact ⟨_, _, List.mem_singleton.mp inside⟩
  | dropped _ _ made _ =>
    intro event inside
    rcases List.mem_append.mp inside with ofPort | last
    · exact made.carried event ofPort
    · exact ⟨_, _, List.mem_singleton.mp last⟩

namespace Observation

/-- All that is made of the bindings of a host, and all that is said, is what comes of each of
them. -/
structure Accounted (host : Ipv4) (bindings : List Binding) (log : Log.Logger)
    (accounts : List (Traced (Option Finding))) : Prop where
  /-- Each binding has its account. -/
  each : List.Forall₂ (Accounts (log.child "host" (toString host))) bindings accounts
  /-- The observation is made of what was taken over. -/
  made : (ofBindings host bindings log).value =
    (accounts.filterMap (·.value)).foldl add (.ofAddress host)
  /-- Nothing is said but for a binding. -/
  said : (ofBindings host bindings log).events = accounts.flatMap (·.events)
  /-- All that is said are warnings that carry the host. -/
  carried : ∀ event ∈ (ofBindings host bindings log).events, ∃ message fields,
    event = .logged ⟨.warning, message, fields, ⟨"host", toString host⟩ :: log.scope⟩

/-- Whatever the bindings of a host are, each is accounted for. -/
theorem every_binding_accounted (host : Ipv4) (bindings : List Binding) (log : Log.Logger) :
    ∃ accounts, Accounted host bindings log accounts := by
  let inner := log.child "host" (toString host)
  have each : ∀ binding, Accounts inner binding (Finding.ofBinding? bindings inner binding) :=
    Finding.accounts_ofBinding? bindings inner
  refine ⟨bindings.map (Finding.ofBinding? bindings inner), ?_⟩
  have said : (ofBindings host bindings log).events =
      (bindings.map (Finding.ofBinding? bindings inner)).flatMap (·.events) := by
    rw [ofBindings, Traced.events_bind, Traced.events_mapM, Traced.events_pure, List.append_nil,
      List.flatMap_map]
  refine ⟨?_, ?_, said, ?_⟩
  · rw [List.forall₂_map_right_iff, List.forall₂_same]
    exact fun binding _ => each binding
  · rw [value_ofBindings, findings, List.filterMap_map]
    rfl
  · intro event inside
    rw [said] at inside
    obtain ⟨account, among, inside⟩ := List.mem_flatMap.mp inside
    obtain ⟨binding, _, rfl⟩ := List.mem_map.mp among
    exact (each binding).carried event inside

end Observation

end CableMap
