import CableMap.Binding
import CableMap.Chassis
import CableMap.Observation
import CableMap.Text.Quoted
import CableMap.Trace

/-!
# The observation that bindings make

Each binding that names the system, an interface or a neighbour gives one finding or one
warning. The findings, in order, make the observation. The attributes of an interface and the
chassis of a neighbour are looked up in their columns under the row of the binding.
-/
namespace CableMap

namespace Binding

/-- Warn that a value of this type is not understood. -/
def warnNotImplemented (binding : Binding) (log : Log.Logger) : Traced Unit :=
  log.warning s!"couldn't parse {binding.oid} of type {binding.type} - not implemented"

/-- The mask that a text of hexadecimal digits writes. Blanks and one mark of base in front are
skipped, and whatever follows the first digits. -/
def hexMask? (text : List Char) : Option Int :=
  let text := Text.stripStart Text.isBlank text
  let unmarked := (Text.afterStart? ['0', 'x'] text <|> Text.afterStart? ['0', 'X'] text).getD text
  let digits := unmarked.takeWhile Text.isHexDigit
  if digits.isEmpty then none
  else some (Text.hexValue digits : Int) |>.filter (Text.InSixtyFour ·)

/-- The first octet of a text. -/
def firstOctet? (text : String) : Option Int :=
  (text.toList.head?.bind fun c => (String.utf8EncodeChar c).head?).map (·.toNat)

/-- The capabilities that a binding holds: octets in hexadecimal, or text whose first octet is
the mask. -/
def capabilities? (binding : Binding) (log : Log.Logger) : Traced (Option Int) := do
  let undecoded := s!"couldn't decode {binding.oid} value {Text.quoted binding.value}"
  match binding.type with
  | .hexString =>
    let mask? := hexMask? binding.value.toList
    if mask?.isNone then log.warning undecoded
    pure mask?
  | .string =>
    let mask? := firstOctet? binding.value
    if mask?.isNone then log.warning undecoded
    pure mask?
  | _ =>
    binding.warnNotImplemented log
    pure none

/-- How text may write a MAC address. -/
inductive MacText
  /-- With colons only. -/
  | colons
  /-- With colons or with blanks. -/
  | either

/-- The MAC address that a binding holds: octets in hexadecimal, or text. The null address
counts as none. -/
def mac? (binding : Binding) (written : MacText) (log : Log.Logger) : Traced (Option Mac) :=
  let read? := match binding.type, written with
    | .hexString, _ => some (Mac.ofBlanks binding.value)
    | .string, .colons => some (Mac.ofColons binding.value)
    | .string, .either => some (Mac.ofString binding.value)
    | _, _ => none
  let place := s!"{binding.oid}.{binding.index}"
  match read? with
  | none => do
    binding.warnNotImplemented log
    pure none
  | some (.error error) => do
    log.warning s!"bad MAC address {Text.quoted binding.value} in {place}: {error.message}"
    pure none
  | some (.ok mac) => do
    if mac.isNull then
      log.warning s!"ignoring null MAC address in {place}"
      pure none
    else pure (some mac)

/-- The operating status that a binding holds. -/
def status? (binding : Binding) (interface : Int) (log : Log.Logger) : Traced (Option Int) := do
  if binding.type = .integer then
    let status? := enumerated? binding.value
    if status?.isNone then
      log.write .warning s!"bad operating status {Text.quoted binding.value}"
        [⟨"interface", toString interface⟩]
    pure status?
  else
    binding.warnNotImplemented log
    pure none

/-- The speed that a binding holds. -/
def speed? (binding : Binding) (interface : Int) (log : Log.Logger) :
    Traced (Option UInt32) := do
  if binding.type = .gauge32 then
    let speed? := Text.unsigned? Text.limit32 (Text.trim binding.value.toList)
    if speed?.isNone then
      log.write .warning s!"bad interface speed {Text.quoted binding.value}"
        [⟨"interface", toString interface⟩]
    pure (speed?.map UInt32.ofNat)
  else
    binding.warnNotImplemented log
    pure none

/-- The name that a binding holds. -/
def name? (binding : Binding) (log : Log.Logger) : Traced (Option String) := do
  if binding.type = .string then pure (some binding.value)
  else
    binding.warnNotImplemented log
    pure none

/-- The attribute of a row, read from the first binding of its column for that row. -/
def attribute? {α : Type} (bindings : List Binding) (oid : Oid) (index : String)
    (log : Log.Logger) (read? : Binding → Traced (Option α)) : Traced (Option α) := do
  match lookup? bindings oid index with
  | some binding => read? binding
  | none =>
    log.warning s!"couldn't find {oid}.{index} - not found"
    pure none

end Binding

/-- The port of an interface: the attributes in its row, where they can be read. -/
def Port.ofBindings (bindings : List Binding) (interface : Int) (log : Log.Logger) :
    Traced Port := do
  let row := toString interface
  let mac? ← Binding.attribute? bindings Oid.interfaceMac row log (·.mac? .either log)
  let status? ← Binding.attribute? bindings Oid.interfaceStatus row log
    (·.status? interface log)
  let speed? ← Binding.attribute? bindings Oid.interfaceSpeed row log (·.speed? interface log)
  let name? ← Binding.attribute? bindings Oid.interfaceName row log (·.name? log)
  let unknown := Port.ofInterface interface
  pure { unknown with
    mac?
    status := status?.getD unknown.status
    maxSpeed := speed?.getD unknown.maxSpeed
    name := name?.getD unknown.name }

/-- The interface that a row of the table of neighbours belongs to: the second of its three
numbers. -/
def Neighbour.interfaceOf? (index : String) : Option Int :=
  match index.toList.splitOn '.' with
  | [_, interface, _] => Text.signed? interface
  | _ => none

/-- The neighbour of a row, from the binding that says how its chassis is identified. Only a
chassis identified by a MAC address can be found again as a port. -/
def Neighbour.ofBinding? (bindings : List Binding) (subtype : Binding) (log : Log.Logger) :
    Traced (Option Neighbour) := do
  if subtype.type = .integer then
    if ChassisSubtype.ofString subtype.value = .known .macAddress then
      let mac? ← Binding.attribute? bindings Oid.remoteChassis subtype.index log
        (·.mac? .colons log)
      match mac?, Neighbour.interfaceOf? subtype.index with
      | none, _ => pure none
      | some mac, some interface => pure (some ⟨mac, interface⟩)
      | some _, none =>
        log.warning s!"malformed remote table index {Text.quoted subtype.index}"
        pure none
    else
      log.warning s!"couldn't parse {subtype.oid} subtype {subtype.value} - not implemented"
      pure none
  else
    subtype.warnNotImplemented log
    pure none

/-- The port of the interface that a binding numbers. A port that no MAC address identifies is
dropped. -/
def Port.ofBinding? (bindings : List Binding) (numbered : Binding) (log : Log.Logger) :
    Traced (Option Port) := do
  if numbered.type = .integer then
    match enumerated? numbered.value with
    | none =>
      log.warning s!"bad interface index {Text.quoted numbered.value}"
      pure none
    | some interface =>
      let port ← Port.ofBindings bindings interface log
      if port.mac?.isSome then pure (some port)
      else
        log.warning s!"dropping interface {interface} without a MAC"
        pure none
  else
    numbered.warnNotImplemented log
    pure none

/-- One thing that a host reported. -/
inductive Finding
  /-- The capabilities that the device supports. -/
  | supported (mask : Int)
  /-- The capabilities that are enabled on the device. -/
  | enabled (mask : Int)
  /-- The name of the device. -/
  | name (name : String)
  /-- A port. -/
  | port (port : Port)
  /-- A neighbour. -/
  | neighbour (neighbour : Neighbour)
  deriving DecidableEq

/-- The finding that a binding gives among all bindings of its host. -/
def Finding.ofBinding? (bindings : List Binding) (log : Log.Logger) (binding : Binding) :
    Traced (Option Finding) := do
  if binding.oid = Oid.localCapabilitiesSupported then
    pure ((← binding.capabilities? log).map .supported)
  else if binding.oid = Oid.localCapabilitiesEnabled then
    pure ((← binding.capabilities? log).map .enabled)
  else if binding.oid = Oid.localSystemName then
    pure ((← binding.name? log).map .name)
  else if binding.oid = Oid.interfaceIndex then
    pure ((← Port.ofBinding? bindings binding log).map .port)
  else if binding.oid = Oid.remoteChassisSubtype then
    pure ((← Neighbour.ofBinding? bindings binding log).map .neighbour)
  else pure none

namespace Observation

/-- The observation with one more finding. A later value of the device replaces an earlier one;
ports and neighbours are all kept. -/
def add (observation : Observation) : Finding → Observation
  | .supported mask =>
    { observation with device := { observation.device with supported := mask } }
  | .enabled mask => { observation with device := { observation.device with enabled := mask } }
  | .name name => { observation with device := { observation.device with name } }
  | .port port => { observation with ports := observation.ports ++ [port] }
  | .neighbour neighbour =>
    { observation with neighbours := observation.neighbours ++ [neighbour] }

/-- The observation that the bindings of a host make. -/
def ofBindings (host : Ipv4) (bindings : List Binding) (log : Log.Logger) :
    Traced Observation := do
  let log := log.child "host" (toString host)
  let found ← bindings.mapM (Finding.ofBinding? bindings log)
  pure ((found.filterMap id).foldl add (.ofAddress host))

end Observation

end CableMap
