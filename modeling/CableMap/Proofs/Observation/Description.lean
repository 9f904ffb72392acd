import CableMap.Observation.Bindings
import CableMap.Proofs.Address.Mac
import CableMap.Proofs.Binding.Line
import CableMap.Proofs.Text.Decimal

/-!
# What a host describes, and how it is printed

A host describes its system, its interfaces and its neighbours. Each attribute is printed as one
line, in one of the forms that agents use: octets with or without a zero in front and in either
case, a MAC address with blanks or with colons, a number alone or behind its label.
-/
namespace CableMap

/-! ## Printed forms -/

/-- A label that may stand before a number: it has no blank, no dot and none of the marks that a
value is cut at. -/
structure Label where
  text : String
  plain : ∀ c ∈ text.toList, Text.isBlank c = false ∧ c ≠ '.' ∧ c ≠ ':' ∧ c ≠ '"' ∧ c ≠ '('

/-- A number alone, or in parentheses behind its label. -/
def labelled (label? : Option Label) (n : Int) : String :=
  match label? with
  | none => toString n
  | some label => label.text ++ "(" ++ toString n ++ ")"

/-- Octets with a blank between each two, and perhaps another behind them. -/
def blankSeparated (pieces : List (List Char)) (blankBehind : Bool) : List Char :=
  [' '].intercalate pieces ++ if blankBehind then [' '] else []

/-- A text in quotes. -/
def inQuotes (text : List Char) : List Char := '"' :: text ++ ['"']

/-- How a MAC address is printed. -/
inductive MacForm
  /-- Its octets in hexadecimal, with blanks. -/
  | blanks (blankBehind : Bool)
  /-- A text with colons, bare or in quotes. -/
  | colons (isQuoted : Bool)

/-- How a MAC address and each of its octets are printed. -/
structure MacStyle where
  form : MacForm
  octets : Nat → OctetStyle

namespace MacStyle

/-- The type that is printed before the address. -/
def type (style : MacStyle) : ValueType :=
  match style.form with
  | .blanks _ => .hexString
  | .colons _ => .string

/-- The address without marks around it. -/
def core (style : MacStyle) (mac : Mac) : List Char :=
  match style.form with
  | .blanks _ => [' '].intercalate (mac.pieces style.octets)
  | .colons _ => [':'].intercalate (mac.pieces style.octets)

/-- The printed address. -/
def print (style : MacStyle) (mac : Mac) : List Char :=
  match style.form with
  | .blanks blankBehind => blankSeparated (mac.pieces style.octets) blankBehind
  | .colons isQuoted =>
    if isQuoted then inQuotes (style.core mac) else style.core mac

end MacStyle

/-- Capabilities as two octets. -/
structure MaskOctets where
  first : UInt8
  second : UInt8
  octets : Nat → OctetStyle
  blankBehind : Bool

/-- The pieces that the octets are written as. -/
def MaskOctets.pieces (mask : MaskOctets) : List (List Char) :=
  [(mask.octets 0).write mask.first, (mask.octets 1).write mask.second]

/-! ## Descriptions -/

namespace Description

/-- An interface that can be stored, and how its attributes are printed. -/
structure Interface where
  number : Int
  mac : Mac
  speed : UInt32
  status : Int
  name : String
  macStyle : MacStyle
  label? : Option Label
  number_fits : Text.InSixtyFour number
  status_fits : Text.InSixtyFour status
  mac_some : mac.isNull = false

/-- A neighbour that can be a port, and how its attributes are printed. -/
structure Neighbour where
  timeMark : Nat
  localPort : Nat
  remoteIndex : Nat
  mac : Mac
  macStyle : MacStyle
  label? : Option Label
  localPort_fits : Text.InSixtyFour localPort
  mac_some : mac.isNull = false

/-- The row of a neighbour. -/
def Neighbour.row (neighbour : Neighbour) : String :=
  s!"{neighbour.timeMark}.{neighbour.localPort}.{neighbour.remoteIndex}"

end Description

open Description (Interface) in
/-- What a host describes. -/
structure Description where
  name : String
  supported : MaskOctets
  enabled : MaskOctets
  interfaces : List Interface
  neighbours : List Description.Neighbour
  /-- The attributes of the system are printed with the row zero. -/
  isNumbered : Bool
  interfaces_distinct : (interfaces.map (·.number)).Nodup
  neighbours_distinct : (neighbours.map fun neighbour =>
    (neighbour.timeMark, neighbour.localPort, neighbour.remoteIndex)).Nodup

namespace Description

/-- One attribute of a description. -/
inductive Attribute
  | systemName (isNumbered : Bool) (name : String)
  | supported (isNumbered : Bool) (mask : MaskOctets)
  | enabled (isNumbered : Bool) (mask : MaskOctets)
  | interfaceNumber (interface : Interface)
  | interfaceSpeed (interface : Interface)
  | interfaceMac (interface : Interface)
  | interfaceStatus (interface : Interface)
  | interfaceName (interface : Interface)
  | chassisSubtype (neighbour : Neighbour)
  | chassis (neighbour : Neighbour)

/-- The row of an attribute of the system. -/
def systemRow (isNumbered : Bool) : String := if isNumbered then "0" else ""

namespace Attribute

/-- The binding whose line prints an attribute. A neighbour's chassis is identified by a MAC
address, which is the fourth way. -/
def binding : Attribute → Binding
  | .systemName isNumbered name =>
    ⟨Oid.localSystemName, systemRow isNumbered, .string, String.ofList (inQuotes name.toList)⟩
  | .supported isNumbered mask =>
    ⟨Oid.localCapabilitiesSupported, systemRow isNumbered, .hexString,
      String.ofList (blankSeparated mask.pieces mask.blankBehind)⟩
  | .enabled isNumbered mask =>
    ⟨Oid.localCapabilitiesEnabled, systemRow isNumbered, .hexString,
      String.ofList (blankSeparated mask.pieces mask.blankBehind)⟩
  | .interfaceNumber interface =>
    ⟨Oid.interfaceIndex, toString interface.number, .integer, toString interface.number⟩
  | .interfaceSpeed interface =>
    ⟨Oid.interfaceSpeed, toString interface.number, .gauge32, toString interface.speed.toNat⟩
  | .interfaceMac interface =>
    ⟨Oid.interfaceMac, toString interface.number, interface.macStyle.type,
      String.ofList (interface.macStyle.print interface.mac)⟩
  | .interfaceStatus interface =>
    ⟨Oid.interfaceStatus, toString interface.number, .integer,
      labelled interface.label? interface.status⟩
  | .interfaceName interface =>
    ⟨Oid.interfaceName, toString interface.number, .string,
      String.ofList (inQuotes interface.name.toList)⟩
  | .chassisSubtype neighbour =>
    ⟨Oid.remoteChassisSubtype, neighbour.row, .integer, labelled neighbour.label? 4⟩
  | .chassis neighbour =>
    ⟨Oid.remoteChassis, neighbour.row, neighbour.macStyle.type,
      String.ofList (neighbour.macStyle.print neighbour.mac)⟩

/-- The attribute numbers an interface. -/
def isNumber : Attribute → Bool
  | .interfaceNumber _ => true
  | _ => false

/-- The attribute says how a neighbour identifies its chassis. -/
def isSubtype : Attribute → Bool
  | .chassisSubtype _ => true
  | _ => false

end Attribute

/-- The attributes of an interface. -/
def Interface.attributes (interface : Interface) : List Attribute :=
  [.interfaceNumber interface, .interfaceSpeed interface, .interfaceMac interface,
    .interfaceStatus interface, .interfaceName interface]

/-- The attributes of a neighbour. -/
def Neighbour.attributes (neighbour : Neighbour) : List Attribute :=
  [.chassisSubtype neighbour, .chassis neighbour]

/-- The attributes of the system. -/
def systemAttributes (description : Description) : List Attribute :=
  [.systemName description.isNumbered description.name,
    .supported description.isNumbered description.supported,
    .enabled description.isNumbered description.enabled]

/-- The attributes of a description. -/
def attributes (description : Description) : List Attribute :=
  description.systemAttributes ++ (description.interfaces.flatMap Interface.attributes ++
    description.neighbours.flatMap Neighbour.attributes)

/-- The text that prints attributes, a line for each. -/
def print (attributes : List Attribute) : String := Binding.text (attributes.map (·.binding))

/-- Attributes in an order in which a walk may print them: any that keeps the order of the
interfaces and that of the neighbours. -/
structure Ordered (description : Description) (attributes : List Attribute) : Prop where
  all : attributes.Perm description.attributes
  numbers : attributes.filter Attribute.isNumber = description.interfaces.map .interfaceNumber
  subtypes : attributes.filter Attribute.isSubtype = description.neighbours.map .chassisSubtype

/-- A name stays in its line and mentions no identifier that stands before its own in the
catalog. -/
def ClearName (oid : Oid) (name : String) : Prop :=
  '\n' ∉ name.toList ∧
    ∀ other ∈ Catalog.full.before oid, other.isMentionedIn name = false

/-- Every name of a description is clear. -/
structure Clear (description : Description) : Prop where
  name : ClearName Oid.localSystemName description.name
  names : ∀ interface ∈ description.interfaces, ClearName Oid.interfaceName interface.name

/-! ## The observation -/

/-- A name without the marks around it. -/
def bareName (name : String) : String := String.ofList (Text.stripBoth Binding.isMark name.toList)

/-- The port of an interface, under a name. -/
def Interface.port (interface : Interface) (name : String) : Port :=
  ⟨none, none, interface.number, some interface.mac, interface.speed, interface.status, name⟩

/-- The neighbour that is seen. -/
def Neighbour.seen (neighbour : Neighbour) : CableMap.Neighbour :=
  ⟨neighbour.mac, neighbour.localPort⟩

/-- The observation of a description, with its names as another function gives them. -/
def observation (description : Description) (host : Ipv4) (named : String → String) :
    Observation where
  device := ⟨none, host, description.supported.first.toNat, description.enabled.first.toNat,
    named description.name⟩
  ports := description.interfaces.map fun interface => interface.port (named interface.name)
  neighbours := description.neighbours.map Neighbour.seen

end Description

end CableMap
