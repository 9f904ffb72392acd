import CableMap.Binding

/-!
# Chassis identifiers

A neighbour identifies its chassis in one of seven ways, which IEEE 802.1AB numbers from 1.
-/
namespace CableMap

/-- How a chassis is identified. -/
inductive ChassisSubtype
  | chassisComponent
  | interfaceAlias
  | portComponent
  | macAddress
  | networkAddress
  | interfaceName
  | locallyAssigned
  deriving DecidableEq

namespace ChassisSubtype

/-- The number of a way to identify a chassis. -/
def number : ChassisSubtype → Nat
  | .chassisComponent => 1
  | .interfaceAlias => 2
  | .portComponent => 3
  | .macAddress => 4
  | .networkAddress => 5
  | .interfaceName => 6
  | .locallyAssigned => 7

/-- All ways, by their numbers. -/
def all : List ChassisSubtype :=
  [.chassisComponent, .interfaceAlias, .portComponent, .macAddress, .networkAddress,
    .interfaceName, .locallyAssigned]

/-- The way of a number. -/
def ofNat? (n : Nat) : Option ChassisSubtype := all.find? fun subtype => subtype.number = n

/-- What a text is, seen as a way to identify a chassis. -/
inductive Reading
  /-- One of the seven. -/
  | known (subtype : ChassisSubtype)
  /-- None of them: a number of one octet without a way, or a text that writes no such number. -/
  | unknown (shown : String)
  deriving DecidableEq

/-- What a text is, seen as a way to identify a chassis, with or without its label. -/
def ofString (text : String) : Reading :=
  match enumerated? text with
  | none => .unknown text
  | some n =>
    if 0 ≤ n ∧ n < 256 then
      match ofNat? n.toNat with
      | some subtype => .known subtype
      | none => .unknown (toString n)
    else .unknown text

/-- What is said of something that is no way to identify a chassis. -/
def unknownMessage (shown : String) : String := s!"invalid ChassisId subtype: {shown}"

end ChassisSubtype

end CableMap
