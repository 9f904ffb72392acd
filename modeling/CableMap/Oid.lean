/-!
# Object identifiers

The identifiers read on every host, in the numeric form in which walk output prints them, and
the catalogs that list which of them a walk covers.
-/
namespace CableMap

/-- An object identifier in numeric form: a dot before each number. -/
abbrev Oid := String

namespace Oid

/-- The name of the host's own system. -/
def localSystemName : Oid := ".1.0.8802.1.1.2.1.3.3"

/-- The capabilities that the host's own system supports. -/
def localCapabilitiesSupported : Oid := ".1.0.8802.1.1.2.1.3.5"

/-- The capabilities that are enabled on the host's own system. -/
def localCapabilitiesEnabled : Oid := ".1.0.8802.1.1.2.1.3.6"

/-- How the host identifies each of its own ports. -/
def localPortSubtype : Oid := ".1.0.8802.1.1.2.1.3.7.1.2"

/-- The host's identifier for each of its own ports. -/
def localPort : Oid := ".1.0.8802.1.1.2.1.3.7.1.3"

/-- The number of each interface. -/
def interfaceIndex : Oid := ".1.3.6.1.2.1.2.2.1.1"

/-- The kind of each interface. -/
def interfaceType : Oid := ".1.3.6.1.2.1.2.2.1.3"

/-- The speed of each interface in bits per second. -/
def interfaceSpeed : Oid := ".1.3.6.1.2.1.2.2.1.5"

/-- The MAC address of each interface. -/
def interfaceMac : Oid := ".1.3.6.1.2.1.2.2.1.6"

/-- The operating status of each interface. -/
def interfaceStatus : Oid := ".1.3.6.1.2.1.2.2.1.8"

/-- The name of each interface. -/
def interfaceName : Oid := ".1.3.6.1.2.1.31.1.1.1.1"

/-- How each neighbour identifies its chassis. -/
def remoteChassisSubtype : Oid := ".1.0.8802.1.1.2.1.4.1.1.4"

/-- The identifier of each neighbour's chassis. -/
def remoteChassis : Oid := ".1.0.8802.1.1.2.1.4.1.1.5"

/-- How each neighbour identifies its port. -/
def remotePortSubtype : Oid := ".1.0.8802.1.1.2.1.4.1.1.6"

/-- The identifier of each neighbour's port. -/
def remotePort : Oid := ".1.0.8802.1.1.2.1.4.1.1.7"

/-- The name of each neighbour's system. -/
def remoteSystemName : Oid := ".1.0.8802.1.1.2.1.4.1.1.9"

/-- The capabilities that each neighbour supports. -/
def remoteCapabilitiesSupported : Oid := ".1.0.8802.1.1.2.1.4.1.1.11"

/-- The capabilities that are enabled on each neighbour. -/
def remoteCapabilitiesEnabled : Oid := ".1.0.8802.1.1.2.1.4.1.1.12"

end Oid

/-- The identifiers that a walk covers, in the order in which they are walked. A line that names
several of them counts as the earliest. -/
abbrev Catalog := List Oid

namespace Catalog

/-- What a host says of its own system. -/
def system : Catalog :=
  [Oid.localSystemName, Oid.localCapabilitiesSupported, Oid.localCapabilitiesEnabled,
    Oid.localPortSubtype, Oid.localPort]

/-- The table of a host's interfaces. -/
def interfaces : Catalog :=
  [Oid.interfaceIndex, Oid.interfaceType, Oid.interfaceSpeed, Oid.interfaceMac,
    Oid.interfaceStatus, Oid.interfaceName]

/-- The table of a host's neighbours. -/
def neighbours : Catalog :=
  [Oid.remoteChassisSubtype, Oid.remoteChassis, Oid.remotePortSubtype, Oid.remotePort,
    Oid.remoteSystemName, Oid.remoteCapabilitiesSupported, Oid.remoteCapabilitiesEnabled]

/-- All that is read of a host: its system and both of its tables. -/
def full : Catalog := system ++ interfaces ++ neighbours

/-- The tables of a host, which change while its system stays the same. -/
def tables : Catalog := interfaces ++ neighbours

end Catalog

end CableMap
