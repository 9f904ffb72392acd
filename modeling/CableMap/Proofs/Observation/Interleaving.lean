import CableMap.Proofs.Binding.Mention
import CableMap.Proofs.Observation.Columns

/-!
# How bindings stand among each other

Observations are made of ten identifiers. Two lists of bindings that agree on the column of each
make the same observation, however long they are and whatever they hold: columns may be mixed in
any way, what is carried over may stand at the end, and bindings of other identifiers may stand
anywhere.
-/
namespace CableMap

namespace Observation

/-- Bindings that agree on the columns that observations are made of give the same device, and the
same ports and neighbours in the same order. -/
theorem observed_by_columns (host : Ipv4) (log : Log.Logger) {left right : List Binding}
    (same : ∀ oid ∈ Catalog.observed, Binding.column left oid = Binding.column right oid) :
    let first := (ofBindings host left log).value
    let second := (ofBindings host right log).value
    first.device = second.device ∧ first.ports = second.ports ∧
      first.neighbours = second.neighbours := by
  have ofDevice : ∀ oid ∈ Catalog.ofDevice, oid ∈ Catalog.observed := by decide
  have ofPorts : ∀ oid ∈ Catalog.ofPorts, oid ∈ Catalog.observed := by decide
  have ofNeighbours : ∀ oid ∈ Catalog.ofNeighbours, oid ∈ Catalog.observed := by decide
  refine ⟨?_, ?_, ?_⟩
  · exact device_ofBindings_congr fun oid inside => same oid (ofDevice oid inside)
  · exact ports_ofBindings_congr fun oid inside => same oid (ofPorts oid inside)
  · exact neighbours_ofBindings_congr fun oid inside => same oid (ofNeighbours oid inside)

/-- Bindings of a host whose columns are mixed: a row comes before its number, an attribute and a
name are repeated, some values cannot be read, some identifiers are of no use, and the system
comes last. -/
def mixedBindings : List Binding :=
  [⟨Oid.interfaceMac, "2", .string, "2:0:0:0:0:2"⟩,
    ⟨Oid.interfaceIndex, "1", .integer, "1"⟩,
    ⟨Oid.interfaceType, "1", .integer, "ethernetCsmacd(6)"⟩,
    ⟨Oid.remoteChassis, "0.2.1", .hexString, "02 00 00 00 00 09"⟩,
    ⟨Oid.interfaceMac, "1", .hexString, "02 00 00 00 00 01"⟩,
    ⟨Oid.interfaceIndex, "2", .integer, "2"⟩,
    ⟨Oid.interfaceMac, "1", .hexString, "02 00 00 00 00 07"⟩,
    ⟨Oid.remoteChassisSubtype, "0.2.1", .integer, "macAddress(4)"⟩,
    ⟨Oid.interfaceIndex, "3", .integer, "three"⟩,
    ⟨Oid.interfaceSpeed, "2", .gauge32, "fast"⟩,
    ⟨Oid.interfaceSpeed, "1", .gauge32, "1000"⟩,
    ⟨Oid.remoteSystemName, "0.2.1", .string, "core"⟩,
    ⟨Oid.interfaceName, "1", .string, "uplink"⟩,
    ⟨Oid.interfaceStatus, "1", .integer, "up(1)"⟩,
    ⟨Oid.localSystemName, "0", .string, "edge"⟩,
    ⟨Oid.localCapabilitiesSupported, "0", .hexString, "28 00"⟩,
    ⟨Oid.localPort, "1", .string, "1"⟩,
    ⟨Oid.localSystemName, "0", .string, "edge-2"⟩]

/-- Mixed bindings make the observation that their columns make one after the other. -/
theorem mixedBindings_observed_by_columns :
    let sorted := Catalog.observed.flatMap (Binding.column mixedBindings)
    let first := (ofBindings ⟨10, 0, 0, 1⟩ mixedBindings .root).value
    let second := (ofBindings ⟨10, 0, 0, 1⟩ sorted .root).value
    (∀ oid ∈ Catalog.observed, Binding.column mixedBindings oid = Binding.column sorted oid) ∧
      (first.device = second.device ∧ first.ports = second.ports ∧
        first.neighbours = second.neighbours) ∧
      first.device.name = "edge-2" ∧ first.ports.map (·.maxSpeed) = [1000, 0] ∧
      first.neighbours = [⟨⟨2, 0, 0, 0, 0, 9⟩, 2⟩] := by
  have same : ∀ oid ∈ Catalog.observed, Binding.column mixedBindings oid =
      Binding.column (Catalog.observed.flatMap (Binding.column mixedBindings)) oid := by
    decide +kernel
  exact ⟨same, observed_by_columns ⟨10, 0, 0, 1⟩ .root same, by decide +kernel⟩

end Observation

end CableMap
