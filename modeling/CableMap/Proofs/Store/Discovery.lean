import CableMap.Proofs.Address.Ipv4
import CableMap.Proofs.Store.Cabling
import CableMap.Proofs.Store.Picture
import CableMap.Proofs.Store.Sweep

/-!
# Discovery in any order

A family of observations agrees on its cables when the ports at the two ends of each name each
other. When the first of the two is recorded the other may not be stored yet, so the link is made
by whichever comes second, and nothing that is recorded later takes it away. A sweep of such a
family from an empty store therefore shows the same network in whatever order it is made.
-/
namespace CableMap

namespace Observation

/-- The first neighbour on the interface of a port is another port. -/
def Names (observation : Observation) (port other : Port) : Prop :=
  ∃ mac, other.mac? = some mac ∧ observation.PointsTo port mac

instance (observation : Observation) (port other : Port) :
    Decidable (observation.Names port other) :=
  decidable_of_iff
    (other.mac?.any fun mac => (observation.neighbourOn? port.interface).map (·.mac) = some mac) (by
      cases known : other.mac? <;> simp [Names, PointsTo, known])

/-- Observations of different devices, on which every port has a MAC address of its own, and of
which the ports name each other or not at all. -/
structure Family (family : List Observation) : Prop where
  /-- No two observations are of one device. -/
  addresses : (family.map (·.device.address)).Nodup
  /-- Every port has a MAC address. -/
  known : ∀ observation ∈ family, ∀ port ∈ observation.ports, port.mac?.isSome
  /-- No two ports have one MAC address. -/
  apart : (family.flatMap fun observation => observation.ports.map (·.mac?)).Nodup
  /-- A port that is named by another names it. -/
  symmetric : ∀ left ∈ family, ∀ p ∈ left.ports, ∀ right ∈ family, ∀ q ∈ right.ports,
    left.Names p q → right.Names q p

/-- The order of a family does not matter. -/
theorem Family.perm {family order : List Observation} (holds : Family family)
    (perm : order.Perm family) : Family order where
  addresses := (perm.map _).nodup_iff.2 holds.addresses
  known observation inside := holds.known observation (perm.mem_iff.1 inside)
  apart := (perm.flatMap_right _).nodup_iff.2 holds.apart
  symmetric left leftInside p pInside right rightInside q qInside :=
    holds.symmetric left (perm.mem_iff.1 leftInside) p pInside right (perm.mem_iff.1 rightInside) q
      qInside

/-- A sighting of a family is that of a port of one of its observations. -/
theorem mem_family_sightings {family : List Observation} {sighting : Sighting} :
    sighting ∈ family.flatMap (·.sightings) ↔ ∃ observation ∈ family, ∃ port ∈ observation.ports,
      ∃ mac, port.mac? = some mac ∧ observation.sighting port mac = sighting := by
  simp only [List.mem_flatMap, mem_sightings]

/-- No two sightings of a family are of one MAC address. -/
theorem Family.sightings_nodup {family : List Observation} (holds : Family family) :
    ((family.flatMap (·.sightings)).map (·.mac)).Nodup := by
  have macs : (family.flatMap (·.sightings)).map (·.mac) =
      (family.flatMap fun observation => observation.ports.map (·.mac?)).filterMap id := by
    rw [List.map_flatMap, List.filterMap_flatMap]
    refine List.flatMap_congr fun observation _ => ?_
    rw [sightings, List.map_filterMap, List.filterMap_map]
    refine List.filterMap_congr fun port _ => ?_
    cases known : port.mac? <;> simp [known]
  rw [macs]
  refine List.Nodup.filterMap ?_ holds.apart
  intro a b mac left right
  exact (Option.mem_def.1 left).trans (Option.mem_def.1 right).symm

/-- A sighting of a family that names another is named by it. -/
theorem Family.sighting_symmetric {family : List Observation} (holds : Family family)
    {p q : Sighting} (pInside : p ∈ family.flatMap (·.sightings))
    (qInside : q ∈ family.flatMap (·.sightings)) (names : p.peer? = some q.mac) :
    q.peer? = some p.mac := by
  obtain ⟨left, leftInside, port, portInside, x, portKnown, rfl⟩ := mem_family_sightings.1 pInside
  obtain ⟨right, rightInside, other, otherInside, y, otherKnown, rfl⟩ :=
    mem_family_sightings.1 qInside
  obtain ⟨mac, portMac, points⟩ := holds.symmetric left leftInside port portInside right rightInside
    other otherInside ⟨y, otherKnown, names⟩
  obtain rfl : x = mac := Option.some.inj (portKnown.symm.trans portMac)
  exact points

/-- A list that has one item for each port with a MAC address has one for each sighting. -/
theorem map_sightings {α : Type} {observation : Observation} {f : Sighting → α} {g : Port → α}
    (known : ∀ port ∈ observation.ports, port.mac?.isSome)
    (same : ∀ port mac, port.mac? = some mac → f (observation.sighting port mac) = g port) :
    observation.sightings.map f = observation.ports.map g := by
  rw [sightings, List.map_filterMap, ← List.filterMap_eq_map]
  refine List.filterMap_congr fun port inside => ?_
  obtain ⟨mac, portKnown⟩ := Option.isSome_iff_exists.1 (known port inside)
  rw [portKnown, Option.map_some, Option.map_some, same port mac portKnown]
  rfl

end Observation

namespace Store

open Observation

/-- A port as its device reported it, without the device. -/
def PortCells.reported (port : Port) : PortCells :=
  ⟨none, some port.interface, port.mac?.map toString, some port.maxSpeed.toNat, some port.status,
    some port.name⟩

/-- A store shows the network that a family of observations describes. -/
structure Discovered (family : List Observation) (store : Store) : Prop where
  /-- There is one device for each observation. -/
  devices : store.devicePictures.Perm
    (family.map fun observation => .ofDevice observation.device)
  /-- There is one port for each port that was reported, on the device that reported it. -/
  ports : store.portPictures.Perm (family.flatMap fun observation => observation.ports.map
    fun port => (some (.ofDevice observation.device), .reported port))
  /-- No two links join the same ports. -/
  linksApart : (store.linkPictures.map (·.1)).Nodup
  /-- The links are those between different ports that name each other, with the lower of their
  two speeds. -/
  links : ∀ picture, picture ∈ store.linkPictures ↔
    ∃ left ∈ family, ∃ p ∈ left.ports, ∃ right ∈ family, ∃ q ∈ right.ports,
      p.mac? ≠ q.mac? ∧ left.Names p q ∧ right.Names q p ∧
        picture = (s(p.mac?.map toString, q.mac?.map toString),
          plainCable (min p.maxSpeed q.maxSpeed))

/-- The order of a family does not matter to what a store shows of it. -/
theorem Discovered.perm {family order : List Observation} {store : Store}
    (shown : Discovered order store) (perm : order.Perm family) : Discovered family store where
  devices := shown.devices.trans (perm.map _)
  ports := shown.ports.trans (perm.flatMap_right _)
  linksApart := shown.linksApart
  links picture := by
    rw [shown.links]
    simp only [perm.mem_iff]

/-- Two stores that show the network of one family show the same network. -/
theorem Discovered.samePicture {family : List Observation} {left right : Store}
    (leftShown : Discovered family left) (rightShown : Discovered family right) :
    SamePicture left right where
  devices := leftShown.devices.trans rightShown.devices.symm
  ports := leftShown.ports.trans rightShown.ports.symm
  links := by
    refine (List.perm_ext_iff_of_nodup leftShown.linksApart.of_map
      rightShown.linksApart.of_map).2 fun picture => ?_
    rw [leftShown.links, rightShown.links]

namespace Tables

/-- The tables after a family was recorded from an empty store. -/
def discovered (family : List Observation) : Tables :=
  (⟨.empty, .empty, .empty⟩ : Tables).takeAll (family.flatMap (·.notices))

variable {family : List Observation}

/-- The tables after a family was recorded are sound. -/
theorem discovered_sound (family : List Observation) : (discovered family).Sound :=
  Sound.empty.takeAll _

/-- No link joins a port to itself after a family was recorded. -/
theorem discovered_straight (family : List Observation) : (discovered family).Straight :=
  Straight.empty.takeAll _

/-! ## Devices and ports of a family -/

/-- The device rows of a family are those of its observations in order. -/
theorem device_cells_discovered (holds : Family family) :
    (discovered family).devices.rows.map (·.cells) =
      family.map fun observation => .ofDevice observation.device := by
  have keys : (family.map fun observation => DeviceCells.ofDevice observation.device).map
      (·.address) = (family.map (·.device.address)).map fun address => some (addressKey address) := by
    rw [List.map_map, List.map_map]
    rfl
  have apart : ((family.map fun observation => DeviceCells.ofDevice observation.device).map
      (·.address)).Nodup := by
    rw [keys]
    refine holds.addresses.map fun left right same => ?_
    exact Ipv4.toNat_inj.1 (Int.ofNat_inj.1 (Option.some.inj same))
  have devices : (discovered family).devices = Table.empty.putAll (·.address)
      (family.map fun observation => .ofDevice observation.device) := devices_sweep _ family
  rw [devices, Table.cells_putAll_empty apart]

/-- The port rows of a family are those of its sightings in order. -/
theorem port_cells_discovered (holds : Family family) :
    (discovered family).ports.rows.map (·.cells) =
      (family.flatMap (·.sightings)).map (discovered family).portCells := by
  have keys : ((family.flatMap (·.sightings)).map (discovered family).portCells).map (·.mac) =
      ((family.flatMap (·.sightings)).map (·.mac)).map fun mac => some (toString mac) := by
    rw [List.map_map, List.map_map]
    rfl
  have apart : (((family.flatMap (·.sightings)).map (discovered family).portCells).map
      (·.mac)).Nodup := by
    rw [keys]
    exact holds.sightings_nodup.map fun left right same =>
      Mac.toString_inj.1 (Option.some.inj same)
  have ports : (discovered family).ports = Table.empty.putAll (·.mac)
      ((family.flatMap (·.sightings)).map (discovered family).portCells) := ports_sweep _ family
  rw [ports, Table.cells_putAll_empty apart]

/-- A port of a family belongs to the device that reported it. -/
theorem ownerOf_discovered (holds : Family family) {observation : Observation}
    (inside : observation ∈ family) {sighting : Sighting}
    (address : sighting.address = observation.device.address) :
    (discovered family).store.ownerOf ((discovered family).portCells sighting) =
      some (.ofDevice observation.device) := by
  have keyed := (discovered_sound family).devices
  have stored : DeviceCells.ofDevice observation.device ∈
      (discovered family).devices.rows.map (·.cells) := by
    rw [device_cells_discovered holds]
    exact List.mem_map_of_mem inside
  obtain ⟨row, rowInside, cells⟩ := List.mem_map.1 stored
  have found : (discovered family).deviceRow? sighting.address = some row := by
    refine keyed.rowAt?_eq_some_iff.2 ⟨rowInside, ?_⟩
    rw [cells, address]
    rfl
  have owner : ((discovered family).portCells sighting).device = some row.id := by
    show (discovered family).owner? sighting.address = some row.id
    rw [owner?, found, Option.map_some]
  have byId : (discovered family).store.deviceRows.find? (·.id = row.id) = some row :=
    keyed.find?_id rowInside
  rw [ownerOf, owner, Option.bind_some, byId, Option.map_some, cells]

/-- The ports that are shown after a family was recorded are those that it reported. -/
theorem portPictures_discovered (holds : Family family) :
    (discovered family).store.portPictures = family.flatMap fun observation =>
      observation.ports.map fun port => (some (.ofDevice observation.device), .reported port) := by
  have shown : (discovered family).store.portPictures =
      ((discovered family).ports.rows.map (·.cells)).map (discovered family).store.portPicture := by
    rw [List.map_map]
    rfl
  rw [shown, port_cells_discovered holds, List.map_map, List.map_flatMap]
  refine List.flatMap_congr fun observation inside => ?_
  refine map_sightings (holds.known observation inside) fun port mac known => ?_
  have address : (observation.sighting port mac).address = observation.device.address := rfl
  have owner := ownerOf_discovered holds inside address
  rw [Function.comp_apply, portPicture, owner, PortCells.reported, known]
  rfl

/-! ## Cables of a family -/

/-- Each sighting of a family is stored with its own speed. -/
theorem exists_portRow?_discovered (holds : Family family) {sighting : Sighting}
    (inside : sighting ∈ family.flatMap (·.sightings)) :
    ∃ row, (discovered family).portRow? sighting.mac = some row ∧
      row.cells.speed = sighting.port.maxSpeed := by
  have stored : (discovered family).portCells sighting ∈
      (discovered family).ports.rows.map (·.cells) := by
    rw [port_cells_discovered holds]
    exact List.mem_map_of_mem inside
  obtain ⟨row, rowInside, cells⟩ := List.mem_map.1 stored
  refine ⟨row, (discovered_sound family).ports.rowAt?_eq_some_iff.2 ⟨rowInside, ?_⟩, ?_⟩
  · rw [cells]
    rfl
  · rw [cells, portCells, PortCells.speed_ofPort]
    rfl

/-- Only sightings of a family are stored. -/
theorem exists_sighting_of_portRow? (holds : Family family) {x : Mac} {row : Row PortCells}
    (found : (discovered family).portRow? x = some row) :
    ∃ sighting ∈ family.flatMap (·.sightings), sighting.mac = x := by
  obtain ⟨inside, mac⟩ := (discovered_sound family).ports.rowAt?_eq_some_iff.1 found
  have stored : row.cells ∈ (discovered family).ports.rows.map (·.cells) :=
    List.mem_map_of_mem inside
  rw [port_cells_discovered holds] at stored
  obtain ⟨sighting, sighted, cells⟩ := List.mem_map.1 stored
  refine ⟨sighting, sighted, ?_⟩
  rw [← cells] at mac
  exact Mac.toString_inj.1 (Option.some.inj mac)

/-- The notices of a family sight the ports that its observations sight. -/
theorem port_mem_family_notices {sighting : Sighting} :
    .port sighting ∈ family.flatMap (·.notices) ↔ sighting ∈ family.flatMap (·.sightings) := by
  simp only [List.mem_flatMap, port_mem_notices]

/-- The last sighting of two ports of a family decides the cable between them. -/
theorem cable?_discovered_of_last (holds : Family family) {p q : Sighting}
    (qInside : q ∈ family.flatMap (·.sightings)) (apart : q.mac ≠ p.mac)
    {before later : List Notice} (shape : family.flatMap (·.notices) = before ++ .port p :: later)
    (pQuiet : Quiet later p.mac) (qQuiet : Quiet later q.mac) :
    (discovered family).cable? p.mac q.mac =
      if p.peer? = some q.mac then some (plainCable (min p.port.maxSpeed q.port.maxSpeed))
      else none := by
  obtain ⟨row, found, speed⟩ := exists_portRow?_discovered holds qInside
  rw [discovered, shape] at found ⊢
  rw [Sound.empty.cable?_takeAll_of_last before apart pQuiet qQuiet, found, Option.map_some, speed]

/-- Two ports of a family are linked with the lower of their speeds if they name each other, and
not at all if they do not. -/
theorem cable?_discovered (holds : Family family) {p q : Sighting}
    (pInside : p ∈ family.flatMap (·.sightings)) (qInside : q ∈ family.flatMap (·.sightings))
    (apart : p.mac ≠ q.mac) :
    (discovered family).cable? p.mac q.mac =
      if p.peer? = some q.mac then some (plainCable (min p.port.maxSpeed q.port.maxSpeed))
      else none := by
  have unique := List.inj_on_of_nodup_map holds.sightings_nodup
  -- Whichever of the two is sighted last decides, and the other agrees with it.
  rcases last_sighting_of_two (family.flatMap (·.notices)) p.mac q.mac with
    ⟨pQuiet, _⟩ | ⟨before, sighting, later, shape, named, pQuiet, qQuiet⟩
  · exact absurd rfl (pQuiet p (port_mem_family_notices.2 pInside))
  · have inside : sighting ∈ family.flatMap (·.sightings) :=
      port_mem_family_notices.1 (by rw [shape]; simp)
    rcases named with own | own
    · obtain rfl : sighting = p := unique inside pInside own
      exact cable?_discovered_of_last holds qInside apart.symm shape pQuiet qQuiet
    · obtain rfl : sighting = q := unique inside qInside own
      have names : sighting.peer? = some p.mac ↔ p.peer? = some sighting.mac :=
        ⟨holds.sighting_symmetric qInside pInside, holds.sighting_symmetric pInside qInside⟩
      rw [cable?_comm, cable?_discovered_of_last holds pInside apart shape qQuiet pQuiet,
        min_speed_comm]
      simp only [names]

/-- A link that is shown after a family was recorded is between sightings that name each other. -/
theorem exists_sightings_of_mem (holds : Family family)
    {picture : Sym2 (Option String) × Option Int × Option Int × Option Int}
    (shown : picture ∈ (discovered family).store.linkPictures) :
    ∃ p ∈ family.flatMap (·.sightings), ∃ q ∈ family.flatMap (·.sightings),
      p.mac ≠ q.mac ∧ p.peer? = some q.mac ∧ picture = (s(some (toString p.mac),
        some (toString q.mac)), plainCable (min p.port.maxSpeed q.port.maxSpeed)) := by
  have sound := discovered_sound family
  obtain ⟨x, y, a, b, aFound, bFound, ends, known⟩ := sound.exists_cable?_of_mem shown
  obtain ⟨p, pInside, rfl⟩ := exists_sighting_of_portRow? holds aFound
  obtain ⟨q, qInside, rfl⟩ := exists_sighting_of_portRow? holds bFound
  have apart : p.mac ≠ q.mac := by
    intro same
    rw [same, sound.cable?_self (discovered_straight family)] at known
    exact Option.some_ne_none _ known.symm
  rw [cable?_discovered holds pInside qInside apart] at known
  split at known
  · rename_i names
    exact ⟨p, pInside, q, qInside, apart, names, Prod.ext ends (Option.some.inj known).symm⟩
  · exact absurd known.symm (Option.some_ne_none _)

/-- Sightings of a family that name each other are shown as linked. -/
theorem mem_linkPictures_of_names (holds : Family family) {p q : Sighting}
    (pInside : p ∈ family.flatMap (·.sightings)) (qInside : q ∈ family.flatMap (·.sightings))
    (apart : p.mac ≠ q.mac) (names : p.peer? = some q.mac) :
    (s(some (toString p.mac), some (toString q.mac)),
      plainCable (min p.port.maxSpeed q.port.maxSpeed)) ∈
        (discovered family).store.linkPictures := by
  have known := cable?_discovered holds pInside qInside apart
  rw [if_pos names] at known
  exact (discovered_sound family).mem_linkPictures known

/-- The links that are shown after a family was recorded are those between different ports that
name each other. -/
theorem mem_linkPictures_discovered (holds : Family family)
    (picture : Sym2 (Option String) × Option Int × Option Int × Option Int) :
    picture ∈ (discovered family).store.linkPictures ↔
      ∃ left ∈ family, ∃ p ∈ left.ports, ∃ right ∈ family, ∃ q ∈ right.ports,
        p.mac? ≠ q.mac? ∧ left.Names p q ∧ right.Names q p ∧
          picture = (s(p.mac?.map toString, q.mac?.map toString),
            plainCable (min p.maxSpeed q.maxSpeed)) := by
  constructor
  · intro shown
    obtain ⟨p, pInside, q, qInside, apart, names, rfl⟩ := exists_sightings_of_mem holds shown
    have returned := holds.sighting_symmetric pInside qInside names
    obtain ⟨left, leftInside, port, portInside, x, xKnown, rfl⟩ := mem_family_sightings.1 pInside
    obtain ⟨right, rightInside, other, otherInside, y, yKnown, rfl⟩ :=
      mem_family_sightings.1 qInside
    refine ⟨left, leftInside, port, portInside, right, rightInside, other, otherInside, ?_,
      ⟨y, yKnown, names⟩, ⟨x, xKnown, returned⟩, ?_⟩
    · rw [xKnown, yKnown]
      exact fun same => apart (Option.some.inj same)
    · rw [xKnown, yKnown]
      rfl
  · rintro ⟨left, leftInside, port, portInside, right, rightInside, other, otherInside, apart,
      ⟨y, yKnown, names⟩, ⟨x, xKnown, _⟩, rfl⟩
    rw [xKnown, yKnown] at apart
    rw [xKnown, yKnown, Option.map_some, Option.map_some]
    have pInside : left.sighting port x ∈ family.flatMap (·.sightings) :=
      mem_family_sightings.2 ⟨left, leftInside, port, portInside, x, xKnown, rfl⟩
    have qInside : right.sighting other y ∈ family.flatMap (·.sightings) :=
      mem_family_sightings.2 ⟨right, rightInside, other, otherInside, y, yKnown, rfl⟩
    have shown := mem_linkPictures_of_names holds pInside qInside
      (fun same => apart (congrArg some same)) names
    rwa [sighting_mac, sighting_mac, sighting_port, sighting_port] at shown

/-- A family that is recorded from an empty store is shown. -/
theorem discovered_shown (holds : Family family) :
    Discovered family (discovered family).store where
  devices := .of_eq (device_cells_discovered holds)
  ports := .of_eq (portPictures_discovered holds)
  linksApart := (discovered_sound family).ends_pictures_nodup
  links := mem_linkPictures_discovered holds

end Tables

/-- A family that is recorded from an empty store is discovered the same in whatever order its
observations come. -/
theorem discovered_in_any_order {family order : List Observation} (holds : Family family)
    (perm : order.Perm family) (place : String) (opening log : Log.Logger) :
    let opened := after (openAt place opening) ⟨none, none, none⟩
    ∃ inOrder reordered, result (sweep family log) opened = (.ok (), inOrder) ∧
      result (sweep order log) opened = (.ok (), reordered) ∧
      SamePicture reordered inOrder ∧ Discovered family reordered := by
  have reordered := (Tables.discovered_shown (holds.perm perm)).perm perm
  refine ⟨_, _, Tables.Sound.empty.result_sweep family log,
    Tables.Sound.empty.result_sweep order log, ?_, reordered⟩
  exact reordered.samePicture (Tables.discovered_shown holds)

/-- A host with one port whose neighbour is the port of another. -/
def hostBeside (address : Ipv4) (mac peer : Mac) (maxSpeed : UInt32) : Observation :=
  ⟨.ofAddress address, [{ Port.ofInterface 1 with mac? := some mac, maxSpeed := maxSpeed }],
    [⟨peer, 1⟩]⟩

/-- Two hosts with a cable between them. -/
def twoHosts : List Observation :=
  [hostBeside ⟨10, 0, 0, 1⟩ ⟨2, 0, 0, 0, 0, 1⟩ ⟨2, 0, 0, 0, 0, 2⟩ 1000,
    hostBeside ⟨10, 0, 0, 2⟩ ⟨2, 0, 0, 0, 0, 2⟩ ⟨2, 0, 0, 0, 0, 1⟩ 100]

/-- The two hosts make a family. -/
theorem twoHosts_family : Family twoHosts where
  addresses := by decide
  known := by decide
  apart := by decide
  symmetric := by decide

/-- Two hosts are discovered the same in either order. -/
theorem twoHosts_discovered_in_any_order :
    Family twoHosts ∧ twoHosts.reverse.Perm twoHosts ∧
      ∃ inOrder reordered,
        result (sweep twoHosts .root) (after (openAt "cables" .root) ⟨none, none, none⟩) =
          (.ok (), inOrder) ∧
        result (sweep twoHosts.reverse .root) (after (openAt "cables" .root) ⟨none, none, none⟩) =
          (.ok (), reordered) ∧
        SamePicture reordered inOrder ∧ Discovered twoHosts reordered :=
  ⟨twoHosts_family, twoHosts.reverse_perm,
    discovered_in_any_order twoHosts_family twoHosts.reverse_perm "cables" .root .root⟩

end Store

end CableMap
