import CableMap.Proofs.Store.Cable
import CableMap.Proofs.Store.Operation

/-!
# The cables after one observation

To record an observation is to redo the cables of the ports that it reports and no others. Between
two reported ports, or a reported and another stored one, the last port reported decides: there is
a link exactly if its first neighbour is the other port.
-/
namespace CableMap

namespace Observation

/-- A port with a MAC address is reported. -/
def Reports (observation : Observation) (x : Mac) : Prop :=
  ∃ port ∈ observation.ports, port.mac? = some x

instance (observation : Observation) (x : Mac) : Decidable (observation.Reports x) :=
  inferInstanceAs (Decidable (∃ port ∈ observation.ports, port.mac? = some x))

/-- The last port reported under one of some MAC addresses. -/
def lastPort? (observation : Observation) (macs : List Mac) : Option Port :=
  observation.ports.reverse.find? fun port => port.mac? ∈ macs.map some

/-- The first neighbour on the interface of a port goes by a MAC address. -/
def PointsTo (observation : Observation) (port : Port) (x : Mac) : Prop :=
  (observation.neighbourOn? port.interface).map (·.mac) = some x

/-- A port that is not reported is not sighted. -/
theorem quiet_of_not_reports {observation : Observation} {x : Mac}
    (unreported : ¬ observation.Reports x) : Store.Quiet observation.notices x := by
  intro sighting inside same
  obtain ⟨port, reported, mac, known, rfl⟩ := mem_sightings.1 (port_mem_notices.1 inside)
  have own : mac = x := same.symm
  exact unreported ⟨port, reported, own ▸ known⟩

/-- There is a last port under some MAC addresses if one of them is reported. -/
theorem exists_lastPort? {observation : Observation} {macs : List Mac} {x : Mac}
    (named : x ∈ macs) (reported : observation.Reports x) :
    ∃ port, observation.lastPort? macs = some port := by
  obtain ⟨port, inside, known⟩ := reported
  have some : (observation.lastPort? macs).isSome := by
    rw [lastPort?, List.find?_isSome]
    exact ⟨port, List.mem_reverse.2 inside,
      by rw [known, decide_eq_true (List.mem_map_of_mem named)]⟩
  exact Option.isSome_iff_exists.1 some

/-- The sighting of the last port under some MAC addresses is the last of any of them. -/
theorem notices_of_lastPort? {observation : Observation} {macs : List Mac} {port : Port}
    (last : observation.lastPort? macs = some port) :
    ∃ mac ∈ macs, port.mac? = some mac ∧ ∃ before later,
      observation.notices = before ++ .port (observation.sighting port mac) :: later ∧
        ∀ x ∈ macs, Store.Quiet later x := by
  obtain ⟨chosen, later, before, shape, quiet⟩ := List.find?_eq_some_iff_append.1 last
  obtain ⟨mac, named, known⟩ := List.mem_map.1 (of_decide_eq_true chosen)
  have ports : observation.ports = before.reverse ++ port :: later.reverse := by
    rw [← List.reverse_reverse observation.ports, shape, List.reverse_append, List.reverse_cons,
      List.append_assoc]
    rfl
  let sighted := fun port : Port => port.mac?.map (observation.sighting port)
  refine ⟨mac, named, known.symm,
    .device observation.device :: (before.reverse.filterMap sighted).map .port,
    (later.reverse.filterMap sighted).map .port, ?_, ?_⟩
  · rw [notices, sightings, ports, List.filterMap_append, List.filterMap_cons, ← known]
    simp [sighted]
  · intro x wanted sighting inside same
    have found : sighting ∈ later.reverse.filterMap sighted := by simpa using inside
    obtain ⟨other, otherLater, sightedOther⟩ := List.mem_filterMap.1 found
    obtain ⟨otherMac, otherKnown, rfl⟩ := Option.map_eq_some_iff.1 sightedOther
    have own : otherMac = x := same.symm
    have passed := quiet other (List.mem_reverse.1 otherLater)
    rw [otherKnown, own, decide_eq_true (List.mem_map_of_mem wanted)] at passed
    exact Bool.false_ne_true passed

end Observation

namespace Store

/-- A port with a MAC address is stored. -/
def Stores (store : Store) (x : Mac) : Prop :=
  ∃ row ∈ store.portRows, row.cells.mac = some (toString x)

/-- A link is stored that joins the ports with two MAC addresses, whichever end is which. -/
def HasLink (store : Store) (link : Row LinkCells) (x y : Mac) : Prop :=
  link ∈ store.linkRows ∧ ∃ a ∈ store.portRows, ∃ b ∈ store.portRows,
    a.cells.mac = some (toString x) ∧ b.cells.mac = some (toString y) ∧
      link.cells.ends = s(some a.id, some b.id)

/-- Some link joins the ports with two MAC addresses. -/
def Linked (store : Store) (x y : Mac) : Prop := ∃ link, store.HasLink link x y

/-- The links of a store are what recording an observation makes of those before. -/
structure Cabled (before after : Store) (observation : Observation) : Prop where
  /-- The links between ports that are not reported stay as they are. -/
  unreported : ∀ x y, ¬ observation.Reports x → ¬ observation.Reports y →
    ∀ link, after.HasLink link x y ↔ before.HasLink link x y
  /-- A reported port is linked to a stored one that is not reported exactly if it points to it
  where it is reported last. -/
  reported : ∀ x y, observation.Reports x → ¬ observation.Reports y → after.Stores y →
    (after.Linked x y ↔ ∃ port, observation.lastPort? [x] = some port ∧
      observation.PointsTo port y)
  /-- Two reported ports are linked exactly if the one that is reported last points to the
  other. -/
  bothReported : ∀ x y, x ≠ y → observation.Reports x → observation.Reports y →
    (after.Linked x y ↔ ∃ port, observation.lastPort? [x, y] = some port ∧
      (port.mac? = some x ∧ observation.PointsTo port y ∨
        port.mac? = some y ∧ observation.PointsTo port x))
  /-- No link joins a port to itself. -/
  straight : ∀ link ∈ after.linkRows, link.cells.a ≠ link.cells.b

namespace Tables

variable {tables : Tables}

/-! ## Asking a store as one asks its tables -/

/-- A port is stored exactly if there is a row for it. -/
theorem Sound.stores_store (sound : tables.Sound) {x : Mac} :
    tables.store.Stores x ↔ (tables.portRow? x).isSome := by
  constructor
  · rintro ⟨row, inside, mac⟩
    rw [portRow?, sound.ports.rowAt?_eq_some_iff.2 ⟨inside, mac⟩]
    rfl
  · intro stored
    obtain ⟨row, found⟩ := Option.isSome_iff_exists.1 stored
    exact ⟨row, sound.ports.rowAt?_eq_some_iff.1 found⟩

/-- A link joins two ports of a store exactly if it is found between their MAC addresses. -/
theorem Sound.hasLink_store (sound : tables.Sound) {link : Row LinkCells} {x y : Mac} :
    tables.store.HasLink link x y ↔ tables.linkBetween? x y = some link := by
  constructor
  · rintro ⟨inside, a, aInside, b, bInside, aMac, bMac, ends⟩
    have aFound : tables.portRow? x = some a := sound.ports.rowAt?_eq_some_iff.2 ⟨aInside, aMac⟩
    have bFound : tables.portRow? y = some b := sound.ports.rowAt?_eq_some_iff.2 ⟨bInside, bMac⟩
    rw [linkBetween?, aFound, bFound]
    exact sound.links.rowAt?_eq_some_iff.2 ⟨inside, ends⟩
  · intro found
    obtain ⟨inside, a, b, aFound, bFound, ends⟩ := sound.ends_of_linkBetween? found
    obtain ⟨aInside, aMac⟩ := sound.ports.rowAt?_eq_some_iff.1 aFound
    obtain ⟨bInside, bMac⟩ := sound.ports.rowAt?_eq_some_iff.1 bFound
    exact ⟨inside, a, aInside, b, bInside, aMac, bMac, ends⟩

/-- Two ports of a store are linked exactly if there is a cable between their MAC addresses. -/
theorem Sound.linked_store (sound : tables.Sound) {x y : Mac} :
    tables.store.Linked x y ↔ (tables.cable? x y).isSome := by
  rw [cable?, Option.isSome_map, Option.isSome_iff_exists]
  exact exists_congr fun link => sound.hasLink_store

/-! ## The cables of an observation -/

/-- After an observation every port that it reports is stored. -/
theorem isSome_portRow?_of_reports (tables : Tables) {observation : Observation} {x : Mac}
    (reported : observation.Reports x) :
    ((tables.takeAll observation.notices).portRow? x).isSome := by
  obtain ⟨port, inside, known⟩ := reported
  have sighted : observation.sighting port x ∈ observation.sightings :=
    Observation.mem_sightings.2 ⟨port, inside, x, known, rfl⟩
  have stored := isSome_portRow?_of_sighted tables (Observation.port_mem_notices.2 sighted)
  rwa [Observation.sighting_mac] at stored

/-- After an observation a port is linked to another stored one exactly if it points to it, where
it is the last port reported of the two. -/
theorem Sound.isSome_cable?_of_last (sound : tables.Sound) {observation : Observation}
    {port : Port} {x y : Mac} (apart : y ≠ x) {before later : List Notice}
    (shape : observation.notices = before ++ .port (observation.sighting port x) :: later)
    (xQuiet : Quiet later x) (yQuiet : Quiet later y)
    (stored : ((tables.takeAll observation.notices).portRow? y).isSome) :
    ((tables.takeAll observation.notices).cable? x y).isSome ↔ observation.PointsTo port y := by
  generalize sightingDef : observation.sighting port x = sighting at shape
  have own : sighting.mac = x := by rw [← sightingDef, Observation.sighting_mac]
  have names : sighting.peer? = some y ↔ observation.PointsTo port y := by
    rw [← sightingDef]
    rfl
  subst own
  rw [shape, sound.cable?_takeAll_of_last before apart xQuiet yQuiet, ← shape, ← names]
  split
  · rename_i points
    rw [Option.isSome_map]
    exact ⟨fun _ => points, fun _ => stored⟩
  · rename_i points
    exact ⟨fun none => absurd none Bool.false_ne_true, fun named => absurd named points⟩

/-- The last port under some MAC addresses decides whether it is linked to another stored port that
has one of them or is not reported. -/
theorem Sound.linked_of_lastPort? (sound : tables.Sound) {observation : Observation}
    {macs : List Mac} {port : Port} (last : observation.lastPort? macs = some port) {x y : Mac}
    (known : port.mac? = some x) (apart : y ≠ x) (other : y ∈ macs ∨ ¬ observation.Reports y)
    (stored : ((tables.takeAll observation.notices).portRow? y).isSome) :
    (tables.takeAll observation.notices).store.Linked x y ↔ observation.PointsTo port y := by
  obtain ⟨mac, named, macKnown, before, rest, shape, quiet⟩ := Observation.notices_of_lastPort? last
  obtain rfl : mac = x := Option.some.inj (macKnown.symm.trans known)
  have yQuiet : Quiet rest y := by
    rcases other with yNamed | unreported
    · exact quiet y yNamed
    · exact fun sighting inside =>
        Observation.quiet_of_not_reports unreported sighting (by rw [shape]; simp [inside])
  rw [(sound.takeAll observation.notices).linked_store]
  exact sound.isSome_cable?_of_last apart shape (quiet mac named) yQuiet stored

/-- A reported port is linked to a stored one that is not exactly if it points to it where it is
reported last. -/
theorem Sound.linked_of_reported (sound : tables.Sound) {observation : Observation} {x y : Mac}
    (reported : observation.Reports x) (unreported : ¬ observation.Reports y)
    (stored : (tables.takeAll observation.notices).store.Stores y) :
    (tables.takeAll observation.notices).store.Linked x y ↔
      ∃ port, observation.lastPort? [x] = some port ∧ observation.PointsTo port y := by
  have apart : y ≠ x := fun same => unreported (same ▸ reported)
  obtain ⟨port, last⟩ := Observation.exists_lastPort? (List.mem_singleton_self x) reported
  obtain ⟨mac, named, known, _⟩ := Observation.notices_of_lastPort? last
  obtain rfl : mac = x := List.mem_singleton.1 named
  rw [sound.linked_of_lastPort? last known apart (.inr unreported)
    ((sound.takeAll observation.notices).stores_store.1 stored), last]
  constructor
  · exact fun points => ⟨port, rfl, points⟩
  · rintro ⟨_, same, points⟩
    exact Option.some.inj same ▸ points

/-- Two reported ports are linked exactly if the one that is reported last points to the other. -/
theorem Sound.linked_of_bothReported (sound : tables.Sound) {observation : Observation} {x y : Mac}
    (apart : x ≠ y) (xReported : observation.Reports x) (yReported : observation.Reports y) :
    (tables.takeAll observation.notices).store.Linked x y ↔
      ∃ port, observation.lastPort? [x, y] = some port ∧
        (port.mac? = some x ∧ observation.PointsTo port y ∨
          port.mac? = some y ∧ observation.PointsTo port x) := by
  have later := sound.takeAll observation.notices
  have xNamed : x ∈ [x, y] := List.mem_cons_self
  have yNamed : y ∈ [x, y] := List.mem_cons_of_mem x List.mem_cons_self
  obtain ⟨port, last⟩ := Observation.exists_lastPort? xNamed xReported
  obtain ⟨mac, named, known, _⟩ := Observation.notices_of_lastPort? last
  rw [last]
  -- The last port of the two goes by one of their addresses, and only that one decides.
  rcases List.mem_cons.1 named with rfl | other
  · rw [sound.linked_of_lastPort? last known apart.symm (.inl yNamed)
      (isSome_portRow?_of_reports tables yReported)]
    constructor
    · exact fun points => ⟨port, rfl, .inl ⟨known, points⟩⟩
    · rintro ⟨_, same, ⟨_, points⟩ | ⟨otherKnown, _⟩⟩
      · exact Option.some.inj same ▸ points
      · rw [← Option.some.inj same, known] at otherKnown
        exact absurd (Option.some.inj otherKnown) apart
  · obtain rfl : mac = y := List.mem_singleton.1 other
    rw [later.linked_store, cable?_comm, ← later.linked_store,
      sound.linked_of_lastPort? last known apart (.inl xNamed)
        (isSome_portRow?_of_reports tables xReported)]
    constructor
    · exact fun points => ⟨port, rfl, .inr ⟨known, points⟩⟩
    · rintro ⟨_, same, ⟨otherKnown, _⟩ | ⟨_, points⟩⟩
      · rw [← Option.some.inj same, known] at otherKnown
        exact absurd (Option.some.inj otherKnown).symm apart
      · exact Option.some.inj same ▸ points

/-- To record an observation on sound and straight tables is to redo the cables of its ports. -/
theorem Sound.cabled (sound : tables.Sound) (straight : tables.Straight)
    (observation : Observation) :
    Cabled tables.store (tables.takeAll observation.notices).store observation where
  unreported x y xUnreported yUnreported link := by
    rw [(sound.takeAll observation.notices).hasLink_store, sound.hasLink_store,
      sound.linkBetween?_takeAll_of_quiet (Observation.quiet_of_not_reports xUnreported)
        (Observation.quiet_of_not_reports yUnreported)]
  reported _ _ := sound.linked_of_reported
  bothReported _ _ := sound.linked_of_bothReported
  straight := straight.takeAll observation.notices

end Tables

/-- Whatever the program did before, recording an observation succeeds and redoes the cables of
the ports that it reports. -/
theorem cabled_after_record (place : String) (opening : Log.Logger) (changes : List Change)
    (observation : Observation) (log : Log.Logger) :
    let before := afterAll (changes.map Change.transaction)
      (after (openAt place opening) ⟨none, none, none⟩)
    ∃ done after, result (record observation log) before = (.ok done, after) ∧
      Cabled before after observation := by
  obtain ⟨tables, sound, straight, reached⟩ := Tables.Sound.empty.after_changes .empty changes
  obtain ⟨done, _, _, recorded⟩ := result_record sound observation log
  rw [after_openAt, reached]
  exact ⟨done, _, recorded, sound.cabled straight observation⟩

end Store

end CableMap
