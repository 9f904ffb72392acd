import CableMap.Proofs.Store.Backing
import CableMap.Proofs.Store.Devices

/-!
# Recording an observation again

A sighting is settled where its port is stored as it was sighted and has the cable that it names
and no other. Then to take it in changes no table and removes no link. An observation settles all
its sightings if no two of its ports have one MAC address and none points to one of them: then no
sighting undoes what another one did. Recorded again, such an observation finds everything as it
left it.
-/
namespace CableMap

namespace Observation

/-- No two ports have one MAC address. -/
def DistinctMacs (observation : Observation) : Prop :=
  (observation.ports.filterMap (·.mac?)).Nodup

/-- No port points to a port of the same observation. -/
def Outward (observation : Observation) : Prop :=
  ∀ port ∈ observation.ports, ∀ x, observation.PointsTo port x → ¬ observation.Reports x

instance (observation : Observation) : Decidable observation.DistinctMacs :=
  inferInstanceAs (Decidable (List.Nodup _))

instance (observation : Observation) : Decidable observation.Outward :=
  inferInstanceAs (Decidable (∀ port ∈ observation.ports,
    ∀ x ∈ (observation.neighbourOn? port.interface).map (·.mac), ¬ observation.Reports x))

variable {observation : Observation} {left right : Sighting}

/-- Where no two ports have one MAC address, a port is sighted once. -/
theorem DistinctMacs.eq_of_mac (distinct : observation.DistinctMacs)
    (leftInside : left ∈ observation.sightings) (rightInside : right ∈ observation.sightings)
    (same : left.mac = right.mac) : left = right := by
  have macs : observation.sightings.map (·.mac) = observation.ports.filterMap (·.mac?) := by
    rw [sightings, List.map_filterMap]
    congr 1
    funext port
    cases port.mac? <;> rfl
  rw [DistinctMacs, ← macs] at distinct
  exact List.inj_on_of_nodup_map distinct leftInside rightInside same

/-- Where no port points to one of the same observation, no sighting names a port that is
sighted. -/
theorem Outward.peer_ne (outward : observation.Outward)
    (leftInside : left ∈ observation.sightings) (rightInside : right ∈ observation.sightings) :
    left.peer? ≠ some right.mac := by
  obtain ⟨port, inside, mac, _, rfl⟩ := mem_sightings.1 leftInside
  obtain ⟨other, otherInside, otherMac, known, rfl⟩ := mem_sightings.1 rightInside
  intro points
  exact outward port inside otherMac points ⟨other, otherInside, known⟩

end Observation

namespace Store

namespace Tables

variable {tables : Tables} {sighting : Sighting} {observation : Observation}

/-! ## Settled sightings -/

/-- What a sighting says is in the tables. -/
structure Settled (tables : Tables) (sighting : Sighting) : Prop where
  /-- The port is stored as it was sighted. -/
  port : ∃ here, tables.portRow? sighting.mac = some here ∧
    here.cells = tables.portCells sighting
  /-- The port has a cable to the neighbour that was sighted, if that is stored, and no other. -/
  cable : ∀ y, y ≠ sighting.mac → tables.cable? sighting.mac y =
    if sighting.peer? = some y then
      (tables.portRow? y).map fun there =>
        plainCable (min sighting.port.maxSpeed there.cells.speed)
    else none

/-- A link at a settled port leads to the stored neighbour that was sighted. -/
theorem Settled.ends_of_touches (settled : tables.Settled sighting) (sound : tables.Sound)
    (straight : tables.Straight) {here : Row PortCells}
    (found : tables.portRow? sighting.mac = some here) {link : Row LinkCells}
    (stored : link ∈ tables.links.rows) (touches : LinkCells.touches here.id link) :
    ∃ there, (sighting.peer?.bind tables.portRow?).filter (·.id ≠ here.id) = some there ∧
      link.cells.ends = s(some here.id, some there.id) := by
  obtain ⟨inside, mac⟩ := sound.ports.rowAt?_eq_some_iff.1 found
  obtain ⟨y, joins⟩ := sound.exists_linkBetween?_of_touches inside mac stored touches
  have plugged : tables.cable? sighting.mac y = some link.cells.cable := by
    rw [cable?, joins, Option.map_some]
  have apart : y ≠ sighting.mac := by
    intro same
    rw [same, sound.cable?_self straight] at plugged
    exact Option.some_ne_none _ plugged.symm
  have named : sighting.peer? = some y := by
    by_contra other
    rw [settled.cable y apart, if_neg other] at plugged
    exact Option.some_ne_none _ plugged.symm
  obtain ⟨_, a, there, aFound, thereFound, ends⟩ := sound.ends_of_linkBetween? joins
  obtain rfl : a = here := Option.some.inj (aFound.symm.trans found)
  have other : there.id ≠ a.id := sound.id_ne apart thereFound found
  refine ⟨there, ?_, ends⟩
  rw [named, Option.bind_some, thereFound, Option.filter_some, decide_eq_true other]
  rfl

/-- The links that are removed from a settled port are none. -/
theorem Settled.touches_none (settled : tables.Settled sighting) (sound : tables.Sound)
    (straight : tables.Straight) {here : Row PortCells}
    (found : tables.portRow? sighting.mac = some here)
    (alone : (sighting.peer?.bind tables.portRow?).filter (·.id ≠ here.id) = none) :
    ∀ link ∈ tables.links.rows, ¬ LinkCells.touches here.id link := by
  intro link stored touches
  obtain ⟨there, named, _⟩ := settled.ends_of_touches sound straight found stored touches
  rw [alone] at named
  exact Option.some_ne_none there named.symm

/-- The links that are removed from a settled port beside the one to its neighbour are none. -/
theorem Settled.touchesBeside_none (settled : tables.Settled sighting) (sound : tables.Sound)
    (straight : tables.Straight) {here there : Row PortCells}
    (found : tables.portRow? sighting.mac = some here)
    (named : (sighting.peer?.bind tables.portRow?).filter (·.id ≠ here.id) = some there) :
    ∀ link ∈ tables.links.rows, ¬ LinkCells.touchesBeside here.id there.id link := by
  intro link stored beside
  rw [LinkCells.touchesBeside_iff (sound.linkCells link stored), ← LinkCells.touches_iff] at beside
  obtain ⟨other, otherNamed, ends⟩ :=
    settled.ends_of_touches sound straight found stored beside.1
  obtain rfl : there = other := Option.some.inj (named.symm.trans otherNamed)
  exact beside.2 ends

/-- To store a link that is there with the same cable changes nothing. -/
theorem Sound.saveLink_of_same (sound : tables.Sound) {link : Link} {row : Row LinkCells}
    (stored : tables.linkRow? link.a link.b = some row)
    (cable : row.cells.cable = (LinkCells.ofLink link).cable) : tables.saveLink link = tables := by
  obtain ⟨id, a, b, kind, speed, length⟩ := row
  obtain ⟨rfl, rest⟩ := Prod.mk.inj cable
  obtain ⟨rfl, rfl⟩ := Prod.mk.inj rest
  exact congrArg (Tables.mk tables.devices tables.ports) (sound.links.save_of_same stored rfl _)

/-- The cable of a settled port to its neighbour is stored already. -/
theorem Settled.saveLink (settled : tables.Settled sighting) (sound : tables.Sound)
    {here there : Row PortCells} (found : tables.portRow? sighting.mac = some here)
    (named : (sighting.peer?.bind tables.portRow?).filter (·.id ≠ here.id) = some there) :
    tables.saveLink (.between here.id there.id
      (min sighting.port.maxSpeed there.cells.speed)) = tables := by
  obtain ⟨seen, apart⟩ := Option.filter_eq_some_iff.1 named
  obtain ⟨y, peer, thereFound⟩ := Option.bind_eq_some_iff.1 seen
  have other : y ≠ sighting.mac := by
    rintro rfl
    obtain rfl : here = there := Option.some.inj (found.symm.trans thereFound)
    simp at apart
  have plugged := settled.cable y other
  rw [if_pos peer, thereFound, Option.map_some, cable?, linkBetween?, found, Option.bind_some,
    thereFound, Option.bind_some] at plugged
  obtain ⟨link, stored, cable⟩ := Option.map_eq_some_iff.1 plugged
  exact sound.saveLink_of_same stored cable

/-- To plug the cable of a settled port changes nothing and removes no link. -/
theorem Settled.plug (settled : tables.Settled sighting) (sound : tables.Sound)
    (straight : tables.Straight) {here : Row PortCells}
    (found : tables.portRow? sighting.mac = some here) (sofar : Recorded) :
    tables.plug here sighting = tables ∧
      (tables.tallyCable here sofar sighting).unlinked = sofar.unlinked := by
  unfold Tables.plug tallyCable
  cases named : (sighting.peer?.bind tables.portRow?).filter (·.id ≠ here.id) with
  | none =>
    have none := settled.touches_none sound straight found named
    have removed : tables.links.count (LinkCells.touches here.id) = 0 :=
      List.countP_eq_zero.2 none
    dsimp only
    rw [removed, deleteLinks, Table.delete_of_none none]
    exact ⟨rfl, rfl⟩
  | some there =>
    have none := settled.touchesBeside_none sound straight found named
    have removed : tables.links.count (LinkCells.touchesBeside here.id there.id) = 0 :=
      List.countP_eq_zero.2 none
    dsimp only
    rw [removed, deleteLinks, Table.delete_of_none none]
    exact ⟨settled.saveLink sound found named, rfl⟩

/-- To take a settled sighting in changes nothing and removes no link. -/
theorem Settled.sight (settled : tables.Settled sighting) (sound : tables.Sound)
    (straight : tables.Straight) (sofar : Recorded) :
    tables.sight sighting = tables ∧
      (tables.tally sofar sighting).unlinked = sofar.unlinked := by
  obtain ⟨here, found, cells⟩ := settled.port
  have saved : tables.savePort (tables.sighted sighting) sighting.mac = tables := by
    have ports := sound.ports.put_of_stored (List.mem_of_find?_eq_some found)
    rw [cells] at ports
    show { tables with ports := tables.ports.put (·.mac) (tables.portCells sighting) } = tables
    rw [ports]
  have stored := found
  rw [← saved] at stored
  rw [sight_of_portRow? stored, tally_of_portRow? stored, saved]
  exact settled.plug sound straight found _

/-- To take settled sightings in changes nothing and removes no link. -/
theorem settled_takeAll {sightings : List Sighting}
    (settled : ∀ sighting ∈ sightings, tables.Settled sighting) (sound : tables.Sound)
    (straight : tables.Straight) (sofar : Recorded) :
    tables.takeAll (sightings.map .port) = tables ∧
      (tables.tallyAll sofar sightings).unlinked = sofar.unlinked := by
  induction sightings generalizing sofar with
  | nil => exact ⟨rfl, rfl⟩
  | cons sighting sightings ih =>
    have head := (settled sighting List.mem_cons_self).sight sound straight sofar
    have rest := ih (fun other inside => settled other (List.mem_cons_of_mem _ inside))
      (tables.tally sofar sighting)
    rw [tallyAll, head.1, rest.2]
    refine ⟨?_, head.2⟩
    show (tables.sight sighting).takeAll (sightings.map .port) = tables
    rw [head.1]
    exact rest.1

/-! ## Links that are counted -/

/-- The neighbour that was sighted is stored. -/
def peerIsStored (tables : Tables) (sighting : Sighting) : Bool :=
  (sighting.peer?.bind tables.portRow?).isSome

/-- Notices without a sighting of the neighbours that some sightings name leave how many of these
are stored. -/
theorem countP_peerIsStored_takeAll {sightings : List Sighting} {notices : List Notice}
    (quiet : ∀ sighting ∈ sightings, ∀ other, .port other ∈ notices →
      sighting.peer? ≠ some other.mac) :
    sightings.countP (tables.takeAll notices).peerIsStored =
      sightings.countP tables.peerIsStored := by
  apply List.countP_congr
  intro sighting inside
  unfold peerIsStored
  cases peer : sighting.peer? with
  | none => rfl
  | some y =>
    have away : Quiet notices y := by
      intro other among same
      exact quiet sighting inside other among (by rw [peer, same])
    rw [Option.bind_some, Option.bind_some, portRow?_takeAll_of_quiet away]

/-- A sighting of a port that does not name itself counts a link if its neighbour is stored. -/
theorem Sound.tally_linked (sound : tables.Sound) (outward : sighting.peer? ≠ some sighting.mac)
    (sofar : Recorded) :
    (tables.tally sofar sighting).linked =
      sofar.linked + if tables.peerIsStored sighting then 1 else 0 := by
  obtain ⟨here, found, _⟩ := portRow?_savePort_self tables (tables.sighted sighting) sighting.mac
  have saved := sound.savePort sighting.mac (deviceIsStored_sighted sighting)
  rw [tally_of_portRow? found, tallyCable, peerIsStored]
  cases peer : sighting.peer? with
  | none => rfl
  | some y =>
    have apart : y ≠ sighting.mac := fun same => outward (by rw [peer, same])
    rw [Option.bind_some, Option.bind_some, portRow?_savePort_of_ne apart]
    cases there : tables.portRow? y with
    | none => rfl
    | some row =>
      have other : row.id ≠ here.id :=
        saved.id_ne apart ((portRow?_savePort_of_ne apart).trans there) found
      rw [Option.filter_some, decide_eq_true other]
      rfl

/-- Sightings that name none of their own ports count one link for each neighbour that is
stored. -/
theorem Sound.tallyAll_linked (sound : tables.Sound) {sightings : List Sighting}
    (outward : ∀ sighting ∈ sightings, ∀ other ∈ sightings, sighting.peer? ≠ some other.mac)
    (sofar : Recorded) :
    (tables.tallyAll sofar sightings).linked =
      sofar.linked + sightings.countP tables.peerIsStored := by
  induction sightings generalizing tables sofar with
  | nil => rfl
  | cons sighting sightings ih =>
    have head := sound.tally_linked
      (outward sighting List.mem_cons_self sighting List.mem_cons_self) sofar
    have rest := ih (sound.sight sighting) (fun other inside another anotherInside =>
      outward other (List.mem_cons_of_mem _ inside) another
        (List.mem_cons_of_mem _ anotherInside)) (tables.tally sofar sighting)
    have same : sightings.countP (tables.takeAll [.port sighting]).peerIsStored =
        sightings.countP tables.peerIsStored := by
      apply countP_peerIsStored_takeAll
      intro other inside seen among
      obtain rfl : seen = sighting := Notice.port.inj (List.mem_singleton.1 among)
      exact outward other (List.mem_cons_of_mem _ inside) seen List.mem_cons_self
    change sightings.countP (tables.sight sighting).peerIsStored = _ at same
    rw [tallyAll, rest, head, same, List.countP_cons]
    omega

/-! ## What an observation settles -/

/-- The cables of an observed port are the ones that its sighting says. -/
theorem Sound.cable?_takeAll_notices (sound : tables.Sound) (distinct : observation.DistinctMacs)
    (outward : observation.Outward) (inside : sighting ∈ observation.sightings) {y : Mac}
    (apart : y ≠ sighting.mac) :
    (tables.takeAll observation.notices).cable? sighting.mac y =
      if sighting.peer? = some y then
        ((tables.takeAll observation.notices).portRow? y).map fun there =>
          plainCable (min sighting.port.maxSpeed there.cells.speed)
      else none := by
  rcases last_sighting_of_two observation.notices sighting.mac y with
    ⟨quiet, _⟩ | ⟨before, last, later, shape, named, ownQuiet, otherQuiet⟩
  · exact absurd rfl (quiet sighting (Observation.port_mem_notices.2 inside))
  have among : last ∈ observation.sightings := by
    apply Observation.port_mem_notices.1
    rw [shape]
    exact List.mem_append_right _ List.mem_cons_self
  rcases named with own | other
  · obtain rfl : last = sighting := distinct.eq_of_mac among inside own
    have decided := sound.cable?_takeAll_of_last before apart ownQuiet otherQuiet
    rwa [← shape] at decided
  · -- The port at the other end is observed too, so neither of the two points to the other.
    subst other
    have decided := sound.cable?_takeAll_of_last before apart.symm otherQuiet ownQuiet
    rw [← shape, cable?_comm, if_neg (outward.peer_ne among inside)] at decided
    rw [decided, if_neg (outward.peer_ne inside among)]

/-- An observation settles its sightings. -/
theorem Sound.settled_takeAll_notices (sound : tables.Sound) (distinct : observation.DistinctMacs)
    (outward : observation.Outward) (inside : sighting ∈ observation.sightings) :
    (tables.takeAll observation.notices).Settled sighting where
  port := by
    obtain ⟨here, last, among, own, found, cells⟩ := exists_portRow?_takeAll_notices tables inside
    obtain rfl : last = sighting := distinct.eq_of_mac among inside own
    obtain ⟨_, _, mac, _, rfl⟩ := Observation.mem_sightings.1 inside
    obtain ⟨id, known⟩ := exists_owner?_saveDevice tables observation.device
    refine ⟨here, found, cells.trans ?_⟩
    apply portCells_congr
    exact known.trans (owner?_takeAll_of_known known (observation.sightings.map .port)).symm
  cable y apart := sound.cable?_takeAll_notices distinct outward inside apart

/-- An observation leaves its device stored as it was observed. -/
theorem Sound.saveDevice_takeAll_notices (sound : tables.Sound) (observation : Observation) :
    (tables.takeAll observation.notices).saveDevice observation.device =
      tables.takeAll observation.notices := by
  obtain ⟨row, found, cells⟩ := deviceRow?_takeAll_notices_self tables observation
  have same := (sound.takeAll observation.notices).devices.put_of_stored
    (List.mem_of_find?_eq_some found)
  rw [cells] at same
  exact congrArg (fun devices => { tables.takeAll observation.notices with devices }) same

/-- A second time an observation counts the same device, ports and links, and removes none. -/
theorem Sound.tallyAll_twice (sound : tables.Sound) (straight : tables.Straight)
    (distinct : observation.DistinctMacs) (outward : observation.Outward) (id : Int) :
    (tables.takeAll observation.notices).tallyAll ⟨id, 0, 0, 0⟩ observation.sightings =
      { (tables.saveDevice observation.device).tallyAll ⟨id, 0, 0, 0⟩ observation.sightings with
        unlinked := 0 } := by
  have onceSound := sound.takeAll observation.notices
  have apart : ∀ sighting ∈ observation.sightings, ∀ other ∈ observation.sightings,
      sighting.peer? ≠ some other.mac :=
    fun sighting inside other otherInside => outward.peer_ne inside otherInside
  have peers : observation.sightings.countP (tables.takeAll observation.notices).peerIsStored =
      observation.sightings.countP (tables.saveDevice observation.device).peerIsStored := by
    apply countP_peerIsStored_takeAll
    intro sighting inside other among
    exact apart sighting inside other (Observation.port_mem_notices.1 among)
  have first := tallyAll_device_ports (tables.saveDevice observation.device) ⟨id, 0, 0, 0⟩
    observation.sightings
  have second := tallyAll_device_ports (tables.takeAll observation.notices) ⟨id, 0, 0, 0⟩
    observation.sightings
  have linked := (sound.saveDevice observation.device).tallyAll_linked apart ⟨id, 0, 0, 0⟩
  have linkedAgain := onceSound.tallyAll_linked apart ⟨id, 0, 0, 0⟩
  rw [peers, ← linked] at linkedAgain
  have settled := settled_takeAll
    (fun _ inside => sound.settled_takeAll_notices distinct outward inside) onceSound
    (straight.takeAll observation.notices) ⟨id, 0, 0, 0⟩
  generalize (tables.takeAll observation.notices).tallyAll ⟨id, 0, 0, 0⟩ observation.sightings =
    twice at second linkedAgain settled ⊢
  calc
    twice = ⟨twice.device, twice.ports, twice.linked, twice.unlinked⟩ := rfl
    _ = _ := by rw [second.1, second.2, ← first.1, ← first.2, linkedAgain, settled.2]

/-- Recording an observation a second time changes nothing and removes no link. -/
theorem Sound.result_record_twice (sound : tables.Sound) (straight : tables.Straight)
    (distinct : observation.DistinctMacs) (outward : observation.Outward) (log again : Log.Logger) :
    ∃ done, result (record observation log) tables.store =
        (.ok done, (tables.takeAll observation.notices).store) ∧
      result (record observation again) (tables.takeAll observation.notices).store =
        (.ok { done with unlinked := 0 }, (tables.takeAll observation.notices).store) := by
  have onceSound := sound.takeAll observation.notices
  have saved := sound.saveDevice_takeAll_notices observation
  have settled := settled_takeAll
    (fun _ inside => sound.settled_takeAll_notices distinct outward inside) onceSound
    (straight.takeAll observation.notices) ⟨0, 0, 0, 0⟩
  have same : (tables.takeAll observation.notices).takeAll observation.notices =
      tables.takeAll observation.notices := by
    show ((tables.takeAll observation.notices).saveDevice observation.device).takeAll
      (observation.sightings.map .port) = _
    rw [saved]
    exact settled.1
  obtain ⟨row, found, recorded⟩ := result_record_tallyAll sound observation log
  obtain ⟨later, laterFound, recordedAgain⟩ :=
    result_record_tallyAll onceSound observation again
  rw [saved, deviceRow?, devices_takeAll_notices, ← deviceRow?, found] at laterFound
  obtain rfl : row = later := Option.some.inj laterFound
  rw [saved, same, sound.tallyAll_twice straight distinct outward] at recordedAgain
  exact ⟨_, recorded, recordedAgain⟩

end Tables

/-- Whatever the program did before, recording an observation a second time leaves the store
exactly as it is, removes no link and tells the same otherwise, if no two ports of the observation
have one MAC address and none of them points to another. -/
theorem record_twice (place : String) (opening : Log.Logger) (changes : List Change)
    (observation : Observation) (log again : Log.Logger) (distinct : observation.DistinctMacs)
    (outward : observation.Outward) :
    let before := afterAll (changes.map Change.transaction)
      (after (openAt place opening) ⟨none, none, none⟩)
    ∃ done after, result (record observation log) before = (.ok done, after) ∧
      result (record observation again) after = (.ok { done with unlinked := 0 }, after) := by
  obtain ⟨tables, sound, straight, reached⟩ := Tables.Sound.empty.after_changes .empty changes
  obtain ⟨done, recorded, recordedAgain⟩ :=
    sound.result_record_twice straight distinct outward log again
  rw [after_openAt, reached]
  exact ⟨done, _, recorded, recordedAgain⟩

/-- A host that names another neighbour than before, with a second port that names an unknown one
and a third that has no MAC address. -/
def recabled : Observation where
  device := .ofAddress ⟨10, 0, 0, 1⟩
  ports := [{ Port.ofInterface 1 with mac? := some ⟨2, 0, 0, 0, 0, 1⟩ },
    { Port.ofInterface 2 with mac? := some ⟨2, 0, 0, 0, 0, 4⟩ }, .ofInterface 3]
  neighbours := [⟨⟨2, 0, 0, 0, 0, 2⟩, 1⟩, ⟨⟨2, 0, 0, 0, 0, 9⟩, 2⟩]

/-- The first record keeps the link that was made from the other end and removes one. -/
theorem recabled_record_twice :
    recabled.DistinctMacs ∧ recabled.Outward ∧
      let before := afterAll (contested.map Change.transaction)
        (after (openAt "cables" .root) ⟨none, none, none⟩)
      (result (record recabled .root) before).1.toOption = some ⟨1, 2, 1, 1⟩ ∧
        ∃ done after, result (record recabled .root) before = (.ok done, after) ∧
          result (record recabled .root) after = (.ok { done with unlinked := 0 }, after) :=
  ⟨by decide, by decide, by decide +kernel,
    record_twice "cables" .root contested recabled .root .root (by decide) (by decide)⟩

/-- A host whose first port points to its second one, which points nowhere, is linked anew each
time. -/
example :
    let observation : Observation :=
      ⟨.ofAddress ⟨10, 0, 0, 1⟩, [{ Port.ofInterface 1 with mac? := some ⟨2, 0, 0, 0, 0, 1⟩ },
        { Port.ofInterface 2 with mac? := some ⟨2, 0, 0, 0, 0, 2⟩ }], [⟨⟨2, 0, 0, 0, 0, 2⟩, 1⟩]⟩
    let once := after (record observation .root) (after (openAt "cables" .root) ⟨none, none, none⟩)
    let twice := after (record observation .root) once
    let thrice := after (record observation .root) twice
    twice.links?.map (·.lastId) = some 1 ∧ thrice.links?.map (·.lastId) = some 2 := by
  decide +kernel

end Store

end CableMap
