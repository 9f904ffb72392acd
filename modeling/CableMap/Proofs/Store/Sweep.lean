import CableMap.Proofs.Store.Cable
import CableMap.Proofs.Store.Operation

/-!
# Sweeping twice

A sweep records one observation after the other. It puts their devices and their ports in order,
each port under the number that its device keeps from then on, so to sweep again puts the same
cells under keys that are there and changes nothing. A cable is what the last sighting at one of
its ends says; in a second sweep the same sighting is the last, and it says the same because the
ports are the same, even where on the way there a neighbour is found that was not yet stored in
the first.
-/
namespace CableMap.Store

/-- Record observations one after the other. -/
def sweep (observations : List Observation) (log : Log.Logger) : StoreM Unit :=
  observations.forM fun observation => discard (record observation log)

/-- What a link row says, whichever end is which and whatever its number. -/
def LinkCells.unoriented (cells : LinkCells) :
    Sym2 (Option Int) × Option Int × Option Int × Option Int := (cells.ends, cells.cable)

namespace Tables

variable {tables : Tables}

/-- A sweep of sound tables succeeds and takes the notices of all observations in. -/
theorem Sound.result_sweep (sound : tables.Sound) (observations : List Observation)
    (log : Log.Logger) :
    result (sweep observations log) tables.store =
      (.ok (), (tables.takeAll (observations.flatMap (·.notices))).store) := by
  induction observations generalizing tables with
  | nil => rfl
  | cons observation observations ih =>
    obtain ⟨done, _, _, recorded⟩ := result_record sound observation log
    rw [List.flatMap_cons, takeAll_append, ← ih (sound.takeAll observation.notices)]
    exact result_bind_ok (result_discard_ok recorded)

/-! ## Devices and ports of a sweep -/

/-- The cells of a sighted port. -/
def portCells (tables : Tables) (sighting : Sighting) : PortCells :=
  .ofPort (tables.sighted sighting) sighting.mac

/-- Sightings leave the devices. -/
theorem devices_takeAll_sightings (sightings : List Sighting) :
    (tables.takeAll (sightings.map .port)).devices = tables.devices := by
  induction sightings generalizing tables with
  | nil => rfl
  | cons sighting sightings ih =>
    have first : (tables.sight sighting).devices = tables.devices := sight_devices sighting
    exact ih.trans first

/-- The cells of a sighted port depend only on the number of its device. -/
theorem portCells_congr {left right : Tables} {sighting : Sighting}
    (owner : left.owner? sighting.address = right.owner? sighting.address) :
    left.portCells sighting = right.portCells sighting := by
  rw [portCells, portCells, sighted, sighted, owner]

/-- Sightings put their ports. -/
theorem ports_takeAll_sightings (sightings : List Sighting) :
    (tables.takeAll (sightings.map .port)).ports =
      tables.ports.putAll (·.mac) (sightings.map tables.portCells) := by
  induction sightings generalizing tables with
  | nil => rfl
  | cons sighting sightings ih =>
    have cells : (tables.sight sighting).portCells = tables.portCells := by
      funext other
      apply portCells_congr
      rw [owner?, owner?, deviceRow?, deviceRow?, sight_devices]
    have rest : ((tables.sight sighting).takeAll (sightings.map .port)).ports =
        (tables.sight sighting).ports.putAll (·.mac)
          (sightings.map (tables.sight sighting).portCells) := ih
    rw [cells, sight_ports] at rest
    exact rest

/-- Of an observation, the table of devices takes in the device. -/
theorem devices_takeAll_notices (tables : Tables) (observation : Observation) :
    (tables.takeAll observation.notices).devices =
      (tables.saveDevice observation.device).devices :=
  devices_takeAll_sightings observation.sightings

/-- Of an observation, the table of ports takes in the ports that have a MAC address. -/
theorem ports_takeAll_notices (tables : Tables) (observation : Observation) :
    (tables.takeAll observation.notices).ports =
      tables.ports.putAll (·.mac) (observation.sightings.map
        (tables.saveDevice observation.device).portCells) :=
  ports_takeAll_sightings observation.sightings

/-- A sweep puts the devices of its observations. -/
theorem devices_sweep (tables : Tables) (observations : List Observation) :
    (tables.takeAll (observations.flatMap (·.notices))).devices =
      tables.devices.putAll (·.address) (observations.map fun o => .ofDevice o.device) := by
  induction observations generalizing tables with
  | nil => rfl
  | cons observation observations ih =>
    rw [List.flatMap_cons, takeAll_append, ih, devices_takeAll_notices]
    rfl

/-- Notices leave the number of every device that there is. -/
theorem owner?_takeAll_of_known {address : Ipv4} {id : Int}
    (known : tables.owner? address = some id) (notices : List Notice) :
    (tables.takeAll notices).owner? address = some id := by
  induction notices generalizing tables with
  | nil => exact known
  | cons notice notices ih =>
    refine ih ?_
    cases notice with
    | port sighting =>
      show (tables.sight sighting).owner? address = some id
      rw [owner?, deviceRow?, sight_devices]
      exact known
    | device device =>
      obtain ⟨row, found, rfl⟩ := Option.map_eq_some_iff.1 known
      obtain ⟨later, laterFound, sameId⟩ := Table.rowAt?_put_of_found found (.ofDevice device)
      rw [← sameId]
      exact congrArg (Option.map (·.id)) laterFound

/-- The device of an observation is stored from then on. -/
theorem exists_owner?_saveDevice (tables : Tables) (device : Device) :
    ∃ id, (tables.saveDevice device).owner? device.address = some id := by
  obtain ⟨row, found, _⟩ := deviceRow?_saveDevice_self tables device
  exact ⟨row.id, by rw [owner?, found, Option.map_some]⟩

/-- A sweep puts the ports of its observations, each under the number of its device. -/
theorem ports_sweep (tables : Tables) (observations : List Observation) :
    (tables.takeAll (observations.flatMap (·.notices))).ports =
      tables.ports.putAll (·.mac) ((observations.flatMap (·.sightings)).map
        (tables.takeAll (observations.flatMap (·.notices))).portCells) := by
  induction observations generalizing tables with
  | nil => rfl
  | cons observation observations ih =>
    rw [List.flatMap_cons, takeAll_append, ih, List.flatMap_cons, List.map_append]
    generalize finalDef :
      (tables.takeAll observation.notices).takeAll (observations.flatMap (·.notices)) = final
    let saved := tables.saveDevice observation.device
    have whole : final = saved.takeAll
        (observation.sightings.map .port ++ observations.flatMap (·.notices)) := by
      rw [← finalDef, takeAll_append]
      rfl
    -- The device keeps its number to the end of the sweep.
    have cells : observation.sightings.map saved.portCells =
        observation.sightings.map final.portCells := by
      apply List.map_congr_left
      intro sighting inside
      obtain ⟨port, _, mac, _, rfl⟩ := Observation.mem_sightings.1 inside
      obtain ⟨id, known⟩ := exists_owner?_saveDevice tables observation.device
      apply portCells_congr
      rw [whole]
      exact known.trans (owner?_takeAll_of_known known _).symm
    rw [ports_takeAll_notices, cells]
    exact List.foldl_append.symm

/-! ## The second sweep -/

/-- A second sweep leaves the devices. -/
theorem Sound.devices_sweep_twice (sound : tables.Sound) (observations : List Observation) :
    ((tables.takeAll (observations.flatMap (·.notices))).takeAll
      (observations.flatMap (·.notices))).devices =
        (tables.takeAll (observations.flatMap (·.notices))).devices := by
  rw [devices_sweep (tables.takeAll _), devices_sweep tables]
  exact sound.devices.putAll_putAll _

/-- A second sweep leaves the ports. -/
theorem Sound.ports_sweep_twice (sound : tables.Sound) (observations : List Observation) :
    ((tables.takeAll (observations.flatMap (·.notices))).takeAll
      (observations.flatMap (·.notices))).ports =
        (tables.takeAll (observations.flatMap (·.notices))).ports := by
  have devices := sound.devices_sweep_twice observations
  have again := ports_sweep (tables.takeAll (observations.flatMap (·.notices))) observations
  have first := ports_sweep tables observations
  generalize tables.takeAll (observations.flatMap (·.notices)) = once at devices again first ⊢
  generalize once.takeAll (observations.flatMap (·.notices)) = twice at devices again ⊢
  have cells : twice.portCells = once.portCells := by
    funext sighting
    apply portCells_congr
    rw [owner?, owner?, deviceRow?, deviceRow?, devices]
  rw [again, cells, first]
  exact sound.ports.putAll_putAll _

/-- A cable that is decided by a sighting is decided by it the same way when the notices are taken
a second time, if the ports are left. -/
theorem Sound.cable?_twice_of_last (sound : tables.Sound) {notices before later : List Notice}
    {sighting : Sighting} {y : Mac}
    (ports : ((tables.takeAll notices).takeAll notices).ports = (tables.takeAll notices).ports)
    (shape : notices = before ++ .port sighting :: later) (apart : y ≠ sighting.mac)
    (ownQuiet : Quiet later sighting.mac) (otherQuiet : Quiet later y) :
    ((tables.takeAll notices).takeAll notices).cable? sighting.mac y =
      (tables.takeAll notices).cable? sighting.mac y := by
  have onceSound := sound.takeAll notices
  have first := sound.cable?_takeAll_of_last before apart ownQuiet otherQuiet
  have again := onceSound.cable?_takeAll_of_last before apart ownQuiet otherQuiet
  rw [← shape] at first again
  rw [first, again, portRow?, portRow?, ports]

/-- Taking notices a second time leaves the cables if it leaves the ports. -/
theorem Sound.cable?_takeAll_twice (sound : tables.Sound) (straight : tables.Straight)
    {notices : List Notice}
    (ports : ((tables.takeAll notices).takeAll notices).ports = (tables.takeAll notices).ports)
    (x y : Mac) :
    ((tables.takeAll notices).takeAll notices).cable? x y = (tables.takeAll notices).cable? x y := by
  have onceSound := sound.takeAll notices
  have onceStraight := straight.takeAll notices
  by_cases same : x = y
  · rw [same, onceSound.cable?_self onceStraight,
      (onceSound.takeAll notices).cable?_self (onceStraight.takeAll notices)]
  · rcases last_sighting_of_two notices x y with
      ⟨xQuiet, yQuiet⟩ | ⟨before, sighting, later, shape, named, xQuiet, yQuiet⟩
    · rw [cable?, onceSound.linkBetween?_takeAll_of_quiet xQuiet yQuiet]
      rfl
    · rcases named with rfl | rfl
      · exact sound.cable?_twice_of_last ports shape (Ne.symm same) xQuiet yQuiet
      · rw [cable?_comm _ sighting.mac, cable?_comm _ sighting.mac]
        exact sound.cable?_twice_of_last ports shape same yQuiet xQuiet

/-- No two links of sound tables say the same of the same two ports. -/
theorem Sound.unoriented_nodup (sound : tables.Sound) :
    (tables.links.rows.map (·.cells.unoriented)).Nodup :=
  List.pairwise_map.2 (sound.links.distinct.imp fun apart same => apart (congrArg Prod.fst same))

/-- A link of some tables is in others that have the same ports and the same cables. -/
theorem Sound.mem_unoriented {left right : Tables} (leftSound : left.Sound)
    (rightSound : right.Sound) (ports : left.ports = right.ports)
    (cables : ∀ x y, left.cable? x y = right.cable? x y) {row : Row LinkCells}
    (inside : row ∈ left.links.rows) :
    row.cells.unoriented ∈ right.links.rows.map (·.cells.unoriented) := by
  obtain ⟨x, y, a, b, aFound, bFound, ends, found⟩ := leftSound.exists_linkBetween? inside
  have cable : right.cable? x y = some row.cells.cable := by
    rw [← cables, cable?, found, Option.map_some]
  obtain ⟨peer, peerFound, peerCable⟩ := Option.map_eq_some_iff.1 cable
  obtain ⟨peerInside, a', b', aFound', bFound', peerEnds⟩ :=
    rightSound.ends_of_linkBetween? peerFound
  -- The ports are the same rows, so the links have the same ends.
  rw [portRow?, ← ports] at aFound' bFound'
  obtain rfl : a = a' := Option.some.inj (aFound.symm.trans aFound')
  obtain rfl : b = b' := Option.some.inj (bFound.symm.trans bFound')
  refine List.mem_map.2 ⟨peer, peerInside, ?_⟩
  rw [LinkCells.unoriented, LinkCells.unoriented, peerCable, peerEnds, ends]

/-- Sound tables with the same ports and the same cables have the same links, up to their order,
their numbers and which end is which. -/
theorem Sound.links_perm {left right : Tables} (leftSound : left.Sound) (rightSound : right.Sound)
    (ports : left.ports = right.ports) (cables : ∀ x y, left.cable? x y = right.cable? x y) :
    (left.links.rows.map (·.cells.unoriented)).Perm
      (right.links.rows.map (·.cells.unoriented)) := by
  apply (List.perm_ext_iff_of_nodup leftSound.unoriented_nodup rightSound.unoriented_nodup).2
  intro what
  constructor
  · intro inside
    obtain ⟨row, stored, rfl⟩ := List.mem_map.1 inside
    exact leftSound.mem_unoriented rightSound ports cables stored
  · intro inside
    obtain ⟨row, stored, rfl⟩ := List.mem_map.1 inside
    exact rightSound.mem_unoriented leftSound ports.symm (fun x y => (cables x y).symm) stored

end Tables

/-- Whatever the program did before, sweeping the same observations a second time leaves all
devices and ports as they are, and the same links up to their numbers and which end is which. -/
theorem sweep_twice (place : String) (opening : Log.Logger) (changes : List Change)
    (observations : List Observation) (log again : Log.Logger) :
    let before := afterAll (changes.map Change.transaction)
      (after (openAt place opening) ⟨none, none, none⟩)
    ∃ once twice, result (sweep observations log) before = (.ok (), once) ∧
      result (sweep observations again) once = (.ok (), twice) ∧
      twice.devices? = once.devices? ∧ twice.ports? = once.ports? ∧
      (twice.linkRows.map (·.cells.unoriented)).Perm
        (once.linkRows.map (·.cells.unoriented)) := by
  obtain ⟨tables, sound, straight, reached⟩ := Tables.Sound.empty.after_changes .empty changes
  have onceSound := sound.takeAll (observations.flatMap (·.notices))
  have ports := sound.ports_sweep_twice observations
  rw [after_openAt, reached]
  refine ⟨_, _, sound.result_sweep observations log, onceSound.result_sweep observations again,
    congrArg some (sound.devices_sweep_twice observations), congrArg some ports, ?_⟩
  exact (onceSound.takeAll _).links_perm onceSound ports
    (sound.cable?_takeAll_twice straight ports)

end CableMap.Store
