import CableMap.Proofs.Store.Transaction
import CableMap.Store.Record

/-!
# Recording as a fold over notices

An observation is a list of notices: first the device, then each port that has a MAC address
together with the MAC address of its first neighbour. Recording it on sound tables succeeds and
takes the notices in one after the other, so to record many observations is one fold over all
their notices, and what holds of the tables after it is proved notice by notice.
-/
namespace CableMap

/-- A port with a MAC address as its device reported it. -/
structure Sighting where
  /-- The address of the device. -/
  address : Ipv4
  /-- The port. -/
  port : Port
  /-- The MAC address of the port. -/
  mac : Mac
  /-- The MAC address of the first neighbour on its interface. -/
  peer? : Option Mac

/-- One thing that an observation gives notice of. -/
inductive Notice
  /-- The device itself. -/
  | device (device : Device)
  /-- One of its ports. -/
  | port (sighting : Sighting)

/-- A port with a MAC address as an observation reports it. -/
def Observation.sighting (observation : Observation) (port : Port) (mac : Mac) : Sighting :=
  ⟨observation.device.address, port, mac, (observation.neighbourOn? port.interface).map (·.mac)⟩

/-- The ports of an observation that have a MAC address. -/
def Observation.sightings (observation : Observation) : List Sighting :=
  observation.ports.filterMap fun port => port.mac?.map (observation.sighting port)

/-- All that an observation says, in the order in which it is recorded. -/
def Observation.notices (observation : Observation) : List Notice :=
  .device observation.device :: observation.sightings.map .port

/-- A sighting is of the port with the MAC address for which it was made. -/
@[simp] theorem Observation.sighting_mac (observation : Observation) (port : Port) (mac : Mac) :
    (observation.sighting port mac).mac = mac := rfl

/-- A sighting is of the port for which it was made. -/
@[simp] theorem Observation.sighting_port (observation : Observation) (port : Port) (mac : Mac) :
    (observation.sighting port mac).port = port := rfl

/-- The sightings of an observation are those of its ports with a MAC address. -/
theorem Observation.mem_sightings {observation : Observation} {sighting : Sighting} :
    sighting ∈ observation.sightings ↔ ∃ port ∈ observation.ports, ∃ mac, port.mac? = some mac ∧
      observation.sighting port mac = sighting := by
  simp [sightings]

/-- An observation gives notice of its sightings. -/
theorem Observation.port_mem_notices {observation : Observation} {sighting : Sighting} :
    .port sighting ∈ observation.notices ↔ sighting ∈ observation.sightings := by
  simp [notices]

namespace Store

/-- The most bits a second of a port row. -/
def PortCells.speed (cells : PortCells) : UInt32 := .ofNat (cells.maxSpeed.getD 0).toNat

/-- The speed of a port is stored as it is. -/
theorem PortCells.speed_ofPort (port : Port) (mac : Mac) :
    (PortCells.ofPort port mac).speed = port.maxSpeed := by
  simp [PortCells.speed, PortCells.ofPort]

namespace Tables

/-- The number of the row of the device at an address, if there is one. -/
def owner? (tables : Tables) (address : Ipv4) : Option Int :=
  (tables.deviceRow? address).map (·.id)

/-- The port of a sighting as it is stored: it belongs to the device at its address. -/
def sighted (tables : Tables) (sighting : Sighting) : Port :=
  { sighting.port with device? := tables.owner? sighting.address }

/-- The tables with the cable of a stored port as it was sighted: linked to its neighbour and to
nothing else, or to nothing where the neighbour is unknown or the port itself. -/
def plug (tables : Tables) (here : Row PortCells) (sighting : Sighting) : Tables :=
  match (sighting.peer?.bind tables.portRow?).filter (·.id ≠ here.id) with
  | some there =>
    (tables.deleteLinks (LinkCells.touchesBeside here.id there.id)).saveLink
      (.between here.id there.id (min sighting.port.maxSpeed there.cells.speed))
  | none => tables.deleteLinks (LinkCells.touches here.id)

/-- The tables with a sighted port and its cable. -/
def sight (tables : Tables) (sighting : Sighting) : Tables :=
  let stored := tables.savePort (tables.sighted sighting) sighting.mac
  match stored.portRow? sighting.mac with
  | some here => stored.plug here sighting
  | none => stored

/-- The tables with one notice. -/
def take (tables : Tables) : Notice → Tables
  | .device device => tables.saveDevice device
  | .port sighting => tables.sight sighting

/-- The tables with some notices, taken in order. -/
def takeAll (tables : Tables) (notices : List Notice) : Tables := notices.foldl take tables

/-- A record with what plugging the cable of a stored port does counted in. -/
def tallyCable (tables : Tables) (here : Row PortCells) (sofar : Recorded) (sighting : Sighting) :
    Recorded :=
  match (sighting.peer?.bind tables.portRow?).filter (·.id ≠ here.id) with
  | some there =>
    { sofar with
      linked := sofar.linked + 1
      unlinked := sofar.unlinked + tables.links.count (LinkCells.touchesBeside here.id there.id) }
  | none =>
    { sofar with unlinked := sofar.unlinked + tables.links.count (LinkCells.touches here.id) }

/-- A record with what a sighting does counted in. -/
def tally (tables : Tables) (sofar : Recorded) (sighting : Sighting) : Recorded :=
  let stored := tables.savePort (tables.sighted sighting) sighting.mac
  let sofar := { sofar with ports := sofar.ports + 1 }
  match stored.portRow? sighting.mac with
  | some here => stored.tallyCable here sofar sighting
  | none => sofar

/-- A record with what some sightings do, one after the other, counted in. -/
def tallyAll (tables : Tables) (sofar : Recorded) : List Sighting → Recorded
  | [] => sofar
  | sighting :: sightings =>
    (tables.sight sighting).tallyAll (tables.tally sofar sighting) sightings

variable {tables : Tables}

/-- A sighting stores its port and plugs the cable of the row that this leaves. -/
theorem sight_of_portRow? {sighting : Sighting} {here : Row PortCells}
    (found : (tables.savePort (tables.sighted sighting) sighting.mac).portRow? sighting.mac =
      some here) :
    tables.sight sighting =
      (tables.savePort (tables.sighted sighting) sighting.mac).plug here sighting := by
  unfold sight
  dsimp only
  rw [found]

/-- A sighting counts its port and what is done with the cable of the row that this leaves. -/
theorem tally_of_portRow? {sighting : Sighting} {here : Row PortCells}
    (found : (tables.savePort (tables.sighted sighting) sighting.mac).portRow? sighting.mac =
      some here) (sofar : Recorded) :
    tables.tally sofar sighting =
      (tables.savePort (tables.sighted sighting) sighting.mac).tallyCable here
        { sofar with ports := sofar.ports + 1 } sighting := by
  unfold tally
  dsimp only
  rw [found]

/-- A record stays that of its device. -/
@[simp] theorem tally_device (sofar : Recorded) (sighting : Sighting) :
    (tables.tally sofar sighting).device = sofar.device := by
  unfold tally tallyCable
  dsimp only
  split
  · split <;> rfl
  · rfl

/-- Each sighting counts one port. -/
@[simp] theorem tally_ports (sofar : Recorded) (sighting : Sighting) :
    (tables.tally sofar sighting).ports = sofar.ports + 1 := by
  unfold tally tallyCable
  dsimp only
  split
  · split <;> rfl
  · rfl

/-- Sightings leave the device of a record and count a port each. -/
theorem tallyAll_device_ports (tables : Tables) (sofar : Recorded) (sightings : List Sighting) :
    (tables.tallyAll sofar sightings).device = sofar.device ∧
      (tables.tallyAll sofar sightings).ports = sofar.ports + sightings.length := by
  induction sightings generalizing tables sofar with
  | nil => exact ⟨rfl, rfl⟩
  | cons sighting sightings ih =>
    have rest := ih (tables.sight sighting) (tables.tally sofar sighting)
    rw [tally_device, tally_ports] at rest
    refine ⟨rest.1, rest.2.trans ?_⟩
    rw [List.length_cons]
    omega

/-! ## What a sighting leaves alone -/

/-- To plug a cable in or out leaves the devices. -/
@[simp] theorem plug_devices (here : Row PortCells) (sighting : Sighting) :
    (tables.plug here sighting).devices = tables.devices := by
  unfold plug
  split <;> rfl

/-- To plug a cable in or out leaves the ports. -/
@[simp] theorem plug_ports (here : Row PortCells) (sighting : Sighting) :
    (tables.plug here sighting).ports = tables.ports := by
  unfold plug
  split <;> rfl

/-- A sighting leaves the devices. -/
@[simp] theorem sight_devices (sighting : Sighting) :
    (tables.sight sighting).devices = tables.devices := by
  unfold sight
  dsimp only
  split
  · rw [plug_devices]
    rfl
  · rfl

/-- A sighting puts its port among the ports. -/
theorem sight_ports (sighting : Sighting) :
    (tables.sight sighting).ports =
      tables.ports.put (·.mac) (.ofPort (tables.sighted sighting) sighting.mac) := by
  unfold sight
  dsimp only
  split
  · rw [plug_ports]
    rfl
  · rfl

/-! ## Notices keep tables sound -/

/-- The port of a sighting belongs to a stored device, if it belongs to one. -/
theorem deviceIsStored_sighted (sighting : Sighting) :
    deviceIsStored tables.devices (tables.sighted sighting) := by
  unfold deviceIsStored sighted owner?
  cases found : tables.deviceRow? sighting.address with
  | none => rfl
  | some row => exact Table.has_iff.2 ⟨row, List.mem_of_find?_eq_some found, rfl⟩

/-- A port that a look-up finds is stored. -/
theorem has_of_portRow? {mac : Mac} {row : Row PortCells} (found : tables.portRow? mac = some row) :
    tables.ports.has row.id :=
  Table.has_iff.2 ⟨row, List.mem_of_find?_eq_some found, rfl⟩

/-- Plugging the cable of a stored port keeps tables sound. -/
theorem Sound.plug (sound : tables.Sound) {here : Row PortCells} (stored : tables.ports.has here.id)
    (sighting : Sighting) : (tables.plug here sighting).Sound := by
  unfold Tables.plug
  split
  · rename_i there found
    obtain ⟨peer, _, seen⟩ := Option.bind_eq_some_iff.1 (Option.filter_eq_some_iff.1 found).1
    exact (sound.deleteLinks _).saveLink stored (has_of_portRow? seen)
  · exact sound.deleteLinks _

/-- A sighting keeps tables sound. -/
theorem Sound.sight (sound : tables.Sound) (sighting : Sighting) :
    (tables.sight sighting).Sound := by
  have saved := sound.savePort sighting.mac (deviceIsStored_sighted sighting)
  unfold Tables.sight
  dsimp only
  split
  · rename_i here found
    exact saved.plug (has_of_portRow? found) sighting
  · exact saved

/-- A notice keeps tables sound. -/
theorem Sound.take (sound : tables.Sound) (notice : Notice) : (tables.take notice).Sound := by
  cases notice with
  | device device => exact sound.saveDevice device
  | port sighting => exact sound.sight sighting

/-- Notices keep tables sound. -/
theorem Sound.takeAll (sound : tables.Sound) (notices : List Notice) :
    (tables.takeAll notices).Sound := by
  induction notices generalizing tables with
  | nil => exact sound
  | cons notice notices ih => exact ih (sound.take notice)

/-! ## No notice links a port to itself -/

/-- No link joins a port to itself. -/
def Straight (tables : Tables) : Prop := ∀ row ∈ tables.links.rows, row.cells.a ≠ row.cells.b

/-- Tables without rows have no link from a port to itself. -/
theorem Straight.empty : (⟨.empty, .empty, .empty⟩ : Tables).Straight := by
  simp [Straight, Table.empty]

/-- Tables without some of the links of straight tables are straight. -/
theorem Straight.deleteLinks (straight : tables.Straight) (chosen : Row LinkCells → Bool) :
    (tables.deleteLinks chosen).Straight :=
  fun row inside => straight row (List.mem_filter.1 inside).1

/-- A link between two ports keeps tables straight. -/
theorem Straight.saveLink (straight : tables.Straight) {link : Link} (apart : link.a ≠ link.b) :
    (tables.saveLink link).Straight := by
  refine written_save (P := fun cells : LinkCells => cells.a ≠ cells.b) straight ?_ ?_
  · exact fun old oldApart _ => oldApart
  · exact fun same => apart (Option.some.inj same)

/-- A notice keeps tables straight. -/
theorem Straight.take (straight : tables.Straight) (notice : Notice) :
    (tables.take notice).Straight := by
  cases notice with
  | device device => exact straight
  | port sighting =>
    have saved : (tables.savePort (tables.sighted sighting) sighting.mac).Straight := straight
    show (tables.sight sighting).Straight
    unfold sight
    dsimp only
    split
    · rename_i here _
      unfold plug
      split
      · rename_i there found
        have apart : there.id ≠ here.id := by simpa using (Option.filter_eq_some_iff.1 found).2
        exact (saved.deleteLinks _).saveLink apart.symm
      · exact saved.deleteLinks _
    · exact saved

/-- Notices keep tables straight. -/
theorem Straight.takeAll (straight : tables.Straight) (notices : List Notice) :
    (tables.takeAll notices).Straight := by
  induction notices generalizing tables with
  | nil => exact straight
  | cons notice notices ih => exact ih (straight.take notice)

end Tables

/-! ## What recording comes to -/

open Tables

variable {tables : Tables}

/-- The row of a port is read as the port with its MAC address. -/
theorem port?_store_ofPort {mac : Mac} {row : Row PortCells} {port : Port}
    (found : tables.portRow? mac = some row) (cells : row.cells = .ofPort port mac) :
    tables.store.port? mac = .ok (some { port with id? := some row.id, mac? := some mac }) := by
  have read := PortCells.read_ofPort row.id port mac
  rw [← cells] at read
  show readRow PortCells.read (tables.portRow? mac) = _
  rw [found, readRow, read]
  rfl

/-- A port that is stored is read with the number and the speed of its row. -/
theorem port?_store (sound : tables.Sound) {mac : Mac} {row : Row PortCells}
    (found : tables.portRow? mac = some row) :
    ∃ port, tables.store.port? mac = .ok (some port) ∧ port.id? = some row.id ∧
      port.maxSpeed = row.cells.speed := by
  obtain ⟨inside, own⟩ := sound.ports.rowAt?_eq_some_iff.1 found
  obtain ⟨port, text, cells⟩ := sound.portCells row inside
  obtain rfl : text = mac := by
    rw [cells] at own
    exact Mac.toString_inj.1 (Option.some.inj own)
  exact ⟨_, port?_store_ofPort found cells, rfl, by rw [cells, PortCells.speed_ofPort]⟩

/-- A port that is not stored is not read. -/
theorem port?_store_of_none {mac : Mac} (absent : tables.portRow? mac = none) :
    tables.store.port? mac = .ok none := by
  show readRow PortCells.read (tables.portRow? mac) = _
  rw [absent]
  rfl

/-- The stored neighbour of a port is asked of the tables. -/
theorem result_peerOf? (sound : tables.Sound) (observation : Observation) (port : Port) :
    result (peerOf? observation port) tables.store =
      (.ok ((((observation.neighbourOn? port.interface).map (·.mac)).bind tables.portRow?).map
        fun there => (there.id, there.cells.speed)), tables.store) := by
  unfold peerOf?
  cases seen : observation.neighbourOn? port.interface with
  | none => rfl
  | some neighbour =>
    cases found : tables.portRow? neighbour.mac with
    | none =>
      refine (result_bind_ok (result_ask_ok (port?_store_of_none found))).trans ?_
      simp [found]
    | some there =>
      obtain ⟨peer, asked, id, speed⟩ := port?_store sound found
      refine (result_bind_ok (result_ask_ok asked)).trans ?_
      simp [found, id, speed]

/-- A neighbour that is the port itself is left out by its number, before or after its row is
read. -/
theorem filter_speeds (peer? : Option (Row PortCells)) (id : Int) :
    (peer?.map fun there => (there.id, there.cells.speed)).filter (fun peer => peer.1 ≠ id) =
      (peer?.filter (·.id ≠ id)).map fun there => (there.id, there.cells.speed) := by
  cases peer? with
  | none => rfl
  | some there => by_cases same : there.id = id <;> simp [Option.filter, same]

/-- Recording a port of a stored device succeeds and takes its sighting in. -/
theorem result_recordPort (sound : tables.Sound) {observation : Observation} {sofar : Recorded}
    {port : Port} {mac : Mac} (known : port.mac? = some mac)
    (owner : tables.owner? observation.device.address = some sofar.device) (log : Log.Logger) :
    result (recordPort observation log sofar port) tables.store =
      (.ok (tables.tally sofar (observation.sighting port mac)),
        (tables.sight (observation.sighting port mac)).store) := by
  generalize sightingDef : observation.sighting port mac = sighting
  have asStored : { port with device? := some sofar.device } = tables.sighted sighting := by
    rw [← sightingDef, sighted, Observation.sighting, owner]
  have known' : (tables.sighted sighting).mac? = some mac := by rw [← asStored, known]
  have stored : deviceIsStored tables.devices (tables.sighted sighting) :=
    deviceIsStored_sighted sighting
  obtain ⟨here, found, saved⟩ := result_savePort known' stored
  have sound' := sound.savePort mac stored
  obtain rfl : sighting.mac = mac := by rw [← sightingDef, Observation.sighting_mac]
  have sighted := sight_of_portRow? found
  have tallied := tally_of_portRow? found sofar
  have peer : sighting.peer? = (observation.neighbourOn? port.interface).map (·.mac) := by
    rw [← sightingDef]
    rfl
  have speed : sighting.port.maxSpeed = port.maxSpeed := by
    rw [← sightingDef]
    rfl
  unfold recordPort
  rw [asStored, result_bind_ok saved, result_bind_ok (result_peerOf? sound' observation port),
    sighted, tallied, ← peer, filter_speeds]
  generalize tables.savePort (tables.sighted sighting) sighting.mac = stored' at found
  unfold plug tallyCable
  cases other : (sighting.peer?.bind stored'.portRow?).filter (·.id ≠ here.id) with
  | none =>
    rw [Option.map_none]
    refine (result_bind_ok (result_unlinkPort stored' here.id)).trans ?_
    dsimp only
    split <;> rfl
  | some there =>
    obtain ⟨_, _, seen⟩ := Option.bind_eq_some_iff.1 (Option.filter_eq_some_iff.1 other).1
    obtain ⟨row, _, linked⟩ := result_saveLink
      (stored'.deleteLinks (LinkCells.touchesBeside here.id there.id))
      (.between here.id there.id (min port.maxSpeed there.cells.speed))
      (has_of_portRow? found) (has_of_portRow? seen)
    rw [Option.map_some]
    refine (result_bind_ok (result_unlinkBeside stored' here.id there.id)).trans ?_
    dsimp only
    rw [speed]
    -- Whether a link was removed decides only what is logged.
    split
    · refine (result_bind_ok (result_liftM _ _)).trans ?_
      exact (result_bind_ok (result_discard_ok linked)).trans rfl
    · exact (result_bind_ok (result_discard_ok linked)).trans rfl

/-- Recording some ports of a stored device succeeds and takes their sightings in. -/
theorem result_recordPorts (sound : tables.Sound) {observation : Observation} (sofar : Recorded)
    (owner : tables.owner? observation.device.address = some sofar.device) (log : Log.Logger)
    (ports : List Port) :
    result ((ports.filter (·.mac?.isSome)).foldlM (recordPort observation log) sofar)
        tables.store =
      (.ok (tables.tallyAll sofar (ports.filterMap fun port =>
          port.mac?.map (observation.sighting port))),
        (tables.takeAll ((ports.filterMap fun port =>
          port.mac?.map (observation.sighting port)).map .port)).store) := by
  induction ports generalizing tables sofar with
  | nil => rfl
  | cons port ports ih =>
    cases known : port.mac? with
    | none => simpa [known] using ih sound sofar owner
    | some mac =>
      have first := result_recordPort sound known owner log
      have owner' : (tables.sight (observation.sighting port mac)).owner?
          observation.device.address =
            some (tables.tally sofar (observation.sighting port mac)).device := by
        rw [tally_device, ← owner, owner?, owner?, deviceRow?, deviceRow?, sight_devices]
      simp only [known, Option.isSome_some, List.filter_cons_of_pos, List.foldlM_cons,
        List.filterMap_cons, Option.map_some, List.map_cons]
      rw [result_bind_ok first]
      exact ih (sound.sight _) _ owner'

/-- Recording an observation on sound tables succeeds, takes its notices in and counts them. -/
theorem result_record_tallyAll (sound : tables.Sound) (observation : Observation)
    (log : Log.Logger) :
    ∃ row, (tables.saveDevice observation.device).deviceRow? observation.device.address =
        some row ∧
      result (record observation log) tables.store =
        (.ok ((tables.saveDevice observation.device).tallyAll ⟨row.id, 0, 0, 0⟩
            observation.sightings),
          (tables.takeAll observation.notices).store) := by
  obtain ⟨row, found, saved⟩ := result_saveDevice tables observation.device
  have owner : (tables.saveDevice observation.device).owner? observation.device.address =
      some row.id := by
    rw [owner?, found]
    rfl
  have recorded := result_recordPorts (sound.saveDevice observation.device) ⟨row.id, 0, 0, 0⟩
    owner log observation.ports
  exact ⟨row, found, result_savepoint_ok rfl rfl ((result_bind_ok saved).trans recorded)⟩

/-- Recording an observation on sound tables succeeds and takes its notices in. -/
theorem result_record (sound : tables.Sound) (observation : Observation) (log : Log.Logger) :
    ∃ done : Recorded, done.ports = (observation.ports.filter (·.mac?.isSome)).length ∧
      (tables.saveDevice observation.device).owner? observation.device.address =
        some done.device ∧
      result (record observation log) tables.store =
        (.ok done, (tables.takeAll observation.notices).store) := by
  obtain ⟨row, found, recorded⟩ := result_record_tallyAll sound observation log
  have sightings : observation.sightings.length =
      (observation.ports.filter (·.mac?.isSome)).length := by
    rw [Observation.sightings, List.length_filterMap_eq_countP, ← List.countP_eq_length_filter]
    simp only [Option.isSome_map]
  have counted := tallyAll_device_ports (tables.saveDevice observation.device)
    ⟨row.id, 0, 0, 0⟩ observation.sightings
  refine ⟨_, ?_, ?_, recorded⟩
  · rw [counted.2, sightings, Nat.zero_add]
  · rw [counted.1, owner?, found, Option.map_some]

end Store

end CableMap
