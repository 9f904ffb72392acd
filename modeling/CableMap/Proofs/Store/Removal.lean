import CableMap.Proofs.Store.Backing
import CableMap.Proofs.Store.Identity

/-!
# What removes a row

A device goes only where it is removed by its address. A port goes where it is removed by its MAC
address or with its device. A link goes with a port at either end, where the two are unlinked, and
where an observation reports one of the two ports without the other as its neighbour. Nothing else
takes a row or its number away, so the number found under an address, under a MAC address or
between two ports is the same for as long as none of this happens, and it is never found anywhere
else.
-/
namespace CableMap

namespace Observation

/-- A port is reported under the first MAC address whose neighbour is not another port under the
second. -/
def Parts (observation : Observation) (x y : Mac) : Prop :=
  ∃ port ∈ observation.ports, port.mac? = some x ∧ (x = y ∨ ¬ observation.PointsTo port y)

end Observation

/-- The port with the first MAC address is sighted and its neighbour is not another port under the
second. -/
def Sighting.Parts (sighting : Sighting) (x y : Mac) : Prop :=
  sighting.mac = x ∧ (x = y ∨ sighting.peer? ≠ some y)

/-- An observation parts two ports if one of its sightings does. -/
theorem Observation.parts_iff {observation : Observation} {x y : Mac} :
    observation.Parts x y ↔
      ∃ sighting, .port sighting ∈ observation.notices ∧ sighting.Parts x y := by
  constructor
  · rintro ⟨port, inside, known, apart⟩
    refine ⟨observation.sighting port x, ?_, rfl, apart⟩
    exact port_mem_notices.2 (mem_sightings.2 ⟨port, inside, x, known, rfl⟩)
  · rintro ⟨sighting, inside, own, apart⟩
    obtain ⟨port, reported, mac, known, rfl⟩ := mem_sightings.1 (port_mem_notices.1 inside)
    obtain rfl : mac = x := own
    exact ⟨port, reported, known, apart⟩

namespace Store

namespace Operation

/-- The operation removes the device at an address. -/
def RemovesDevice (address : Ipv4) : Operation → Prop
  | .change (.removeDevice other _) => other = address
  | .change (.reset _) => True
  | _ => False

/-- The operation removes the port with a MAC address from a store, on its own or with its
device. -/
def RemovesPort (mac : Mac) (store : Store) : Operation → Prop
  | .change (.removePort other _) => other = mac
  | .change (.removeDevice address _) => ∃ id port, store.deviceId? address = .ok (some id) ∧
    store.port? mac = .ok (some port) ∧ port.device? = some id
  | .change (.reset _) => True
  | _ => False

/-- The operation takes the two ports of a link in a store apart. -/
def PartsPorts (a b : Int) (store : Store) : Operation → Prop
  | .change (.record observation _) => ∃ x y, store.portId? x = .ok (some a) ∧
    store.portId? y = .ok (some b) ∧ (observation.Parts x y ∨ observation.Parts y x)
  | .change (.unlink c d) => s(c, d) = s(a, b)
  | .unlinkPort port => port ∈ s(a, b)
  | .unlinkBeside port peer => port ∈ s(a, b) ∧ s(port, peer) ≠ s(a, b)
  | _ => False

/-- The operation removes the link between two ports from a store, with one of them or on its
own. -/
def RemovesLink (a b : Int) (store : Store) (operation : Operation) : Prop :=
  (∃ mac, (store.portId? mac = .ok (some a) ∨ store.portId? mac = .ok (some b)) ∧
    operation.RemovesPort mac store) ∨ operation.PartsPorts a b store

end Operation

/-- None of some operations removes a row from the store that it meets. -/
def Spared (removes : Store → Operation → Prop) : Store → List Operation → Prop
  | _, [] => True
  | store, operation :: operations => ¬ removes store operation ∧
    Spared removes (after operation.transaction store) operations

/-- From one moment of a store to a later one, a row number stands for one thing. -/
structure Identified (store : Store) (operations : List Operation) (later : Store) : Prop where
  /-- The number at an address stays exactly as long as its device is not removed. -/
  device : ∀ address id, store.deviceId? address = .ok (some id) →
    (later.deviceId? address = .ok (some id) ↔
      Spared (fun _ => Operation.RemovesDevice address) store operations)
  /-- The number of a device is found at no other address. -/
  address : ∀ id x y, store.deviceId? x = .ok (some id) → later.deviceId? y = .ok (some id) → x = y
  /-- The number under a MAC address stays exactly as long as its port is not removed. -/
  port : ∀ mac id, store.portId? mac = .ok (some id) →
    (later.portId? mac = .ok (some id) ↔ Spared (Operation.RemovesPort mac) store operations)
  /-- The number of a port is found under no other MAC address. -/
  mac : ∀ id x y, store.portId? x = .ok (some id) → later.portId? y = .ok (some id) → x = y
  /-- The number between two ports stays exactly as long as their link is not removed. -/
  link : ∀ a b id, store.linkId? a b = .ok (some id) →
    (later.linkId? a b = .ok (some id) ↔ Spared (Operation.RemovesLink a b) store operations)
  /-- The number of a link is found between no other two ports. -/
  pair : ∀ id a b c d, store.linkId? a b = .ok (some id) → later.linkId? c d = .ok (some id) →
    s(a, b) = s(c, d)
  /-- It makes no difference which end of a link is named first. -/
  unordered : ∀ a b, later.linkId? a b = later.linkId? b a

namespace Tables

variable {tables : Tables}

/-! ## Devices -/

/-- An observation takes no device away. -/
theorem has_devices_takeAll {id : Int} (stored : tables.devices.has id)
    (observation : Observation) : (tables.takeAll observation.notices).devices.has id := by
  rw [devices_takeAll_notices]
  exact Table.has_save stored

/-- An operation leaves the number of a device exactly if it does not remove the device. -/
theorem Sound.has_device_iff (sound : tables.Sound) {address : Ipv4} {row : Row DeviceCells}
    (found : tables.deviceRow? address = some row) {operation : Operation}
    (kept : operation.resets = false) :
    (tables.afterOperation operation).devices.has row.id ↔ ¬ operation.RemovesDevice address := by
  have stored : tables.devices.has row.id :=
    Table.has_iff.2 ⟨row, List.mem_of_find?_eq_some found, rfl⟩
  have stays {P : Prop} (has : P) : P ↔ ¬ False := iff_of_true has id
  cases operation with
  | change made =>
    cases made with
    | record observation log => exact stays (has_devices_takeAll stored observation)
    | removeDevice other log =>
      show (tables.afterChange _).devices.has row.id ↔ ¬ other = address
      apply afterChange_removeDevice (P := fun later => later.devices.has row.id ↔ _) other log
      · intro absent
        refine iff_of_true stored fun same => ?_
        rw [same, found] at absent
        cases absent
      · intro gone there
        have removed := sound.devices.has_delete_found_iff found there
        rwa [addressKey_inj] at removed
    | removePort mac log =>
      apply afterChange_removePort (P := fun later => later.devices.has row.id ↔ _) mac log
      · exact fun _ => stays stored
      · exact fun _ _ => stays stored
    | unlink a b => exact stays stored
    | reset log => exact absurd kept Bool.noConfusion
  | saveDevice device => exact stays (Table.has_save stored)
  | savePort port =>
    exact stays (afterOperation_savePort (P := fun later => later.devices.has row.id) port stored
      fun _ _ => stored)
  | saveLink link =>
    exact stays (afterOperation_saveLink (P := fun later => later.devices.has row.id) link stored
      fun _ _ => stored)
  | unlinkPort port => exact stays stored
  | unlinkBeside port peer => exact stays stored

/-! ## Ports -/

/-- Notices take no port away. -/
theorem has_ports_takeAll {id : Int} (stored : tables.ports.has id) (notices : List Notice) :
    (tables.takeAll notices).ports.has id := by
  induction notices generalizing tables with
  | nil => exact stored
  | cons notice notices ih =>
    apply ih
    cases notice with
    | device device => exact stored
    | port sighting =>
      show (tables.sight sighting).ports.has id
      rw [sight_ports]
      exact Table.has_save stored

/-- A stored port belongs to a device by its row exactly if it is read as one of that device. -/
theorem Sound.isPortOf_iff (sound : tables.Sound) {mac : Mac} {row : Row PortCells}
    (found : tables.portRow? mac = some row) (id : Int) :
    isPortOf id row ↔
      ∃ port, tables.store.port? mac = .ok (some port) ∧ port.device? = some id := by
  obtain ⟨inside, own⟩ := sound.ports.rowAt?_eq_some_iff.1 found
  obtain ⟨port, text, cells⟩ := sound.portCells row inside
  obtain rfl : text = mac := by
    rw [cells] at own
    exact Mac.toString_inj.1 (Option.some.inj own)
  have belongs : isPortOf id row ↔ port.device? = some id := by
    rw [isPortOf, decide_eq_true_eq, cells]
    rfl
  rw [belongs, port?_store_ofPort found cells]
  simp

/-- An operation leaves the number of a port exactly if it does not remove the port. -/
theorem Sound.has_port_iff (sound : tables.Sound) {mac : Mac} {row : Row PortCells}
    (found : tables.portRow? mac = some row) {operation : Operation}
    (kept : operation.resets = false) :
    (tables.afterOperation operation).ports.has row.id ↔
      ¬ operation.RemovesPort mac tables.store := by
  have inside : row ∈ tables.ports.rows := List.mem_of_find?_eq_some found
  have stored : tables.ports.has row.id := Table.has_iff.2 ⟨row, inside, rfl⟩
  have stays {P : Prop} (has : P) : P ↔ ¬ False := iff_of_true has id
  cases operation with
  | change made =>
    cases made with
    | record observation log => exact stays (has_ports_takeAll stored observation.notices)
    | removeDevice address log =>
      have asked := deviceId?_store tables address
      apply afterChange_removeDevice (P := fun later => later.ports.has row.id ↔ _) address log
      · intro absent
        refine iff_of_true stored ?_
        rintro ⟨id, _, known, _⟩
        rw [asked, absent] at known
        cases known
      · intro gone there
        refine (sound.ports.has_delete_iff inside _).trans (not_congr ?_)
        rw [sound.isPortOf_iff found gone.id]
        constructor
        · rintro ⟨port, read, belongs⟩
          exact ⟨gone.id, port, by rw [asked, there]; rfl, read, belongs⟩
        · rintro ⟨id, port, known, read, belongs⟩
          rw [asked, there] at known
          obtain rfl : gone.id = id := Option.some.inj (Except.ok.inj known)
          exact ⟨port, read, belongs⟩
    | removePort other log =>
      show (tables.afterChange _).ports.has row.id ↔ ¬ other = mac
      apply afterChange_removePort (P := fun later => later.ports.has row.id ↔ _) other log
      · intro absent
        refine iff_of_true stored fun same => ?_
        rw [same, found] at absent
        cases absent
      · intro gone there
        have removed := sound.ports.has_delete_found_iff found there
        rwa [Option.some.injEq, Mac.toString_inj] at removed
    | unlink a b => exact stays stored
    | reset log => exact absurd kept Bool.noConfusion
  | saveDevice device => exact stays stored
  | savePort port =>
    exact stays (afterOperation_savePort (P := fun later => later.ports.has row.id) port stored
      fun _ _ => Table.has_save stored)
  | saveLink link =>
    exact stays (afterOperation_saveLink (P := fun later => later.ports.has row.id) link stored
      fun _ _ => stored)
  | unlinkPort port => exact stays stored
  | unlinkBeside port peer => exact stays stored

/-! ## Links -/

/-- Ports found under two MAC addresses have one number exactly if these are the same. -/
theorem Sound.id_eq_iff (sound : tables.Sound) {x y : Mac} {a b : Row PortCells}
    (aFound : tables.portRow? x = some a) (bFound : tables.portRow? y = some b) :
    a.id = b.id ↔ x = y := by
  constructor
  · intro same
    by_contra apart
    exact sound.id_ne apart aFound bFound same
  · intro same
    rw [same, bFound] at aFound
    rw [Option.some.inj aFound]

/-- Where some links are removed and one is stored then, the number of a link is left exactly if
the link is not among those removed. -/
theorem Sound.has_link_saveLink (sound : tables.Sound) {row : Row LinkCells}
    (inside : row ∈ tables.links.rows) (chosen : Row LinkCells → Bool) (link : Link) :
    ((tables.deleteLinks chosen).saveLink link).links.has row.id ↔ ¬ chosen row := by
  have kept := sound.links.has_delete_iff inside chosen
  constructor
  · intro stored
    have given := sound.links.given row inside
    exact kept.1 ((becomes_saveLink (tables.deleteLinks chosen) link).links.has stored given)
  · intro stays
    exact Table.has_save (kept.2 stays)

/-- Plugging the cable of a port leaves the number of a link exactly if it does not part its two
ports. -/
theorem Sound.has_link_plug (sound : tables.Sound) {sighting : Sighting} {here : Row PortCells}
    (own : tables.portRow? sighting.mac = some here) {x y : Mac} {a b : Row PortCells}
    (aFound : tables.portRow? x = some a) (bFound : tables.portRow? y = some b)
    {link : Row LinkCells} (found : tables.linkRow? a.id b.id = some link) :
    (tables.plug here sighting).links.has link.id ↔
      ¬ (sighting.Parts x y ∨ sighting.Parts y x) := by
  have inside : link ∈ tables.links.rows := List.mem_of_find?_eq_some found
  have ends := ends_of_linkRow? found
  -- What is asked about MAC addresses is asked about the numbers of their ports.
  have hereA := sound.id_eq_iff own aFound
  have hereB := sound.id_eq_iff own bFound
  have loop := sound.id_eq_iff aFound bFound
  unfold Tables.plug
  cases other : (sighting.peer?.bind tables.portRow?).filter (·.id ≠ here.id) with
  | none =>
    -- A neighbour that is not another stored port is not the other end.
    have names {z : Mac} {c : Row PortCells} (cFound : tables.portRow? z = some c)
        (apart : c.id ≠ here.id) : sighting.peer? ≠ some z := by
      intro named
      rw [named, Option.bind_some, cFound, Option.filter_some,
        if_pos (by simpa using apart)] at other
      cases other
    refine (sound.links.has_delete_iff inside _).trans (not_congr ?_)
    rw [LinkCells.touches_iff, ends, Sym2.mem_iff, Option.some.injEq, Option.some.injEq]
    constructor
    · rintro (same | same)
      · refine .inl ⟨hereA.1 same, or_iff_not_imp_left.2 fun apart => names bFound ?_⟩
        exact fun equal => apart (loop.1 (same.symm.trans equal.symm))
      · refine .inr ⟨hereB.1 same, or_iff_not_imp_left.2 fun apart => names aFound ?_⟩
        exact fun equal => apart (loop.1 (equal.trans same)).symm
    · rintro (parts | parts)
      · exact .inl (hereA.2 parts.1)
      · exact .inr (hereB.2 parts.1)
  | some there =>
    obtain ⟨seen, apart⟩ := Option.filter_eq_some_iff.1 other
    obtain ⟨peer, named, peerFound⟩ := Option.bind_eq_some_iff.1 seen
    have apart : there.id ≠ here.id := by simpa using apart
    have thereA := sound.id_eq_iff peerFound aFound
    have thereB := sound.id_eq_iff peerFound bFound
    refine (sound.has_link_saveLink inside _ _).trans (not_congr ?_)
    rw [LinkCells.touchesBeside_iff (sound.linkCells link inside), ends]
    simp only [Sighting.Parts, named, Sym2.mem_iff, Sym2.eq_iff, Option.some.injEq, ne_eq,
      ← hereA, ← hereB, ← loop, ← sound.id_eq_iff bFound aFound, ← thereA, ← thereB]
    omega

/-- A port that is stored keeps the numbers of all ports. -/
theorem id_portRow?_savePort {x : Mac} {id : Int}
    (known : (tables.portRow? x).map (·.id) = some id) (port : Port) (mac : Mac) :
    ((tables.savePort port mac).portRow? x).map (·.id) = some id := by
  obtain ⟨row, found, rfl⟩ := Option.map_eq_some_iff.1 known
  obtain ⟨later, laterFound, same⟩ := Table.rowAt?_put_of_found found (.ofPort port mac)
  exact Option.map_eq_some_iff.2 ⟨later, laterFound, same⟩

/-- A sighting leaves the number of a link exactly if it does not part its two ports. -/
theorem Sound.has_link_sight (sound : tables.Sound) (sighting : Sighting) {x y : Mac} {a b id : Int}
    (aKnown : (tables.portRow? x).map (·.id) = some a)
    (bKnown : (tables.portRow? y).map (·.id) = some b)
    (known : (tables.linkRow? a b).map (·.id) = some id) :
    (tables.sight sighting).links.has id ↔ ¬ (sighting.Parts x y ∨ sighting.Parts y x) := by
  obtain ⟨here, _, own, sighted⟩ := sight_eq_plug tables sighting
  have saved := sound.savePort sighting.mac (deviceIsStored_sighted sighting)
  obtain ⟨link, found, rfl⟩ := Option.map_eq_some_iff.1 known
  obtain ⟨left, aFound, rfl⟩ := Option.map_eq_some_iff.1 (id_portRow?_savePort aKnown _ _)
  obtain ⟨right, bFound, rfl⟩ := Option.map_eq_some_iff.1 (id_portRow?_savePort bKnown _ _)
  rw [sighted]
  exact saved.has_link_plug own aFound bFound found

/-- Notices leave the number of a link exactly if no sighting among them parts its two ports. -/
theorem Sound.has_link_takeAll (sound : tables.Sound) (notices : List Notice) {x y : Mac}
    {a b id : Int} (aKnown : (tables.portRow? x).map (·.id) = some a)
    (bKnown : (tables.portRow? y).map (·.id) = some b)
    (known : (tables.linkRow? a b).map (·.id) = some id) :
    (tables.takeAll notices).links.has id ↔
      ∀ sighting, .port sighting ∈ notices → ¬ (sighting.Parts x y ∨ sighting.Parts y x) := by
  induction notices generalizing tables with
  | nil =>
    obtain ⟨row, inside, _, own⟩ := sound.links.id_rowAt?_iff.1 known
    have stored : tables.links.has id := Table.has_iff.2 ⟨row, inside, own⟩
    exact iff_of_true stored fun _ inside => absurd inside List.not_mem_nil
  | cons notice notices ih =>
    cases notice with
    | device device =>
      have rest := ih (sound.saveDevice device) aKnown bKnown known
      refine rest.trans (forall_congr' fun sighting => ?_)
      simp
    | port sighting =>
      have step := sound.has_link_sight sighting aKnown bKnown known
      have later := sound.sight sighting
      have becomes : tables.Becomes (tables.sight sighting) := becomes_take tables (.port sighting)
      have found := becomes.links.id_rowAt?_iff_has sound.links later.links known
      have kept {z : Mac} {c : Int} (known : (tables.portRow? z).map (·.id) = some c) :
          ((tables.sight sighting).portRow? z).map (·.id) = some c := by
        rw [portRow?, sight_ports]
        exact id_portRow?_savePort known _ _
      simp only [List.mem_cons, forall_eq_or_imp, Notice.port.injEq, ← step]
      constructor
      · -- A number that is there in the end was there all the time.
        intro stored
        have rest := becomes_takeAll (tables.sight sighting) notices
        have given := (sound.links.id_rowAt?_le known).trans becomes.links.given
        have between := rest.links.has stored given
        exact ⟨between, (ih later (kept aKnown) (kept bKnown) (found.2 between)).1 stored⟩
      · rintro ⟨between, rest⟩
        exact (ih later (kept aKnown) (kept bKnown) (found.2 between)).2 rest

/-- Where a link is, both its ports are; and where some ports are removed with their links, it is
if both are. -/
theorem Sound.has_link_deletePorts (sound : tables.Sound) {a b : Int} {link : Row LinkCells}
    (found : tables.linkRow? a b = some link) (chosen : Row PortCells → Bool) :
    (tables.deletePorts chosen).links.has link.id ↔
      (tables.deletePorts chosen).ports.has a ∧ (tables.deletePorts chosen).ports.has b := by
  obtain ⟨inside, ends⟩ := sound.links.rowAt?_eq_some_iff.1 found
  have stays (id : Int) (isEnd : some id ∈ link.cells.ends) :
      (tables.deletePorts chosen).ports.has id ↔
        ∀ port ∈ tables.ports.rows, chosen port → port.id ≠ id := by
    obtain ⟨own, ownInside, rfl⟩ := Table.has_iff.1 (sound.plugged link inside id isEnd)
    refine (sound.ports.has_delete_iff ownInside chosen).trans ?_
    constructor
    · intro kept port portInside picked same
      rw [sound.ports.eq_of_id portInside ownInside same] at picked
      exact kept picked
    · intro free picked
      exact free own ownInside picked rfl
  have aEnd : some a ∈ link.cells.ends := ends ▸ Sym2.mem_mk_left _ _
  have bEnd : some b ∈ link.cells.ends := ends ▸ Sym2.mem_mk_right _ _
  refine (sound.links.has_delete_iff inside _).trans ?_
  rw [stays a aEnd, stays b bEnd, List.any_eq_true]
  simp only [List.mem_filter, LinkCells.touches_iff, ends, Sym2.mem_iff, Option.some.injEq]
  constructor
  · intro untouched
    constructor
    · intro port portInside picked same
      exact untouched ⟨port, ⟨portInside, picked⟩, .inl same⟩
    · intro port portInside picked same
      exact untouched ⟨port, ⟨portInside, picked⟩, .inr same⟩
  · rintro ⟨aFree, bFree⟩ ⟨port, ⟨portInside, picked⟩, same | same⟩
    · exact aFree port portInside picked same
    · exact bFree port portInside picked same

/-- An operation removes no port at either end of a link exactly if it leaves the numbers of
both. -/
theorem Sound.has_ends_iff (sound : tables.Sound) {a b : Int} (aStored : tables.ports.has a)
    (bStored : tables.ports.has b) {operation : Operation} (kept : operation.resets = false) :
    ((tables.afterOperation operation).ports.has a ∧
        (tables.afterOperation operation).ports.has b) ↔
      ¬ ∃ mac, (tables.store.portId? mac = .ok (some a) ∨ tables.store.portId? mac = .ok (some b)) ∧
        operation.RemovesPort mac tables.store := by
  have asked (mac : Mac) (id : Int) : tables.store.portId? mac = .ok (some id) ↔
      ∃ row, tables.portRow? mac = some row ∧ row.id = id := by
    rw [portId?_store, Except.ok.injEq, Option.map_eq_some_iff]
  constructor
  · rintro ⟨aStays, bStays⟩ ⟨mac, known, removes⟩
    rcases known with known | known
    · obtain ⟨row, found, rfl⟩ := (asked mac a).1 known
      exact (sound.has_port_iff found kept).1 aStays removes
    · obtain ⟨row, found, rfl⟩ := (asked mac b).1 known
      exact (sound.has_port_iff found kept).1 bStays removes
  · intro spared
    constructor
    · obtain ⟨x, row, found, rfl⟩ := sound.exists_portRow?_of_has aStored
      refine (sound.has_port_iff found kept).2 fun removes => spared ⟨x, .inl ?_, removes⟩
      exact (asked x row.id).2 ⟨row, found, rfl⟩
    · obtain ⟨y, row, found, rfl⟩ := sound.exists_portRow?_of_has bStored
      refine (sound.has_port_iff found kept).2 fun removes => spared ⟨y, .inr ?_, removes⟩
      exact (asked y row.id).2 ⟨row, found, rfl⟩

/-- An observation takes the ports of a link apart exactly if a sighting of it does. -/
theorem Sound.has_link_record (sound : tables.Sound) {a b : Int} {link : Row LinkCells}
    (found : tables.linkRow? a b = some link) (aStored : tables.ports.has a)
    (bStored : tables.ports.has b) (observation : Observation) (log : Log.Logger) :
    (tables.takeAll observation.notices).links.has link.id ↔
      ¬ (Operation.change (.record observation log)).PartsPorts a b tables.store := by
  obtain ⟨x, left, aFound, rfl⟩ := sound.exists_portRow?_of_has aStored
  obtain ⟨y, right, bFound, rfl⟩ := sound.exists_portRow?_of_has bStored
  have aKnown : (tables.portRow? x).map (·.id) = some left.id := by rw [aFound, Option.map_some]
  have bKnown : (tables.portRow? y).map (·.id) = some right.id := by rw [bFound, Option.map_some]
  have known : (tables.linkRow? left.id right.id).map (·.id) = some link.id := by
    rw [found, Option.map_some]
  have own {z w : Mac} {row : Row PortCells} (rowFound : tables.portRow? z = some row)
      (asked : tables.store.portId? w = .ok (some row.id)) : w = z := by
    rw [portId?_store, Except.ok.injEq, Option.map_eq_some_iff] at asked
    obtain ⟨other, otherFound, same⟩ := asked
    exact (sound.id_eq_iff otherFound rowFound).1 same
  rw [sound.has_link_takeAll observation.notices aKnown bKnown known]
  constructor
  · rintro quiet ⟨x', y', xAsked, yAsked, parts⟩
    rw [own aFound xAsked, own bFound yAsked, Observation.parts_iff, Observation.parts_iff] at parts
    rcases parts with ⟨sighting, inside, parts⟩ | ⟨sighting, inside, parts⟩
    · exact quiet sighting inside (.inl parts)
    · exact quiet sighting inside (.inr parts)
  · intro whole sighting inside parts
    apply whole
    refine ⟨x, y, ?_, ?_, ?_⟩
    · rw [portId?_store, aKnown]
    · rw [portId?_store, bKnown]
    · rw [Observation.parts_iff, Observation.parts_iff]
      exact parts.imp (fun own => ⟨sighting, inside, own⟩) fun own => ⟨sighting, inside, own⟩

/-- An operation leaves the number of a link exactly if it does not remove the link. -/
theorem Sound.has_link_iff (sound : tables.Sound) {a b : Int} {link : Row LinkCells}
    (found : tables.linkRow? a b = some link) {operation : Operation}
    (kept : operation.resets = false) :
    (tables.afterOperation operation).links.has link.id ↔
      ¬ operation.RemovesLink a b tables.store := by
  obtain ⟨inside, ends⟩ := sound.links.rowAt?_eq_some_iff.1 found
  have aStored := sound.plugged link inside a (ends ▸ Sym2.mem_mk_left _ _)
  have bStored := sound.plugged link inside b (ends ▸ Sym2.mem_mk_right _ _)
  have stored : tables.links.has link.id := Table.has_iff.2 ⟨link, inside, rfl⟩
  rw [Operation.RemovesLink, not_or, ← sound.has_ends_iff aStored bStored kept]
  have ports : (tables.ports.has a ∧ tables.ports.has b) := ⟨aStored, bStored⟩
  cases operation with
  | change made =>
    cases made with
    | record observation log =>
      rw [← sound.has_link_record found aStored bStored observation log]
      refine (and_iff_right ⟨?_, ?_⟩).symm
      · exact has_ports_takeAll aStored observation.notices
      · exact has_ports_takeAll bStored observation.notices
    | removeDevice address log =>
      apply afterChange_removeDevice
        (P := fun later => later.links.has link.id ↔ (later.ports.has a ∧ later.ports.has b) ∧ _)
        address log
      · exact fun _ => iff_of_true stored ⟨ports, id⟩
      · intro gone _
        exact (sound.has_link_deletePorts found _).trans (and_iff_left id).symm
    | removePort mac log =>
      apply afterChange_removePort
        (P := fun later => later.links.has link.id ↔ (later.ports.has a ∧ later.ports.has b) ∧ _)
        mac log
      · exact fun _ => iff_of_true stored ⟨ports, id⟩
      · intro gone _
        exact (sound.has_link_deletePorts found _).trans (and_iff_left id).symm
    | unlink c d =>
      refine Iff.trans ?_ (and_iff_right ports).symm
      refine (sound.links.has_delete_iff inside _).trans (not_congr ?_)
      rw [LinkCells.joins_eq, decide_eq_true_eq, ends]
      simp [Operation.PartsPorts, eq_comm]
    | reset log => exact absurd kept Bool.noConfusion
  | saveDevice device => exact iff_of_true stored ⟨ports, id⟩
  | savePort port =>
    apply afterOperation_savePort
      (P := fun later => later.links.has link.id ↔ (later.ports.has a ∧ later.ports.has b) ∧ _) port
    · exact iff_of_true stored ⟨ports, id⟩
    · exact fun _ _ => iff_of_true stored ⟨⟨Table.has_save aStored, Table.has_save bStored⟩, id⟩
  | saveLink other =>
    apply afterOperation_saveLink
      (P := fun later => later.links.has link.id ↔ (later.ports.has a ∧ later.ports.has b) ∧ _)
      other
    · exact iff_of_true stored ⟨ports, id⟩
    · exact fun _ _ => iff_of_true (Table.has_save stored) ⟨ports, id⟩
  | unlinkPort port =>
    refine Iff.trans ?_ (and_iff_right ports).symm
    refine (sound.links.has_delete_iff inside _).trans (not_congr ?_)
    rw [LinkCells.touches_iff, ends]
    simp [Operation.PartsPorts]
  | unlinkBeside port peer =>
    refine Iff.trans ?_ (and_iff_right ports).symm
    refine (sound.links.has_delete_iff inside _).trans (not_congr ?_)
    rw [LinkCells.touchesBeside_iff (sound.linkCells link inside), ends]
    simp [Operation.PartsPorts, eq_comm]

/-! ## Whole runs -/

/-- Of one of the three tables: what an operation leaves exactly if it does not remove it, a run
leaves exactly if it spares it. -/
theorem number_kept_iff {α κ : Type} [DecidableEq κ] {key : α → κ} (part : Tables → Table α)
    (keyed : ∀ {tables : Tables}, tables.Sound → (part tables).Keyed key)
    (becomes : ∀ {earlier later : Tables}, earlier.Becomes later →
      (part earlier).Becomes key (part later))
    {removes : Store → Operation → Prop} {k : κ}
    (step : ∀ {tables : Tables}, tables.Sound → ∀ {row : Row α},
      (part tables).rowAt? key k = some row → ∀ {operation : Operation},
        operation.resets = false →
          ((part (tables.afterOperation operation)).has row.id ↔ ¬ removes tables.store operation))
    (sound : tables.Sound) {id : Int} (start : ((part tables).rowAt? key k).map (·.id) = some id)
    {operations : List Operation} (kept : ∀ operation ∈ operations, operation.resets = false) :
    ((part (tables.afterOperations operations)).rowAt? key k).map (·.id) = some id ↔
      Spared removes tables.store operations := by
  induction operations generalizing tables with
  | nil => exact iff_of_true start trivial
  | cons operation operations ih =>
    have keptFirst := kept operation List.mem_cons_self
    have keptRest : ∀ other ∈ operations, other.resets = false := fun other inside =>
      kept other (List.mem_cons_of_mem _ inside)
    have middle := sound.afterOperation operation
    have later := middle.afterOperations operations
    have first := becomes (becomes_afterOperation tables keptFirst)
    have rest := becomes (becomes_afterOperations (tables.afterOperation operation) keptRest)
    have stays : ((part (tables.afterOperation operation)).rowAt? key k).map (·.id) = some id ↔
        ¬ removes tables.store operation := by
      obtain ⟨row, found, rfl⟩ := Option.map_eq_some_iff.1 start
      exact (first.id_rowAt?_iff_has (keyed sound) (keyed middle) start).trans
        (step sound found keptFirst)
    rw [Spared, sound.after_operation_eq, ← stays]
    constructor
    · intro last
      have between := first.id_rowAt?_between rest (keyed sound) (keyed middle) (keyed later) start
        last
      exact ⟨between, (ih middle between keptRest).1 last⟩
    · rintro ⟨between, spared⟩
      exact (ih middle between keptRest).2 spared

/-- A run from sound tables that does not forget everything leaves row numbers as identities. -/
theorem Sound.identified (sound : tables.Sound) {operations : List Operation}
    (kept : ∀ operation ∈ operations, operation.resets = false) :
    Identified tables.store operations (tables.afterOperations operations).store := by
  have later := sound.afterOperations operations
  have becomes := becomes_afterOperations tables kept
  constructor
  case device =>
    intro address id known
    rw [deviceId?_store, Except.ok.injEq] at known ⊢
    exact number_kept_iff Tables.devices Sound.devices Becomes.devices
      (fun sound _ found _ kept => sound.has_device_iff found kept) sound known kept
  case port =>
    intro mac id known
    rw [portId?_store, Except.ok.injEq] at known ⊢
    exact number_kept_iff Tables.ports Sound.ports Becomes.ports
      (fun sound _ found _ kept => sound.has_port_iff found kept) sound known kept
  case link =>
    intro a b id known
    rw [linkId?_store, Except.ok.injEq] at known ⊢
    exact number_kept_iff Tables.links Sound.links Becomes.links
      (fun sound _ found _ kept => sound.has_link_iff found kept) sound known kept
  case address =>
    intro id x y known found
    rw [deviceId?_store, Except.ok.injEq] at known found
    exact addressKey_inj.1 (becomes.devices.key_eq sound.devices later.devices known found)
  case mac =>
    intro id x y known found
    rw [portId?_store, Except.ok.injEq] at known found
    have same := becomes.ports.key_eq sound.ports later.ports known found
    exact Mac.toString_inj.1 (Option.some.inj same)
  case pair =>
    intro id a b c d known found
    rw [linkId?_store, Except.ok.injEq] at known found
    have same := becomes.links.key_eq sound.links later.links known found
    simpa [Sym2.eq_iff] using same
  case unordered =>
    intro a b
    rw [linkId?_store, linkId?_store, linkRow?_comm]

end Tables

/-- Whatever was done to a newly opened database, operations that do not forget everything leave
row numbers as identities. -/
theorem numbers_stay_identities (place : String) (opening : Log.Logger)
    (past operations : List Operation)
    (kept : ∀ operation ∈ operations, operation.resets = false) :
    let store := afterAll (past.map Operation.transaction)
      (after (openAt place opening) ⟨none, none, none⟩)
    Identified store operations (afterAll (operations.map Operation.transaction) store) := by
  obtain ⟨tables, sound, reached⟩ := Tables.Sound.empty.after_run past
  dsimp only
  rw [after_openAt, reached, sound.after_run_eq]
  exact sound.identified kept

/-- The port that two others name is removed, and reported again. -/
def returning : List Operation :=
  [.change (.removePort ⟨2, 0, 0, 0, 0, 1⟩ .root),
    .change (.record (hostNaming ⟨10, 0, 0, 1⟩ ⟨2, 0, 0, 0, 0, 1⟩ none) .root)]

/-- A port that was removed comes back under a number that was never given. -/
theorem returning_port_is_renumbered :
    let store := afterAll ((contested.map Operation.change).map Operation.transaction)
      (after (openAt "cables" .root) ⟨none, none, none⟩)
    let later := afterAll (returning.map Operation.transaction) store
    Identified store returning later ∧
      (store.portId? ⟨2, 0, 0, 0, 0, 1⟩).toOption = some (some 1) ∧
      (later.portId? ⟨2, 0, 0, 0, 0, 1⟩).toOption = some (some 4) := by
  have kept : ∀ operation ∈ returning, operation.resets = false := by decide
  exact ⟨numbers_stay_identities "cables" .root (contested.map Operation.change) returning kept,
    by decide +kernel⟩

end Store

end CableMap
