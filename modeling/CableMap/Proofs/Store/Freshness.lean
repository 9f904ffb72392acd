import CableMap.Proofs.Store.Cable
import CableMap.Proofs.Store.Operation

/-!
# Links are never stale

A link holds the lower of the speeds of its two ports, and a port may change its speed whenever its
device reports it. Only a sighting overwrites a port, and a sighting settles every cable of its
port: the one to the neighbour that it names is written anew and all others are removed, whichever
end they were made from. So at any moment a link holds the lower of the speeds that its two ports
hold at that moment.
-/
namespace CableMap.Store

namespace Tables

variable {tables : Tables}

/-! ## The speeds of links -/

/-- Every link holds what is written of a cable with the lower of the speeds of its ports. -/
def Fresh (tables : Tables) : Prop :=
  ∀ link ∈ tables.links.rows, ∀ a ∈ tables.ports.rows, ∀ b ∈ tables.ports.rows,
    link.cells.ends = s(some a.id, some b.id) →
      link.cells.cable = plainCable (min a.cells.speed b.cells.speed)

/-- Links are fresh exactly if the cables between MAC addresses are. -/
theorem Sound.fresh_iff (sound : tables.Sound) :
    tables.Fresh ↔ ∀ x y a b, tables.portRow? x = some a → tables.portRow? y = some b →
      ∀ cable, tables.cable? x y = some cable →
        cable = plainCable (min a.cells.speed b.cells.speed) := by
  constructor
  · intro fresh x y a b aFound bFound cable known
    obtain ⟨link, found, rfl⟩ := Option.map_eq_some_iff.1 known
    obtain ⟨inside, a', b', aFound', bFound', ends⟩ := sound.ends_of_linkBetween? found
    obtain rfl : a = a' := Option.some.inj (aFound.symm.trans aFound')
    obtain rfl : b = b' := Option.some.inj (bFound.symm.trans bFound')
    have aInside : a ∈ tables.ports.rows := List.mem_of_find?_eq_some aFound
    have bInside : b ∈ tables.ports.rows := List.mem_of_find?_eq_some bFound
    exact fresh link inside a aInside b bInside ends
  · intro fresh link inside a aInside b bInside ends
    have byMac : ∀ row ∈ tables.ports.rows, ∃ x, tables.portRow? x = some row := by
      intro row stored
      obtain ⟨port, x, cells⟩ := sound.portCells row stored
      exact ⟨x, sound.ports.rowAt?_eq_some_iff.2 ⟨stored, by rw [cells]; rfl⟩⟩
    obtain ⟨x, aFound⟩ := byMac a aInside
    obtain ⟨y, bFound⟩ := byMac b bInside
    have found : tables.linkBetween? x y = some link := by
      rw [linkBetween?, aFound, bFound]
      exact sound.links.rowAt?_eq_some_iff.2 ⟨inside, ends⟩
    have known : tables.cable? x y = some link.cells.cable := by
      rw [cable?, found, Option.map_some]
    exact fresh x y a b aFound bFound _ known

/-- A cable that leads to a port that was just sighted has the lower of the two speeds. -/
theorem Sound.cable?_sight_fresh (sound : tables.Sound) {sighting : Sighting} {y : Mac}
    (apart : y ≠ sighting.mac) {a b : Row PortCells}
    (aFound : (tables.sight sighting).portRow? sighting.mac = some a)
    (bFound : (tables.sight sighting).portRow? y = some b)
    {cable : Option Int × Option Int × Option Int}
    (known : (tables.sight sighting).cable? sighting.mac y = some cable) :
    cable = plainCable (min a.cells.speed b.cells.speed) := by
  obtain ⟨here, found, cells⟩ := portRow?_sight_self tables sighting
  obtain rfl : a = here := Option.some.inj (aFound.symm.trans found)
  have speed : a.cells.speed = sighting.port.maxSpeed := by
    rw [cells, PortCells.speed_ofPort]
    rfl
  have there : tables.portRow? y = some b := (portRow?_sight_of_ne apart).symm.trans bFound
  rw [sound.cable?_sight apart, there, Option.map_some] at known
  split at known
  · rw [speed]
    exact (Option.some.inj known).symm
  · exact absurd known.symm (Option.some_ne_none _)

/-- A sighting keeps the links of sound and straight tables fresh. -/
theorem Sound.fresh_sight (sound : tables.Sound) (straight : tables.Straight)
    (fresh : tables.Fresh) (sighting : Sighting) : (tables.sight sighting).Fresh := by
  have later : (tables.sight sighting).Sound := sound.sight sighting
  have laterStraight : (tables.sight sighting).Straight := straight.take (.port sighting)
  rw [sound.fresh_iff] at fresh
  rw [later.fresh_iff]
  intro x y a b aFound bFound cable known
  -- The cables of the sighted port are settled anew, and the others are as they were.
  by_cases xOwn : x = sighting.mac
  · subst xOwn
    by_cases yOwn : y = sighting.mac
    · rw [yOwn, later.cable?_self laterStraight] at known
      exact absurd known.symm (Option.some_ne_none _)
    · exact sound.cable?_sight_fresh yOwn aFound bFound known
  · by_cases yOwn : y = sighting.mac
    · subst yOwn
      rw [cable?_comm] at known
      rw [min_speed_comm]
      exact sound.cable?_sight_fresh xOwn bFound aFound known
    · rw [portRow?_sight_of_ne xOwn] at aFound
      rw [portRow?_sight_of_ne yOwn] at bFound
      have same : (tables.sight sighting).cable? x y = tables.cable? x y := by
        rw [cable?, cable?, sound.linkBetween?_sight_of_ne xOwn yOwn]
      rw [same] at known
      exact fresh x y a b aFound bFound cable known

/-- Notices keep the links of sound and straight tables fresh. -/
theorem Sound.fresh_takeAll (sound : tables.Sound) (straight : tables.Straight)
    (fresh : tables.Fresh) (notices : List Notice) : (tables.takeAll notices).Fresh := by
  induction notices generalizing tables with
  | nil => exact fresh
  | cons notice notices ih =>
    refine ih (sound.take notice) (straight.take notice) ?_
    cases notice with
    | device device => exact fresh
    | port sighting => exact sound.fresh_sight straight fresh sighting

/-! ## The devices of ports -/

/-- Every port belongs to a device. -/
def Housed (tables : Tables) : Prop := ∀ port ∈ tables.ports.rows, port.cells.device.isSome

/-- Sightings at a stored device leave every port in a device. -/
theorem Housed.takeAll_sightings (housed : tables.Housed) {address : Ipv4} {id : Int}
    (known : tables.owner? address = some id) {sightings : List Sighting}
    (own : ∀ sighting ∈ sightings, sighting.address = address) :
    (tables.takeAll (sightings.map .port)).Housed := by
  induction sightings generalizing tables with
  | nil => exact housed
  | cons sighting sightings ih =>
    have later : (tables.sight sighting).Housed := by
      have owner : (PortCells.ofPort (tables.sighted sighting) sighting.mac).device.isSome := by
        show (tables.owner? sighting.address).isSome
        rw [own sighting List.mem_cons_self, known]
        rfl
      unfold Housed
      rw [sight_ports]
      exact written_save (P := fun cells : PortCells => cells.device.isSome) housed
        (fun _ _ _ => owner) owner
    have still : (tables.sight sighting).owner? address = some id := by
      rw [← known, owner?, owner?, deviceRow?, deviceRow?, sight_devices]
    exact ih later still fun other inside => own other (List.mem_cons_of_mem _ inside)

/-- An observation leaves every port in a device. -/
theorem Housed.takeAll_notices (housed : tables.Housed) (observation : Observation) :
    (tables.takeAll observation.notices).Housed := by
  obtain ⟨row, found, _⟩ := deviceRow?_saveDevice_self tables observation.device
  have known : (tables.saveDevice observation.device).owner? observation.device.address =
      some row.id := by
    rw [owner?, found, Option.map_some]
  have saved : (tables.saveDevice observation.device).Housed := housed
  refine saved.takeAll_sightings known fun sighting inside => ?_
  obtain ⟨port, _, mac, _, rfl⟩ := Observation.mem_sightings.1 inside
  rfl

/-! ## What every change keeps -/

/-- Tables in which every link is straight and fresh and every port belongs to a device. -/
structure Current (tables : Tables) : Prop where
  straight : tables.Straight
  fresh : tables.Fresh
  housed : tables.Housed

/-- Tables without rows are up to date. -/
theorem Current.empty : (⟨.empty, .empty, .empty⟩ : Tables).Current where
  straight := Straight.empty
  fresh := by simp [Fresh, Table.empty]
  housed := by simp [Housed, Table.empty]

/-- Tables are still current when links and ports were taken away. -/
theorem Current.of_subset {later : Tables} (current : tables.Current)
    (ports : later.ports.rows ⊆ tables.ports.rows)
    (links : later.links.rows ⊆ tables.links.rows) : later.Current where
  straight link inside := current.straight link (links inside)
  fresh link inside a aInside b bInside :=
    current.fresh link (links inside) a (ports aInside) b (ports bInside)
  housed port inside := current.housed port (ports inside)

/-- A change keeps sound tables current. -/
theorem Current.afterChange (sound : tables.Sound) (current : tables.Current) (change : Change) :
    (tables.afterChange change).Current := by
  refine afterChange_cases change current ?_ ?_ ?_ ?_ fun _ => Current.empty
  · intro observation
    exact {
      straight := current.straight.takeAll observation.notices
      fresh := sound.fresh_takeAll current.straight current.fresh observation.notices
      housed := current.housed.takeAll_notices observation }
  · exact fun id => current.of_subset (List.filter_subset_self _) (List.filter_subset_self _)
  · exact fun chosen => current.of_subset (List.filter_subset_self _) (List.filter_subset_self _)
  · exact fun chosen => current.of_subset (List.Subset.refl _) (List.filter_subset_self _)

end Tables

/-- What is stored of links is up to date. -/
structure UpToDate (store : Store) : Prop where
  /-- No table is missing. -/
  tables : store.devices?.isSome ∧ store.ports?.isSome ∧ store.links?.isSome
  /-- A link joins two different stored ports, its kind and its length are zero, and its speed is
  the lower of the speeds that they hold. -/
  links : ∀ link ∈ store.linkRows, ∃ a ∈ store.portRows, ∃ b ∈ store.portRows, a.id ≠ b.id ∧
    link.cells.a = some a.id ∧ link.cells.b = some b.id ∧ ∃ s t : UInt32,
      a.cells.maxSpeed = some s.toNat ∧ b.cells.maxSpeed = some t.toNat ∧
        link.cells.cable = plainCable (min s t)
  /-- A port belongs to a stored device. -/
  ports : ∀ port ∈ store.portRows, ∃ device ∈ store.deviceRows, port.cells.device = some device.id

/-- Sound and current tables are up to date. -/
theorem Tables.Sound.upToDate {tables : Tables} (sound : tables.Sound) (current : tables.Current) :
    tables.store.UpToDate where
  tables := ⟨rfl, rfl, rfl⟩
  links link inside := by
    obtain ⟨a, aInside, b, bInside, aEnd, bEnd⟩ := sound.intact.ends link inside
    have apart : a.id ≠ b.id := by
      intro same
      exact current.straight link inside (by rw [aEnd, bEnd, same])
    have ends : link.cells.ends = s(some a.id, some b.id) := by
      rw [LinkCells.ends, aEnd, bEnd]
    have speeds := current.fresh link inside a aInside b bInside ends
    obtain ⟨aPort, x, aCells⟩ := sound.portCells a aInside
    obtain ⟨bPort, y, bCells⟩ := sound.portCells b bInside
    rw [aCells, bCells, PortCells.speed_ofPort, PortCells.speed_ofPort] at speeds
    refine ⟨a, aInside, b, bInside, apart, aEnd, bEnd, aPort.maxSpeed, bPort.maxSpeed, ?_, ?_,
      speeds⟩
    · rw [aCells]
      rfl
    · rw [bCells]
      rfl
  ports port inside := by
    obtain ⟨id, belongs⟩ := Option.isSome_iff_exists.1 (current.housed port inside)
    obtain ⟨device, stored, rfl⟩ := sound.intact.owners port inside id belongs
    exact ⟨device, stored, belongs⟩

/-- Whatever the program did, the links that it stores are up to date. -/
theorem upToDate_after_changes (place : String) (opening : Log.Logger) (changes : List Change) :
    (afterAll (changes.map Change.transaction)
      (after (openAt place opening) ⟨none, none, none⟩)).UpToDate := by
  obtain ⟨later, sound, current, reached⟩ := Tables.Sound.empty.after_changes_keeping
    Tables.Current.empty Tables.Current.afterChange changes
  rw [after_openAt, reached]
  exact sound.upToDate current

end CableMap.Store
