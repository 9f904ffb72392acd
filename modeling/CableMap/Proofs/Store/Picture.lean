import CableMap.Proofs.Store.Cable
import CableMap.Proofs.Store.Operation

/-!
# The picture of a store

What a store shows of the network when nobody looks at row numbers: its devices, each port with
the device that it belongs to, and each cable between two MAC addresses, whichever end is which.
-/
namespace CableMap.Store

/-- The device that a port belongs to. -/
def ownerOf (store : Store) (cells : PortCells) : Option DeviceCells :=
  cells.device.bind fun id => (store.deviceRows.find? (·.id = id)).map (·.cells)

/-- The MAC address of the port with a number. -/
def macAt? (store : Store) (id? : Option Int) : Option String :=
  id?.bind fun id => (store.portRows.find? (·.id = id)).bind (·.cells.mac)

/-- The devices of a store. -/
def devicePictures (store : Store) : List DeviceCells := store.deviceRows.map (·.cells)

/-- A port with the device that it belongs to in place of its number. -/
def portPicture (store : Store) (cells : PortCells) : Option DeviceCells × PortCells :=
  (store.ownerOf cells, { cells with device := none })

/-- The ports of a store, each with its device. -/
def portPictures (store : Store) : List (Option DeviceCells × PortCells) :=
  store.portRows.map fun row => store.portPicture row.cells

/-- A link as the MAC addresses that it joins and its cable. -/
def linkPicture (store : Store) (cells : LinkCells) :
    Sym2 (Option String) × Option Int × Option Int × Option Int :=
  (cells.ends.map store.macAt?, cells.cable)

/-- The links of a store. -/
def linkPictures (store : Store) :
    List (Sym2 (Option String) × Option Int × Option Int × Option Int) :=
  store.linkRows.map fun row => store.linkPicture row.cells

/-- Two stores show the same network, up to row numbers, the order of rows and which end of a link
is which. -/
structure SamePicture (left right : Store) : Prop where
  /-- They have the same devices. -/
  devices : left.devicePictures.Perm right.devicePictures
  /-- They have the same ports on the same devices. -/
  ports : left.portPictures.Perm right.portPictures
  /-- They have the same links. -/
  links : left.linkPictures.Perm right.linkPictures

namespace Tables

variable {tables : Tables}

/-- The ends of a link are shown as the MAC addresses between which it is found. -/
theorem Sound.ends_picture (sound : tables.Sound) {x y : Mac} {row : Row LinkCells}
    (found : tables.linkBetween? x y = some row) :
    row.cells.ends.map tables.store.macAt? = s(some (toString x), some (toString y)) := by
  obtain ⟨_, a, b, aFound, bFound, ends⟩ := sound.ends_of_linkBetween? found
  have shown : ∀ {z : Mac} {port : Row PortCells}, tables.portRow? z = some port →
      tables.store.macAt? (some port.id) = some (toString z) := by
    intro z port portFound
    obtain ⟨inside, mac⟩ := sound.ports.rowAt?_eq_some_iff.1 portFound
    have byId : tables.store.portRows.find? (·.id = port.id) = some port :=
      sound.ports.find?_id inside
    rw [macAt?, Option.bind_some, byId, Option.bind_some, mac]
  rw [ends, Sym2.map_mk, shown aFound, shown bFound]

/-- No two links are shown between the same MAC addresses. -/
theorem Sound.ends_pictures_nodup (sound : tables.Sound) :
    (tables.store.linkPictures.map (·.1)).Nodup := by
  have shown : tables.store.linkPictures.map (·.1) =
      tables.links.rows.map fun row => row.cells.ends.map tables.store.macAt? := List.map_map
  rw [shown]
  refine List.pairwise_map.2 (sound.links.distinct.imp_of_mem ?_)
  intro left right leftInside rightInside apart same
  obtain ⟨x, y, _, _, _, _, _, leftFound⟩ := sound.exists_linkBetween? leftInside
  obtain ⟨x', y', _, _, _, _, _, rightFound⟩ := sound.exists_linkBetween? rightInside
  rw [sound.ends_picture leftFound, sound.ends_picture rightFound, Sym2.eq_iff] at same
  simp only [Option.some.injEq, Mac.toString_inj] at same
  rcases same with ⟨rfl, rfl⟩ | ⟨rfl, rfl⟩
  · rw [leftFound] at rightFound
    exact apart (congrArg (·.cells.ends) (Option.some.inj rightFound))
  · rw [linkBetween?_comm, leftFound] at rightFound
    exact apart (congrArg (·.cells.ends) (Option.some.inj rightFound))

/-- A cable between two MAC addresses is shown. -/
theorem Sound.mem_linkPictures (sound : tables.Sound) {x y : Mac}
    {cable : Option Int × Option Int × Option Int} (known : tables.cable? x y = some cable) :
    (s(some (toString x), some (toString y)), cable) ∈ tables.store.linkPictures := by
  obtain ⟨row, found, rfl⟩ := Option.map_eq_some_iff.1 known
  obtain ⟨inside, _⟩ := sound.ends_of_linkBetween? found
  refine List.mem_map.2 ⟨row, inside, ?_⟩
  rw [linkPicture, sound.ends_picture found]

/-- A link that is shown is a cable between two MAC addresses of stored ports. -/
theorem Sound.exists_cable?_of_mem (sound : tables.Sound)
    {picture : Sym2 (Option String) × Option Int × Option Int × Option Int}
    (shown : picture ∈ tables.store.linkPictures) :
    ∃ x y a b, tables.portRow? x = some a ∧ tables.portRow? y = some b ∧
      picture.1 = s(some (toString x), some (toString y)) ∧
      tables.cable? x y = some picture.2 := by
  obtain ⟨row, inside, rfl⟩ := List.mem_map.1 shown
  obtain ⟨x, y, a, b, aFound, bFound, _, found⟩ := sound.exists_linkBetween? inside
  refine ⟨x, y, a, b, aFound, bFound, sound.ends_picture found, ?_⟩
  rw [cable?, found]
  rfl

end Tables

end CableMap.Store
