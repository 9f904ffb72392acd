import CableMap.Proofs.Store.Backing
import CableMap.Proofs.Store.Reliable
import CableMap.Store.Report

/-!
# A report hides nothing

A report shows at each port the one link that is found at it, which is the one with the lowest
number, while a port may have several. A link that is made or renewed is alone at the port that was
reported, since that port loses all others, and every link that a port gets later has a higher
number. So each link is the lowest at one of its ends for as long as it is stored, and a report
shows it there.
-/
namespace CableMap.Store

namespace Tables

variable {tables : Tables}

/-! ## Links that show -/

/-- Every link has the lowest number of those at one of its ends. -/
def Visible (tables : Tables) : Prop :=
  ∀ link ∈ tables.links.rows, ∃ port, LinkCells.touches port link ∧
    ∀ other ∈ tables.links.rows, LinkCells.touches port other → link.id ≤ other.id

/-- Tables without rows have no link that goes unseen. -/
theorem Visible.empty : (⟨.empty, .empty, .empty⟩ : Tables).Visible := by
  simp [Visible, Table.empty]

/-- Links still show when others were taken away. -/
theorem Visible.of_subset {later : Tables} (visible : tables.Visible)
    (links : later.links.rows ⊆ tables.links.rows) : later.Visible := by
  intro link inside
  obtain ⟨port, touches, lowest⟩ := visible link (links inside)
  exact ⟨port, touches, fun other there => lowest other (links there)⟩

/-- After a link is stored, links at its first end join its two ports if those before did. -/
theorem ends_saveLink_of_touches {link : Link}
    (alone : ∀ other ∈ tables.links.rows, LinkCells.touches link.a other →
      other.cells.ends = s(some link.a, some link.b))
    {row : Row LinkCells} (inside : row ∈ (tables.saveLink link).links.rows)
    (touches : LinkCells.touches link.a row) :
    row.cells.ends = s(some link.a, some link.b) := by
  rcases mem_saveLink inside with ⟨old, stored, _, ends⟩ | rfl
  · rw [LinkCells.touches_iff, ← ends, ← LinkCells.touches_iff] at touches
    rw [← ends]
    exact alone old stored touches
  · rfl

/-- Where a link is stored at a port that has no other, every link still shows. -/
theorem Visible.saveLink (visible : tables.Visible) (sound : tables.Sound) {link : Link}
    (a : tables.ports.has link.a) (b : tables.ports.has link.b)
    (alone : ∀ other ∈ tables.links.rows, LinkCells.touches link.a other →
      other.cells.ends = s(some link.a, some link.b)) : (tables.saveLink link).Visible := by
  have later := (sound.saveLink a b).links
  intro row inside
  by_cases touches : LinkCells.touches link.a row
  · -- Whatever else is at this end joins the same ports, so it is the same link.
    refine ⟨link.a, touches, fun other there otherTouches => ?_⟩
    have found := later.rowAt?_of_mem inside
    have otherFound := later.rowAt?_of_mem there
    rw [ends_saveLink_of_touches alone there otherTouches] at otherFound
    rw [ends_saveLink_of_touches alone inside touches, otherFound] at found
    exact (congrArg Row.id (Option.some.inj found)).ge
  · -- The link is an old one that shows at another port, and what is added comes behind it.
    rcases mem_saveLink inside with ⟨old, stored, id, ends⟩ | rfl
    · obtain ⟨port, oldTouches, lowest⟩ := visible old stored
      rw [LinkCells.touches_iff, ends] at oldTouches
      refine ⟨port, LinkCells.touches_iff.2 oldTouches, fun other there otherTouches => ?_⟩
      rcases mem_saveLink there with ⟨before, known, sameId, sameEnds⟩ | rfl
      · rw [LinkCells.touches_iff, ← sameEnds, ← LinkCells.touches_iff] at otherTouches
        have least := lowest before known otherTouches
        omega
      · have given := sound.links.given old stored
        show row.id ≤ tables.links.lastId + 1
        omega
    · exact absurd (LinkCells.touches_iff.2 (Sym2.mem_mk_left _ _)) touches

/-- Plugging the cable of a stored port keeps links visible. -/
theorem Visible.plug (visible : tables.Visible) (sound : tables.Sound) {here : Row PortCells}
    (stored : tables.ports.has here.id) (sighting : Sighting) :
    (tables.plug here sighting).Visible := by
  unfold Tables.plug
  split
  · rename_i there found
    obtain ⟨peer, _, seen⟩ := Option.bind_eq_some_iff.1 (Option.filter_eq_some_iff.1 found).1
    have kept : (tables.deleteLinks (LinkCells.touchesBeside here.id there.id)).Visible :=
      visible.of_subset (List.filter_subset_self _)
    refine kept.saveLink (sound.deleteLinks _) stored (has_of_portRow? seen) ?_
    intro other inside touches
    obtain ⟨before, beside⟩ := List.mem_filter.1 inside
    rw [Bool.not_eq_true', Bool.eq_false_iff, ne_eq,
      LinkCells.touchesBeside_iff (sound.linkCells other before)] at beside
    by_contra apart
    exact beside ⟨LinkCells.touches_iff.1 touches, apart⟩
  · exact visible.of_subset (List.filter_subset_self _)

/-- A sighting keeps links visible. -/
theorem Visible.sight (visible : tables.Visible) (sound : tables.Sound) (sighting : Sighting) :
    (tables.sight sighting).Visible := by
  obtain ⟨here, _, found, sighted⟩ := sight_eq_plug tables sighting
  have saved := sound.savePort sighting.mac (deviceIsStored_sighted sighting)
  have same : (tables.savePort (tables.sighted sighting) sighting.mac).Visible := visible
  rw [sighted]
  exact same.plug saved (has_of_portRow? found) sighting

/-- Notices keep links visible. -/
theorem Visible.takeAll (visible : tables.Visible) (sound : tables.Sound)
    (notices : List Notice) : (tables.takeAll notices).Visible := by
  induction notices generalizing tables with
  | nil => exact visible
  | cons notice notices ih =>
    refine ih ?_ (sound.take notice)
    cases notice with
    | device device => exact visible
    | port sighting => exact visible.sight sound sighting

/-- A change keeps links visible. -/
theorem Visible.afterChange (sound : tables.Sound) (visible : tables.Visible) (change : Change) :
    (tables.afterChange change).Visible :=
  afterChange_cases change visible (fun observation => visible.takeAll sound observation.notices)
    (fun _ => visible.of_subset (List.filter_subset_self _))
    (fun _ => visible.of_subset (List.filter_subset_self _))
    (fun _ => visible.of_subset (List.filter_subset_self _)) fun _ => Visible.empty

end Tables

/-! ## What is printed -/

/-- A port as a report lists it. -/
structure PortEntry where
  /-- The number of the port. -/
  id : Int
  /-- The port. -/
  port : Port
  /-- The link that is shown at it. -/
  link? : Option Link

/-- The line of a port. -/
def PortEntry.line (entry : PortEntry) : String :=
  portLine entry.port ((entry.link?.map (linkText entry.id)).getD "")

/-- A device and its ports as a report lists them. -/
structure DeviceEntry where
  /-- The device. -/
  device : Device
  /-- Its ports, each with its link. -/
  ports : List PortEntry

/-- The lines of a device and its ports. -/
def DeviceEntry.lines (entry : DeviceEntry) : List String :=
  deviceLine entry.device :: entry.ports.map PortEntry.line

/-- The last line, which says how many rows of each kind there are. -/
def totalsLine (devices ports links : Nat) : String :=
  s!"{devices} devices, {ports} ports, {links} links"

/-- The entry lists the port of a row: as it is read, with the link that is found at it. -/
structure PortEntry.Lists (store : Store) (row : Row PortCells) (entry : PortEntry) : Prop where
  id : entry.id = row.id
  port : PortCells.read row = .ok entry.port
  link : store.linkAt? row.id = .ok entry.link?

/-- The entry lists the device of a row as it is read, and its ports each once. -/
structure DeviceEntry.Lists (store : Store) (row : Row DeviceCells) (entry : DeviceEntry) :
    Prop where
  device : DeviceCells.read row = .ok entry.device
  ports : List.Forall₂ (PortEntry.Lists store) (store.portRows.filter (isPortOf row.id)) entry.ports

/-- Entries list all that is stored. -/
structure Listing (store : Store) (entries : List DeviceEntry) : Prop where
  /-- Every device is listed once, and under it its ports. -/
  devices : List.Forall₂ (DeviceEntry.Lists store) store.deviceRows entries
  /-- Every port is listed once. -/
  ports : (entries.flatMap fun entry => entry.ports.map (·.id)).Perm (store.portRows.map (·.id))
  /-- Every link is shown at one of its ends. -/
  links : ∀ link ∈ store.linkRows, ∃ entry ∈ entries, ∃ listed ∈ entry.ports,
    LinkCells.touches listed.id link ∧ ∃ shown, LinkCells.read link = .ok shown ∧
      listed.link? = some shown

/-- A transaction comes to a value, prints lines and changes nothing. -/
structure Prints {α : Type} (transaction : StoreM α) (store : Store) (value : α)
    (lines : List String) : Prop where
  result : result transaction store = (.ok value, store)
  printed : (transaction store).printed = lines

section Prints

variable {α β ε : Type} {store : Store}

/-- One transaction after the other prints the lines of both. -/
theorem Prints.bind {first : StoreM α} {next : α → StoreM β} {value : α} {last : β}
    {lines more : List String} (head : Prints first store value lines)
    (tail : Prints (next value) store last more) :
    Prints (first >>= next) store last (lines ++ more) where
  result := (result_bind_ok head.result).trans tail.result
  printed := by
    rw [Traced.printed, Traced.events_bind_ok head.result, List.filterMap_append]
    exact congrArg₂ _ head.printed tail.printed

/-- A question prints nothing. -/
theorem prints_ask {question : Store → Except Failure α} {answer : α}
    (asked : question store = .ok answer) : Prints (ask question) store answer [] :=
  ⟨result_ask_ok asked, rfl⟩

/-- To print a line prints that line. -/
theorem prints_print (line : String) (store : Store) : Prints (print line) store () [line] :=
  ⟨rfl, rfl⟩

/-- Transactions for some entries print the lines of each. -/
theorem prints_forM {entries : List ε} {item : ε → α} {visit : α → StoreM Unit}
    {lines : ε → List String}
    (each : ∀ entry ∈ entries, Prints (visit (item entry)) store () (lines entry)) :
    Prints ((entries.map item).forM visit) store () (entries.flatMap lines) := by
  induction entries with
  | nil => exact ⟨rfl, rfl⟩
  | cons entry entries ih =>
    exact (each entry List.mem_cons_self).bind
      (ih fun other inside => each other (List.mem_cons_of_mem _ inside))

end Prints

namespace Tables

variable {tables : Tables}

/-- A listed port is printed as it is listed. -/
theorem Sound.prints_reportPort (sound : tables.Sound) {row : Row PortCells}
    (inside : row ∈ tables.ports.rows) {entry : PortEntry}
    (lists : entry.Lists tables.store row) :
    Prints (reportPort entry.port) tables.store () [entry.line] := by
  obtain ⟨port, read, id⟩ := sound.read_port inside
  obtain rfl : port = entry.port := Except.ok.inj (read.symm.trans lists.port)
  have link := lists.link
  rw [← lists.id] at id link
  unfold reportPort
  rw [id]
  exact (prints_ask link).bind (prints_print _ _)

/-- A listed device is printed as it is listed. -/
theorem Sound.prints_reportDevice (sound : tables.Sound) {row : Row DeviceCells}
    (inside : row ∈ tables.devices.rows) {entry : DeviceEntry}
    (lists : entry.Lists tables.store row) :
    Prints (reportDevice entry.device) tables.store () entry.lines := by
  obtain ⟨device, read, id⟩ := sound.read_device inside
  obtain rfl : device = entry.device := Except.ok.inj (read.symm.trans lists.device)
  have ports : tables.store.portsOf row.id = .ok (entry.ports.map (·.port)) :=
    readRows_of_forall₂ (List.forall₂_map_right_iff.2 (lists.ports.imp fun _ _ own => own.port))
  have each : ∀ listed ∈ entry.ports,
      Prints (reportPort listed.port) tables.store () [listed.line] := by
    intro listed among
    obtain ⟨port, owned, own⟩ := exists_of_mem_forall₂ lists.ports.flip among
    exact sound.prints_reportPort (List.mem_filter.1 owned).1 own
  have printed := prints_forM each
  rw [← List.map_eq_flatMap] at printed
  unfold reportDevice DeviceEntry.lines
  rw [id]
  exact (prints_print _ _).bind ((prints_ask ports).bind printed)

/-- A report prints its entries and how many rows of each kind there are. -/
theorem Sound.prints_report (sound : tables.Sound) {entries : List DeviceEntry}
    (lists : Listing tables.store entries) :
    Prints report tables.store () (entries.flatMap DeviceEntry.lines ++
      [totalsLine tables.devices.rows.length tables.ports.rows.length
        tables.links.rows.length]) := by
  have devices : tables.store.devices = .ok (entries.map (·.device)) :=
    readRows_of_forall₂ (List.forall₂_map_right_iff.2 (lists.devices.imp fun _ _ own => own.device))
  obtain ⟨ports, portsRead, portIds⟩ := sound.readable.ports
  obtain ⟨links, linksRead, linkIds⟩ := sound.readable.links
  have each : ∀ entry ∈ entries,
      Prints (reportDevice entry.device) tables.store () entry.lines := by
    intro entry among
    obtain ⟨row, inside, own⟩ := exists_of_mem_forall₂ lists.devices.flip among
    exact sound.prints_reportDevice inside own
  have made : Prints createTables tables.store () [] := ⟨rfl, rfl⟩
  have deviceCount : (entries.map (·.device)).length = tables.devices.rows.length := by
    rw [List.length_map, ← lists.devices.length_eq]
    rfl
  have portCount : ports.length = tables.ports.rows.length := by
    have same := congrArg List.length portIds
    rwa [List.length_map, List.length_map] at same
  have linkCount : links.length = tables.links.rows.length := by
    have same := congrArg List.length linkIds
    rwa [List.length_map, List.length_map] at same
  rw [← deviceCount, ← portCount, ← linkCount]
  exact made.bind ((prints_ask devices).bind ((prints_forM each).bind
    ((prints_ask portsRead).bind ((prints_ask linksRead).bind (prints_print _ _)))))

/-! ## Entries for all that is stored -/

/-- Every stored port has an entry. -/
theorem Sound.exists_portEntry (sound : tables.Sound) {row : Row PortCells}
    (inside : row ∈ tables.ports.rows) : ∃ entry, PortEntry.Lists tables.store row entry := by
  obtain ⟨port, read, _⟩ := sound.read_port inside
  have answered := sound.readable.linkAt row.id
  cases link : tables.store.linkAt? row.id with
  | ok link? => exact ⟨⟨row.id, port, link?⟩, rfl, read, link⟩
  | error failure =>
    rw [link] at answered
    cases answered

/-- Every stored device has an entry. -/
theorem Sound.exists_deviceEntry (sound : tables.Sound) {row : Row DeviceCells}
    (inside : row ∈ tables.devices.rows) : ∃ entry, DeviceEntry.Lists tables.store row entry := by
  obtain ⟨device, read, _⟩ := sound.read_device inside
  obtain ⟨ports, listed⟩ := exists_forall₂ fun (port : Row PortCells)
      (owned : port ∈ tables.ports.rows.filter (isPortOf row.id)) =>
    sound.exists_portEntry (List.mem_filter.1 owned).1
  exact ⟨⟨device, ports⟩, read, listed⟩

/-- Members that each belong to one of some owners are, owner by owner, the members. -/
theorem flatMap_filter_perm {α β : Type} {owners : List α} {members : List β}
    {owns : α → β → Bool} (apart : members.Nodup)
    (owned : ∀ member ∈ members, ∃ owner ∈ owners, owns owner member)
    (once : owners.Pairwise fun left right => ∀ member, owns left member → ¬ owns right member) :
    (owners.flatMap fun owner => members.filter (owns owner)).Perm members := by
  refine (List.perm_ext_iff_of_nodup ?_ apart).2 fun member => ?_
  · refine List.nodup_flatMap.2 ⟨fun owner _ => apart.filter _, once.imp ?_⟩
    intro left right never member atLeft atRight
    exact never member (List.mem_filter.1 atLeft).2 (List.mem_filter.1 atRight).2
  · rw [List.mem_flatMap]
    constructor
    · rintro ⟨owner, _, among⟩
      exact (List.mem_filter.1 among).1
    · intro inside
      obtain ⟨owner, there, owns⟩ := owned member inside
      exact ⟨owner, there, List.mem_filter.2 ⟨inside, owns⟩⟩

/-- The entries of ports have their numbers. -/
theorem ids_of_lists {store : Store} {rows : List (Row PortCells)} {entries : List PortEntry}
    (lists : List.Forall₂ (PortEntry.Lists store) rows entries) :
    entries.map (·.id) = rows.map (·.id) := by
  rw [← List.forall₂_eq_eq_eq, List.forall₂_map_left_iff, List.forall₂_map_right_iff]
  exact lists.flip.imp fun _ _ own => own.id

/-- The entries of devices list the numbers of their ports. -/
theorem portIds_of_lists {store : Store} {rows : List (Row DeviceCells)}
    {entries : List DeviceEntry} (lists : List.Forall₂ (DeviceEntry.Lists store) rows entries) :
    (entries.flatMap fun entry => entry.ports.map (·.id)) =
      (rows.flatMap fun row => store.portRows.filter (isPortOf row.id)).map (·.id) := by
  induction lists with
  | nil => rfl
  | cons head _ ih =>
    rw [List.flatMap_cons, List.flatMap_cons, List.map_append, ih, ids_of_lists head.ports]

/-- Every port of sound tables in which each belongs to a device is that of one device. -/
theorem Sound.ports_perm (sound : tables.Sound) (housed : tables.Housed) :
    (tables.devices.rows.flatMap fun row => tables.ports.rows.filter (isPortOf row.id)).Perm
      tables.ports.rows := by
  apply flatMap_filter_perm
  · exact sound.ports.nodup_ids.of_map _
  · intro port inside
    obtain ⟨id, belongs⟩ := Option.isSome_iff_exists.1 (housed port inside)
    obtain ⟨device, stored, rfl⟩ := Table.has_iff.1 (sound.owned port inside id belongs)
    exact ⟨device, stored, decide_eq_true belongs⟩
  · refine sound.devices.rising.imp fun {left right} rising port atLeft atRight => ?_
    have leftOwner : port.cells.device = some left.id := of_decide_eq_true atLeft
    have rightOwner : port.cells.device = some right.id := of_decide_eq_true atRight
    rw [leftOwner, Option.some.injEq] at rightOwner
    omega

/-- Tables that are sound and current, and whose links all show, have a listing. -/
theorem Sound.exists_listing (sound : tables.Sound) (housed : tables.Housed)
    (visible : tables.Visible) : ∃ entries, Listing tables.store entries := by
  obtain ⟨entries, lists⟩ := exists_forall₂ fun (row : Row DeviceCells)
    (inside : row ∈ tables.devices.rows) => sound.exists_deviceEntry inside
  refine ⟨entries, lists, ?_, fun link inside => ?_⟩
  · rw [portIds_of_lists lists]
    exact (sound.ports_perm housed).map _
  · obtain ⟨id, touches, lowest⟩ := visible link inside
    obtain ⟨port, stored, rfl⟩ := Table.has_iff.1
      (sound.plugged link inside id (LinkCells.touches_iff.1 touches))
    obtain ⟨owner, belongs⟩ := Option.isSome_iff_exists.1 (housed port stored)
    obtain ⟨device, deviceStored, rfl⟩ := Table.has_iff.1 (sound.owned port stored owner belongs)
    obtain ⟨entry, listed, own⟩ := exists_of_mem_forall₂ lists deviceStored
    obtain ⟨shown, among, ownPort⟩ := exists_of_mem_forall₂ own.ports
      (List.mem_filter.2 ⟨stored, decide_eq_true belongs⟩)
    obtain ⟨found, read, _, first⟩ := sound.linkAt?_of_lowest inside touches lowest
    refine ⟨entry, listed, shown, among, ?_, found, read, ?_⟩
    · rwa [ownPort.id]
    · exact Except.ok.inj (ownPort.link.symm.trans first)

end Tables

/-- Whatever the program did, a report lists every device, under it every one of its ports, and
every link at one of its ends. -/
theorem report_lists_everything (place : String) (opening : Log.Logger) (changes : List Change) :
    let store := afterAll (changes.map Change.transaction)
      (after (openAt place opening) ⟨none, none, none⟩)
    ∃ entries, Listing store entries ∧
      Prints report store () (entries.flatMap DeviceEntry.lines ++
        [totalsLine store.deviceRows.length store.portRows.length store.linkRows.length]) := by
  obtain ⟨later, sound, ⟨current, visible⟩, reached⟩ :=
    Tables.Sound.empty.after_changes_keeping
      (P := fun tables : Tables => tables.Current ∧ tables.Visible)
      ⟨Tables.Current.empty, Tables.Visible.empty⟩
      (fun sound kept change => ⟨kept.1.afterChange sound change,
        kept.2.afterChange sound change⟩) changes
  rw [after_openAt, reached]
  obtain ⟨entries, lists⟩ := sound.exists_listing current.housed visible
  exact ⟨entries, lists, sound.prints_report lists⟩

end CableMap.Store
