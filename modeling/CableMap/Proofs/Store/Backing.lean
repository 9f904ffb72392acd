import CableMap.Proofs.Store.Cabling

/-!
# Which report a link goes back to

A port that is reported loses every link but the one to the neighbour that it names. A neighbour
that names it later adds a link, though, and the links of a port that is only named stay until the
ports at their other ends are reported again. So a port may have several links at once. Each goes
back to the last report of either of its ends, which named the other end, and at most one of them to
the port's own last report.
-/
namespace CableMap.Store

/-! ## Last reports -/

/-- What a change gives notice of. -/
def Change.notices : Change → List Notice
  | .record observation _ => observation.notices
  | _ => []

/-- The last sighting of either of two ports is of the first, and names the second. -/
def LeadsTo (notices : List Notice) (x y : Mac) : Prop :=
  ∃ before sighting later, notices = before ++ .port sighting :: later ∧ sighting.mac = x ∧
    sighting.peer? = some y ∧ Quiet later x ∧ Quiet later y

/-- The last sighting of either of two different ports names the other. -/
def Joined (notices : List Notice) (x y : Mac) : Prop :=
  x ≠ y ∧ (LeadsTo notices x y ∨ LeadsTo notices y x)

variable {notices later : List Notice} {x y z : Mac}

/-- Which of two joined ports is named first is no matter. -/
theorem Joined.symm (joined : Joined notices x y) : Joined notices y x :=
  ⟨joined.1.symm, joined.2.symm⟩

/-- Notices that are quiet about a port one by one are so together. -/
theorem Quiet.append {left right : List Notice} (first : Quiet left x) (second : Quiet right x) :
    Quiet (left ++ right) x := fun sighting inside =>
  (List.mem_append.1 inside).elim (first sighting) (second sighting)

/-- Notices without a sighting of either port change nothing. -/
theorem LeadsTo.append (leads : LeadsTo notices x y) (xQuiet : Quiet later x)
    (yQuiet : Quiet later y) : LeadsTo (notices ++ later) x y := by
  obtain ⟨before, sighting, rest, rfl, own, names, xRest, yRest⟩ := leads
  exact ⟨before, sighting, rest ++ later, by simp, own, names, xRest.append xQuiet,
    yRest.append yQuiet⟩

/-- Two ports stay joined through later notices that are quiet about both. -/
theorem Joined.append (joined : Joined notices x y) (xQuiet : Quiet later x)
    (yQuiet : Quiet later y) : Joined (notices ++ later) x y :=
  ⟨joined.1, joined.2.imp (·.append xQuiet yQuiet) (·.append yQuiet xQuiet)⟩

/-- A port has one last sighting. -/
theorem last_sighting_unique {before before' later later' : List Notice}
    {sighting sighting' : Sighting}
    (same : before ++ .port sighting :: later = before' ++ .port sighting' :: later')
    (own : sighting.mac = x) (own' : sighting'.mac = x) (quiet : Quiet later x)
    (quiet' : Quiet later' x) : sighting = sighting' := by
  rcases List.append_eq_append_iff.1 same with ⟨more, _, rest⟩ | ⟨more, _, rest⟩
  · cases more with
    | nil => exact Notice.port.inj (List.cons.inj rest).1
    | cons notice more =>
      have inside : .port sighting' ∈ later := (List.cons.inj rest).2 ▸ by simp
      exact absurd own'.symm (quiet sighting' inside)
  · cases more with
    | nil => exact (Notice.port.inj (List.cons.inj rest).1).symm
    | cons notice more =>
      have inside : .port sighting ∈ later' := (List.cons.inj rest).2 ▸ by simp
      exact absurd own.symm (quiet' sighting inside)

/-- The last sighting of a port names one other. -/
theorem LeadsTo.unique (left : LeadsTo notices x y) (right : LeadsTo notices x z) : y = z := by
  obtain ⟨before, sighting, later, shape, own, names, quiet, -⟩ := left
  obtain ⟨before', sighting', later', shape', own', names', quiet', -⟩ := right
  obtain rfl := last_sighting_unique (shape.symm.trans shape') own own' quiet quiet'
  exact Option.some.inj (names.symm.trans names')

/-! ## Links that go back to last reports -/

namespace Tables

variable {tables : Tables} {past : List Notice}

/-- No link joins a port to itself, and every cable goes back to a last sighting. -/
structure Backed (past : List Notice) (tables : Tables) : Prop where
  straight : tables.Straight
  joined : ∀ x y, (tables.cable? x y).isSome → Joined past x y

/-- Tables without rows have no cable to account for. -/
theorem Backed.empty (past : List Notice) : (⟨.empty, .empty, .empty⟩ : Tables).Backed past where
  straight := .empty
  joined _ _ stored := absurd stored Bool.false_ne_true

/-- A sighting backs the cables of its port and leaves the others. -/
theorem Backed.sight (backed : tables.Backed past) (sound : tables.Sound) (sighting : Sighting) :
    (tables.sight sighting).Backed (past ++ [.port sighting]) where
  straight := backed.straight.take (.port sighting)
  joined x y stored := by
    have own {y : Mac} (stored : ((tables.sight sighting).cable? sighting.mac y).isSome) :
        Joined (past ++ [.port sighting]) sighting.mac y := by
      by_cases self : y = sighting.mac
      · rw [self, (sound.sight sighting).cable?_self (backed.straight.take (.port sighting))]
          at stored
        exact absurd stored Bool.false_ne_true
      · rw [sound.cable?_sight self] at stored
        split at stored
        · rename_i names
          have nothing (z : Mac) : Quiet [] z := fun _ inside => absurd inside List.not_mem_nil
          exact ⟨Ne.symm self, .inl ⟨past, sighting, [], rfl, rfl, names, nothing _, nothing _⟩⟩
        · exact absurd stored Bool.false_ne_true
    by_cases xOwn : x = sighting.mac
    · subst xOwn
      exact own stored
    · by_cases yOwn : y = sighting.mac
      · subst yOwn
        rw [cable?_comm] at stored
        exact (own stored).symm
      · have quiet {z : Mac} (apart : z ≠ sighting.mac) : Quiet [.port sighting] z := by
          intro other inside
          rwa [Notice.port.inj (List.mem_singleton.1 inside)]
        rw [cable?, sound.linkBetween?_sight_of_ne xOwn yOwn] at stored
        exact (backed.joined x y stored).append (quiet xOwn) (quiet yOwn)

/-- Notices keep links backed. -/
theorem Backed.takeAll (backed : tables.Backed past) (sound : tables.Sound)
    (notices : List Notice) : (tables.takeAll notices).Backed (past ++ notices) := by
  induction notices generalizing past tables with
  | nil => rwa [List.append_nil]
  | cons notice notices ih =>
    rw [List.append_cons]
    refine ih ?_ (sound.take notice)
    cases notice with
    | device device =>
      have quiet (z : Mac) : Quiet [.device device] z := fun _ inside => by simp at inside
      exact {
        straight := backed.straight
        joined x y stored := (backed.joined x y stored).append (quiet x) (quiet y) }
    | port sighting => exact backed.sight sound sighting

/-- Tables are still backed when links and ports were taken away. -/
theorem Backed.of_subset {later : Tables} (backed : tables.Backed past) (sound : tables.Sound)
    (laterSound : later.Sound) (ports : later.ports.rows ⊆ tables.ports.rows)
    (links : later.links.rows ⊆ tables.links.rows) : later.Backed past where
  straight link inside := backed.straight link (links inside)
  joined x y stored := by
    obtain ⟨link, inside, a, aInside, b, bInside, joins⟩ := laterSound.linked_store.2 stored
    exact backed.joined x y (sound.linked_store.1
      ⟨link, links inside, a, ports aInside, b, ports bInside, joins⟩)

/-- A change that gives no notice only takes ports and links away. -/
theorem rows_afterChange (tables : Tables) (change : Change) :
    (∃ observation log, change = .record observation log) ∨ change.notices = [] ∧
      (tables.afterChange change).ports.rows ⊆ tables.ports.rows ∧
        (tables.afterChange change).links.rows ⊆ tables.links.rows := by
  cases change with
  | record observation log => exact .inl ⟨observation, log, rfl⟩
  | removeDevice address log =>
    refine .inr ⟨rfl, ?_⟩
    apply afterChange_removeDevice
      (P := fun later => later.ports.rows ⊆ tables.ports.rows ∧
        later.links.rows ⊆ tables.links.rows)
    · exact fun _ => ⟨List.Subset.refl _, List.Subset.refl _⟩
    · exact fun _ _ => ⟨List.filter_subset_self _, List.filter_subset_self _⟩
  | removePort mac log =>
    refine .inr ⟨rfl, ?_⟩
    apply afterChange_removePort
      (P := fun later => later.ports.rows ⊆ tables.ports.rows ∧
        later.links.rows ⊆ tables.links.rows)
    · exact fun _ => ⟨List.Subset.refl _, List.Subset.refl _⟩
    · exact fun _ _ => ⟨List.filter_subset_self _, List.filter_subset_self _⟩
  | unlink a b => exact .inr ⟨rfl, List.Subset.refl _, List.filter_subset_self _⟩
  | reset log => exact .inr ⟨rfl, List.nil_subset _, List.nil_subset _⟩

/-- A change keeps links backed. -/
theorem Backed.afterChange (backed : tables.Backed past) (sound : tables.Sound)
    (change : Change) : (tables.afterChange change).Backed (past ++ change.notices) := by
  rcases rows_afterChange tables change with ⟨observation, log, rfl⟩ | ⟨silent, ports, links⟩
  · exact backed.takeAll sound observation.notices
  · rw [silent, List.append_nil]
    exact backed.of_subset sound (sound.afterChange change) ports links

end Tables

/-! ## The links at a port -/

namespace Tables

variable {tables : Tables} {past : List Notice}

/-- A link at a port joins it with another one. -/
theorem Sound.exists_linkBetween?_of_touches (sound : tables.Sound) {port : Row PortCells}
    (inside : port ∈ tables.ports.rows) {x : Mac} (mac : port.cells.mac = some (toString x))
    {link : Row LinkCells} (stored : link ∈ tables.links.rows)
    (touches : LinkCells.touches port.id link) : ∃ y, tables.linkBetween? x y = some link := by
  have own : tables.portRow? x = some port := sound.ports.rowAt?_eq_some_iff.2 ⟨inside, mac⟩
  obtain ⟨u, v, a, b, aFound, bFound, ends, joins⟩ := sound.exists_linkBetween? stored
  have isPort {row : Row PortCells} {w : Mac} (found : tables.portRow? w = some row)
      (same : some port.id = some row.id) : port = row :=
    sound.ports.eq_of_id inside (List.mem_of_find?_eq_some found) (Option.some.inj same)
  rw [linkBetween?, aFound, bFound] at joins
  rw [LinkCells.touches_iff, ends, Sym2.mem_iff] at touches
  rcases touches with same | same
  · obtain rfl := isPort aFound same
    exact ⟨v, by rw [linkBetween?, own, bFound]; exact joins⟩
  · obtain rfl := isPort bFound same
    exact ⟨u, by rw [linkBetween?_comm, linkBetween?, aFound, own]; exact joins⟩

/-- The link with the lowest number of those at a port is the one that is found at it. -/
theorem Sound.linkAt?_of_lowest (sound : tables.Sound) {port : Int} {link : Row LinkCells}
    (stored : link ∈ tables.links.rows) (touches : LinkCells.touches port link)
    (lowest : ∀ other ∈ tables.links.rows, LinkCells.touches port other → link.id ≤ other.id) :
    ∃ found, LinkCells.read link = .ok found ∧ found.id? = some link.id ∧
      tables.store.linkAt? port = .ok (some found) := by
  obtain ⟨before, after, split⟩ := List.append_of_mem stored
  have rising := sound.links.rising
  rw [split, List.pairwise_append] at rising
  have first : tables.links.find? (LinkCells.touches port) = some link := by
    refine List.find?_eq_some_iff_append.2 ⟨touches, before, after, split, fun other inside => ?_⟩
    rw [Bool.not_eq_true', Bool.eq_false_iff]
    intro otherTouches
    have below := rising.2.2 other inside link List.mem_cons_self
    have above := lowest other (by rw [split]; exact List.mem_append_left _ inside) otherTouches
    omega
  obtain ⟨found, read, id⟩ := sound.read_link stored
  refine ⟨found, read, id, ?_⟩
  show readRow LinkCells.read (tables.links.find? (LinkCells.touches port)) = _
  rw [first, readRow, read]
  rfl

/-- A link at a port joins it with a stored one where last reports do. -/
theorem Backed.joined_of_touches (backed : tables.Backed past) (sound : tables.Sound)
    {port : Row PortCells} (inside : port ∈ tables.ports.rows) {x : Mac}
    (mac : port.cells.mac = some (toString x)) {link : Row LinkCells}
    (stored : link ∈ tables.links.rows) (touches : LinkCells.touches port.id link) :
    ∃ y, tables.linkBetween? x y = some link ∧ tables.store.Stores y ∧ Joined past x y := by
  obtain ⟨y, found⟩ := sound.exists_linkBetween?_of_touches inside mac stored touches
  obtain ⟨-, _, b, -, bFound, -⟩ := sound.ends_of_linkBetween? found
  refine ⟨y, found, sound.stores_store.2 ?_, backed.joined x y ?_⟩
  · rw [bFound]
    rfl
  · rw [cable?, found]
    rfl

end Tables

/-- What the links of a store go back to. -/
structure Grounded (past : List Notice) (store : Store) : Prop where
  /-- A link joins two different ports, and the one that was reported last names the other. -/
  named : ∀ link ∈ store.linkRows, ∃ x y, x ≠ y ∧ store.HasLink link x y ∧ LeadsTo past x y
  /-- Of the links of a port at most one goes back to its own last report. -/
  own : ∀ x y z left right, store.HasLink left x y → store.HasLink right x z →
    LeadsTo past x y → LeadsTo past x z → left = right
  /-- A port that last reports join with at most one stored port has at most one link, and that is
  the one that is found at it. -/
  only : ∀ port ∈ store.portRows, ∀ x, port.cells.mac = some (toString x) →
    (∀ y z, store.Stores y → store.Stores z → Joined past x y → Joined past x z → y = z) →
    ∀ link ∈ store.linkRows, LinkCells.touches port.id link →
      (∀ other ∈ store.linkRows, LinkCells.touches port.id other → other = link) ∧
        ∃ found, store.linkAt? port.id = .ok (some found) ∧ found.id? = some link.id

/-- The links of sound and backed tables are grounded. -/
theorem Tables.Backed.grounded {tables : Tables} {past : List Notice}
    (backed : tables.Backed past) (sound : tables.Sound) : Grounded past tables.store where
  named link inside := by
    obtain ⟨x, y, _, _, _, _, _, found⟩ := sound.exists_linkBetween? inside
    have linked : (tables.cable? x y).isSome := by
      rw [cable?, found]
      rfl
    obtain ⟨apart, leads | leads⟩ := backed.joined x y linked
    · exact ⟨x, y, apart, sound.hasLink_store.2 found, leads⟩
    · rw [linkBetween?_comm] at found
      exact ⟨y, x, apart.symm, sound.hasLink_store.2 found, leads⟩
  own x y z left right atLeft atRight leads leads' := by
    rw [sound.hasLink_store] at atLeft atRight
    rw [leads.unique leads', atRight] at atLeft
    exact (Option.some.inj atLeft).symm
  only port inside x mac alone link stored touches := by
    obtain ⟨y, atY, yStored, yJoined⟩ := backed.joined_of_touches sound inside mac stored touches
    have unique : ∀ other ∈ tables.links.rows, LinkCells.touches port.id other →
        other = link := by
      intro other otherStored otherTouches
      obtain ⟨z, atZ, zStored, zJoined⟩ :=
        backed.joined_of_touches sound inside mac otherStored otherTouches
      rw [alone z y zStored yStored zJoined yJoined, atY] at atZ
      exact (Option.some.inj atZ).symm
    obtain ⟨found, _, id, first⟩ := sound.linkAt?_of_lowest stored touches fun other inside there =>
      (congrArg Row.id (unique other inside there)).ge
    exact ⟨unique, found, first, id⟩

/-- Whatever the program did, the links of the store go back to last reports. -/
theorem grounded_after_changes (place : String) (opening : Log.Logger) (changes : List Change) :
    Grounded (changes.flatMap Change.notices) (afterAll (changes.map Change.transaction)
      (after (openAt place opening) ⟨none, none, none⟩)) := by
  have step {past : List Change} {tables : Tables} (sound : tables.Sound)
      (backed : tables.Backed (past.flatMap Change.notices)) (change : Change) :
      (tables.afterChange change).Backed ((past ++ [change]).flatMap Change.notices) := by
    rw [List.flatMap_append, List.flatMap_singleton]
    exact backed.afterChange sound change
  obtain ⟨later, sound, backed, reached⟩ := Tables.Sound.empty.after_changes_telling
    (P := fun past tables => tables.Backed (past.flatMap Change.notices)) [] (.empty _) step changes
  rw [after_openAt, reached]
  exact backed.grounded sound

/-- A host with one port and at most one neighbour. -/
def hostNaming (address : Ipv4) (mac : Mac) (peer? : Option Mac) : Observation :=
  ⟨.ofAddress address, [{ Port.ofInterface 1 with mac? := some mac }], peer?.toList.map (⟨·, 1⟩)⟩

/-- A host that names no neighbour, and two that name its port. -/
def contested : List Change :=
  [.record (hostNaming ⟨10, 0, 0, 1⟩ ⟨2, 0, 0, 0, 0, 1⟩ none) .root,
    .record (hostNaming ⟨10, 0, 0, 2⟩ ⟨2, 0, 0, 0, 0, 2⟩ (some ⟨2, 0, 0, 0, 0, 1⟩)) .root,
    .record (hostNaming ⟨10, 0, 0, 3⟩ ⟨2, 0, 0, 0, 0, 3⟩ (some ⟨2, 0, 0, 0, 0, 1⟩)) .root]

/-- The port that two others name has two links, of which one is found at it. -/
theorem contested_port_has_two_links :
    let store := afterAll (contested.map Change.transaction)
      (after (openAt "cables" .root) ⟨none, none, none⟩)
    (store.linkRows.filter (LinkCells.touches 1)).map (·.id) = [1, 2] ∧
      (store.linkAt? 1).toOption = some (some ⟨some 1, 2, 1, 0, 0, 0⟩) := by
  decide +kernel

end CableMap.Store
