import CableMap.Proofs.Store.Record

/-!
# Who has the last word on a cable

Ports are found by their MAC addresses and links by the two ports that they join, so the cable
between two MAC addresses is a look-up of its own. A sighting decides every cable of its own port:
there is one to the neighbour that it names, if that is stored, and none to any other port. It
leaves the cables between other ports as they are. After some notices a cable is therefore what
the last sighting at one of its ends made of it.
-/
namespace CableMap.Store

/-- What a link row says of the cable: its kind, its speed and its length. -/
def LinkCells.cable (cells : LinkCells) : Option Int × Option Int × Option Int :=
  (cells.kind, cells.speed, cells.length)

/-- What is written of a cable of which only the speed is known. -/
def plainCable (speed : UInt32) : Option Int × Option Int × Option Int :=
  (some 0, some speed.toNat, some 0)

/-- The lower of two speeds is the same in either order. -/
theorem min_speed_comm (s t : UInt32) : min s t = min t s := by
  rw [← UInt32.toNat_inj, UInt32.toNat_min, UInt32.toNat_min, Nat.min_comm]

/-- A link that was written has an end at a port and not the other at its peer exactly if the port
is an end of it and the two are not its ends. -/
theorem LinkCells.touchesBeside_iff {port peer : Int} {row : Row LinkCells}
    (written : ∃ link, row.cells = .ofLink link) :
    LinkCells.touchesBeside port peer row ↔
      some port ∈ row.cells.ends ∧ row.cells.ends ≠ s(some port, some peer) := by
  obtain ⟨link, cells⟩ := written
  simp only [touchesBeside, isOther, ends, cells, ofLink, Option.any_some, Option.some.injEq,
    Bool.or_eq_true, Bool.and_eq_true, decide_eq_true_eq, Sym2.mem_iff, ne_eq, Sym2.eq_iff]
  omega

namespace Tables

variable {tables : Tables}

/-! ## Plugging one cable -/

/-- A link found between two ports has them as its ends. -/
theorem ends_of_linkRow? {a b : Int} {row : Row LinkCells}
    (found : tables.linkRow? a b = some row) : row.cells.ends = s(some a, some b) := by
  simpa using List.find?_some found

/-- The row of a link is found from either end. -/
theorem linkRow?_comm (a b : Int) : tables.linkRow? a b = tables.linkRow? b a := by
  rw [linkRow?, linkRow?, Sym2.eq_swap]

/-- A link is still found after some others were removed. -/
theorem Sound.linkRow?_deleteLinks_of_kept (sound : tables.Sound) {chosen : Row LinkCells → Bool}
    {a b : Int} (kept : ∀ row, tables.linkRow? a b = some row → chosen row = false) :
    (tables.deleteLinks chosen).linkRow? a b = tables.linkRow? a b := by
  have look := sound.links.rowAt?_delete chosen s(some a, some b)
  refine look.trans ?_
  cases found : tables.links.rowAt? LinkCells.ends s(some a, some b) with
  | none => exact found.symm
  | some row =>
    have stays : chosen row = false := kept row found
    rw [linkRow?, found, Option.filter_some, stays]
    rfl

/-- A link is not found after it was removed. -/
theorem Sound.linkRow?_deleteLinks_of_gone (sound : tables.Sound) {chosen : Row LinkCells → Bool}
    {a b : Int} (gone : ∀ row, tables.linkRow? a b = some row → chosen row = true) :
    (tables.deleteLinks chosen).linkRow? a b = none := by
  have look := sound.links.rowAt?_delete chosen s(some a, some b)
  refine look.trans ?_
  cases found : tables.links.rowAt? LinkCells.ends s(some a, some b) with
  | none => rfl
  | some row =>
    have goes : chosen row = true := gone row found
    rw [Option.filter_some, goes]
    rfl

/-- A link that is stored is found with what was written of its cable. -/
theorem cable_saveLink (a b : Int) (speed : UInt32) :
    ((tables.saveLink (.between a b speed)).linkRow? a b).map (·.cells.cable) =
      some (plainCable speed) := by
  have found : (tables.saveLink (.between a b speed)).linkRow? a b =
      some (tables.links.savedRow LinkCells.ends s(some a, some b)
        (fun old => { old with kind := some 0, speed := some speed.toNat, length := some 0 })
        (.ofLink (.between a b speed))) :=
    Table.rowAt?_save_self (fun _ own => own) rfl
  rw [found, Option.map_some, Table.savedRow]
  split <;> rfl

/-- A link that is stored leaves the links between other ports. -/
theorem linkRow?_saveLink_of_ne {link : Link} {a b : Int}
    (apart : s(some a, some b) ≠ s(some link.a, some link.b)) :
    (tables.saveLink link).linkRow? a b = tables.linkRow? a b :=
  Table.rowAt?_save_of_ne (fun _ own => own) rfl apart

/-- The cable of one port leaves the links between other ports. -/
theorem Sound.linkRow?_plug_of_ne (sound : tables.Sound) {here : Row PortCells}
    (sighting : Sighting) {a b : Int} (aApart : a ≠ here.id) (bApart : b ≠ here.id) :
    (tables.plug here sighting).linkRow? a b = tables.linkRow? a b := by
  have untouched : ∀ row, tables.linkRow? a b = some row → some here.id ∉ row.cells.ends := by
    intro row found
    rw [ends_of_linkRow? found, Sym2.mem_iff, Option.some.injEq, Option.some.injEq]
    omega
  unfold Tables.plug
  split
  · rename_i there found
    have apart : there.id ≠ here.id := by simpa using (Option.filter_eq_some_iff.1 found).2
    rw [linkRow?_saveLink_of_ne]
    · refine sound.linkRow?_deleteLinks_of_kept fun row stored => ?_
      rw [Bool.eq_false_iff, ne_eq, LinkCells.touchesBeside_iff
        (sound.linkCells row (List.mem_of_find?_eq_some stored))]
      exact fun touched => untouched row stored touched.1
    · simp only [ne_eq, Sym2.eq_iff, Option.some.injEq, Link.between]
      omega
  · refine sound.linkRow?_deleteLinks_of_kept fun row stored => ?_
    rw [Bool.eq_false_iff, ne_eq, LinkCells.touches_iff]
    exact untouched row stored

/-- The cable of a port leads to the stored neighbour that was sighted and nowhere else. -/
theorem Sound.cable_plug (sound : tables.Sound) (here : Row PortCells) (sighting : Sighting)
    (b : Int) :
    ((tables.plug here sighting).linkRow? here.id b).map (·.cells.cable) =
      (((sighting.peer?.bind tables.portRow?).filter (·.id ≠ here.id)).filter (·.id = b)).map
        fun there => plainCable (min sighting.port.maxSpeed there.cells.speed) := by
  unfold Tables.plug
  cases found : (sighting.peer?.bind tables.portRow?).filter (·.id ≠ here.id) with
  | none =>
    have gone : (tables.deleteLinks (LinkCells.touches here.id)).linkRow? here.id b = none := by
      refine sound.linkRow?_deleteLinks_of_gone fun row stored => ?_
      rw [LinkCells.touches_iff, ends_of_linkRow? stored]
      exact Sym2.mem_mk_left _ _
    dsimp only
    rw [gone]
    rfl
  | some there =>
    have apart : there.id ≠ here.id := by simpa using (Option.filter_eq_some_iff.1 found).2
    dsimp only
    by_cases same : there.id = b
    · rw [← same, cable_saveLink, Option.filter_some, decide_eq_true rfl]
      rfl
    · have other : s(some here.id, some b) ≠ s(some here.id, some there.id) := by
        simp only [ne_eq, Sym2.eq_iff, Option.some.injEq]
        omega
      have gone : (tables.deleteLinks (LinkCells.touchesBeside here.id there.id)).linkRow?
          here.id b = none := by
        refine sound.linkRow?_deleteLinks_of_gone fun row stored => ?_
        rw [LinkCells.touchesBeside_iff
          (sound.linkCells row (List.mem_of_find?_eq_some stored)), ends_of_linkRow? stored]
        exact ⟨Sym2.mem_mk_left _ _, other⟩
      rw [linkRow?_saveLink_of_ne other, gone, Option.filter_some, decide_eq_false same]
      rfl

/-! ## Cables between MAC addresses -/

/-- The row of the link between the ports with two MAC addresses. -/
def linkBetween? (tables : Tables) (x y : Mac) : Option (Row LinkCells) :=
  (tables.portRow? x).bind fun a => (tables.portRow? y).bind fun b => tables.linkRow? a.id b.id

/-- What is known of the cable between the ports with two MAC addresses, if there is one. -/
def cable? (tables : Tables) (x y : Mac) : Option (Option Int × Option Int × Option Int) :=
  (tables.linkBetween? x y).map (·.cells.cable)

/-- The link between two ports is found from either of them. -/
theorem linkBetween?_comm (x y : Mac) : tables.linkBetween? x y = tables.linkBetween? y x := by
  unfold linkBetween?
  cases tables.portRow? x with
  | none => cases tables.portRow? y <;> rfl
  | some a =>
    cases tables.portRow? y with
    | none => rfl
    | some b => exact linkRow?_comm a.id b.id

/-- What is known of a cable is found from either end. -/
theorem cable?_comm (x y : Mac) : tables.cable? x y = tables.cable? y x := by
  rw [cable?, cable?, linkBetween?_comm]

/-- Two MAC addresses have one text only if they are the same. -/
theorem macText_ne {x y : Mac} (apart : x ≠ y) : some (toString x) ≠ some (toString y) :=
  fun same => apart (Mac.toString_inj.1 (Option.some.inj same))

/-- The ports with two MAC addresses have two numbers. -/
theorem Sound.id_ne (sound : tables.Sound) {x y : Mac} (apart : x ≠ y) {a b : Row PortCells}
    (aFound : tables.portRow? x = some a) (bFound : tables.portRow? y = some b) :
    a.id ≠ b.id := by
  obtain ⟨aInside, aMac⟩ := sound.ports.rowAt?_eq_some_iff.1 aFound
  obtain ⟨bInside, bMac⟩ := sound.ports.rowAt?_eq_some_iff.1 bFound
  intro same
  have equal : a = b := sound.ports.eq_of_id aInside bInside same
  rw [← equal, aMac] at bMac
  exact macText_ne apart bMac

/-- A stored port leaves the other ports. -/
theorem portRow?_savePort_of_ne {port : Port} {mac x : Mac} (apart : x ≠ mac) :
    (tables.savePort port mac).portRow? x = tables.portRow? x :=
  Table.rowAt?_save_of_ne (fun _ _ => rfl) rfl (macText_ne apart)

/-- The port of a sighting is stored as it was sighted, and its cable is plugged. -/
theorem sight_eq_plug (tables : Tables) (sighting : Sighting) :
    ∃ here, here.cells = .ofPort (tables.sighted sighting) sighting.mac ∧
      (tables.savePort (tables.sighted sighting) sighting.mac).portRow? sighting.mac = some here ∧
      tables.sight sighting =
        (tables.savePort (tables.sighted sighting) sighting.mac).plug here sighting := by
  obtain ⟨here, found, cells⟩ :=
    portRow?_savePort_self tables (tables.sighted sighting) sighting.mac
  exact ⟨here, cells, found, sight_of_portRow? found⟩

/-- A sighting stores its port as it was sighted. -/
theorem portRow?_sight_self (tables : Tables) (sighting : Sighting) :
    ∃ here, (tables.sight sighting).portRow? sighting.mac = some here ∧
      here.cells = .ofPort (tables.sighted sighting) sighting.mac := by
  obtain ⟨here, cells, found, sighted⟩ := sight_eq_plug tables sighting
  exact ⟨here, by rw [sighted, portRow?, plug_ports]; exact found, cells⟩

/-- A sighting leaves the other ports. -/
theorem portRow?_sight_of_ne {sighting : Sighting} {x : Mac} (apart : x ≠ sighting.mac) :
    (tables.sight sighting).portRow? x = tables.portRow? x := by
  rw [portRow?, sight_ports]
  exact portRow?_savePort_of_ne apart

/-- A sighting leaves the links between other ports. -/
theorem Sound.linkBetween?_sight_of_ne (sound : tables.Sound) {sighting : Sighting} {x y : Mac}
    (xApart : x ≠ sighting.mac) (yApart : y ≠ sighting.mac) :
    (tables.sight sighting).linkBetween? x y = tables.linkBetween? x y := by
  obtain ⟨here, _, stored, sighted⟩ := sight_eq_plug tables sighting
  have saved := sound.savePort sighting.mac (deviceIsStored_sighted sighting)
  have away : ∀ {z : Mac} {row : Row PortCells}, z ≠ sighting.mac → tables.portRow? z = some row →
      row.id ≠ here.id := by
    intro z row apart found
    exact saved.id_ne apart ((portRow?_savePort_of_ne apart).trans found) stored
  unfold linkBetween?
  rw [portRow?_sight_of_ne xApart, portRow?_sight_of_ne yApart]
  cases aFound : tables.portRow? x with
  | none => rfl
  | some a =>
    cases bFound : tables.portRow? y with
    | none => rfl
    | some b =>
      show (tables.sight sighting).linkRow? a.id b.id = tables.linkRow? a.id b.id
      rw [sighted, saved.linkRow?_plug_of_ne sighting (away xApart aFound) (away yApart bFound)]
      rfl

/-- A sighting decides the cable between its port and any other: there is one exactly if the other
is stored and is the neighbour that was sighted. -/
theorem Sound.cable?_sight (sound : tables.Sound) {sighting : Sighting} {y : Mac}
    (apart : y ≠ sighting.mac) :
    (tables.sight sighting).cable? sighting.mac y =
      if sighting.peer? = some y then
        (tables.portRow? y).map fun there =>
          plainCable (min sighting.port.maxSpeed there.cells.speed)
      else none := by
  obtain ⟨here, _, stored, sighted⟩ := sight_eq_plug tables sighting
  have saved := sound.savePort sighting.mac (deviceIsStored_sighted sighting)
  have own : (tables.sight sighting).portRow? sighting.mac = some here := by
    rw [sighted, portRow?, plug_ports]
    exact stored
  rw [cable?, linkBetween?, own, portRow?_sight_of_ne apart, Option.bind_some]
  cases bFound : tables.portRow? y with
  | none => split <;> rfl
  | some b =>
    have bStored : (tables.savePort (tables.sighted sighting) sighting.mac).portRow? y = some b :=
      (portRow?_savePort_of_ne apart).trans bFound
    have bApart : b.id ≠ here.id := saved.id_ne apart bStored stored
    rw [Option.bind_some, sighted, saved.cable_plug here sighting b.id]
    cases seen : sighting.peer? with
    | none => rfl
    | some peer =>
      rw [Option.bind_some]
      by_cases named : peer = y
      · rw [named, bStored, if_pos rfl]
        simp [Option.filter, bApart]
      · rw [if_neg fun same => named (Option.some.inj same)]
        cases found : (tables.savePort (tables.sighted sighting) sighting.mac).portRow? peer with
        | none => rfl
        | some there =>
          have thereApart : there.id ≠ b.id := saved.id_ne named found bStored
          by_cases self : there.id = here.id
          · simp [Option.filter, self]
          · simp [Option.filter, self, thereApart]

/-- A stored port is found under its MAC address. -/
theorem Sound.exists_portRow?_of_has (sound : tables.Sound) {id : Int}
    (stored : tables.ports.has id) : ∃ x port, tables.portRow? x = some port ∧ port.id = id := by
  obtain ⟨port, inside, own⟩ := Table.has_iff.1 stored
  obtain ⟨_, x, cells⟩ := sound.portCells port inside
  have mac : port.cells.mac = some (toString x) := by
    rw [cells]
    rfl
  exact ⟨x, port, sound.ports.rowAt?_eq_some_iff.2 ⟨inside, mac⟩, own⟩

/-- A stored link joins the ports with two MAC addresses. -/
theorem Sound.exists_linkBetween? (sound : tables.Sound) {row : Row LinkCells}
    (inside : row ∈ tables.links.rows) :
    ∃ x y a b, tables.portRow? x = some a ∧ tables.portRow? y = some b ∧
      row.cells.ends = s(some a.id, some b.id) ∧ tables.linkBetween? x y = some row := by
  have plugged {id : Int} (isEnd : some id ∈ row.cells.ends) :
      ∃ x port, tables.portRow? x = some port ∧ port.id = id :=
    sound.exists_portRow?_of_has (sound.plugged row inside id isEnd)
  obtain ⟨link, cells⟩ := sound.linkCells row inside
  have ends : row.cells.ends = s(some link.a, some link.b) := by
    rw [cells]
    rfl
  obtain ⟨x, a, aFound, aId⟩ := plugged (ends ▸ Sym2.mem_mk_left (some link.a) _)
  obtain ⟨y, b, bFound, bId⟩ := plugged (ends ▸ Sym2.mem_mk_right _ (some link.b))
  rw [← aId, ← bId] at ends
  refine ⟨x, y, a, b, aFound, bFound, ends, ?_⟩
  rw [linkBetween?, aFound, bFound]
  exact sound.links.rowAt?_eq_some_iff.2 ⟨inside, ends⟩

/-- A link found between two MAC addresses is stored and has the ports with these as its ends. -/
theorem Sound.ends_of_linkBetween? (sound : tables.Sound) {x y : Mac} {row : Row LinkCells}
    (found : tables.linkBetween? x y = some row) :
    row ∈ tables.links.rows ∧ ∃ a b, tables.portRow? x = some a ∧ tables.portRow? y = some b ∧
      row.cells.ends = s(some a.id, some b.id) := by
  obtain ⟨a, aFound, rest⟩ := Option.bind_eq_some_iff.1 found
  obtain ⟨b, bFound, joined⟩ := Option.bind_eq_some_iff.1 rest
  obtain ⟨inside, ends⟩ := sound.links.rowAt?_eq_some_iff.1 joined
  exact ⟨inside, a, b, aFound, bFound, ends⟩

/-- In straight tables no cable leads from a port to itself. -/
theorem Sound.cable?_self (sound : tables.Sound) (straight : tables.Straight) (x : Mac) :
    tables.cable? x x = none := by
  cases found : tables.linkBetween? x x with
  | none => rw [cable?, found, Option.map_none]
  | some row =>
    obtain ⟨inside, a, b, aFound, bFound, ends⟩ := sound.ends_of_linkBetween? found
    rw [aFound] at bFound
    rw [← Option.some.inj bFound, LinkCells.ends, Sym2.eq_iff] at ends
    have loop : row.cells.a = row.cells.b := by
      rcases ends with ⟨left, right⟩ | ⟨left, right⟩ <;> rw [left, right]
    exact absurd loop (straight row inside)

/-! ## Cables after many notices -/

/-- Notices are taken in one list after the other. -/
theorem takeAll_append (before later : List Notice) :
    tables.takeAll (before ++ later) = (tables.takeAll before).takeAll later :=
  List.foldl_append

end Tables

/-- No notice is a sighting of the port with a MAC address. -/
def Quiet (notices : List Notice) (x : Mac) : Prop :=
  ∀ sighting, .port sighting ∈ notices → x ≠ sighting.mac

/-- What all notices are quiet about, all but the first are quiet about. -/
theorem Quiet.tail {notice : Notice} {notices : List Notice} {x : Mac}
    (quiet : Quiet (notice :: notices) x) : Quiet notices x :=
  fun sighting inside => quiet sighting (List.mem_cons_of_mem _ inside)

/-- A notice of another port may come in front of notices that are quiet about a port. -/
theorem Quiet.cons {notice : Notice} {notices : List Notice} {x : Mac} (quiet : Quiet notices x)
    (head : ∀ sighting, notice = .port sighting → x ≠ sighting.mac) :
    Quiet (notice :: notices) x := by
  intro sighting inside
  rcases List.mem_cons.1 inside with same | rest
  · exact head sighting same.symm
  · exact quiet sighting rest

/-- Of some notices one is the last sighting of either of two ports, unless none is. -/
theorem last_sighting_of_two (notices : List Notice) (x y : Mac) :
    (Quiet notices x ∧ Quiet notices y) ∨
      ∃ before sighting later, notices = before ++ .port sighting :: later ∧
        (sighting.mac = x ∨ sighting.mac = y) ∧ Quiet later x ∧ Quiet later y := by
  induction notices with
  | nil => exact .inl ⟨fun _ inside => absurd inside List.not_mem_nil,
      fun _ inside => absurd inside List.not_mem_nil⟩
  | cons notice notices ih =>
    rcases ih with ⟨xQuiet, yQuiet⟩ | ⟨before, sighting, later, rfl, rest⟩
    · by_cases head : ∃ sighting, notice = .port sighting ∧ (sighting.mac = x ∨ sighting.mac = y)
      · obtain ⟨sighting, rfl, named⟩ := head
        exact .inr ⟨[], sighting, notices, rfl, named, xQuiet, yQuiet⟩
      · refine .inl ⟨xQuiet.cons fun sighting same own => ?_,
          yQuiet.cons fun sighting same own => ?_⟩
        · exact head ⟨sighting, same, .inl own.symm⟩
        · exact head ⟨sighting, same, .inr own.symm⟩
    · exact .inr ⟨notice :: before, sighting, later, rfl, rest⟩

namespace Tables

variable {tables : Tables}

/-- Notices without a sighting of a port leave its row. -/
theorem portRow?_takeAll_of_quiet {notices : List Notice} {x : Mac} (quiet : Quiet notices x) :
    (tables.takeAll notices).portRow? x = tables.portRow? x := by
  induction notices generalizing tables with
  | nil => rfl
  | cons notice notices ih =>
    refine (ih quiet.tail).trans ?_
    cases notice with
    | device device => rfl
    | port sighting => exact portRow?_sight_of_ne (quiet sighting List.mem_cons_self)

/-- A notice takes no port away. -/
theorem isSome_portRow?_take {x : Mac} (stored : (tables.portRow? x).isSome) (notice : Notice) :
    ((tables.take notice).portRow? x).isSome := by
  cases notice with
  | device device => exact stored
  | port sighting =>
    obtain ⟨row, found⟩ := Option.isSome_iff_exists.1 stored
    obtain ⟨later, laterFound, _⟩ := Table.rowAt?_put_of_found found
      (.ofPort (tables.sighted sighting) sighting.mac)
    have kept : (tables.sight sighting).portRow? x = some later := by
      rw [portRow?, sight_ports]
      exact laterFound
    exact Option.isSome_iff_exists.2 ⟨later, kept⟩

/-- Notices take no port away. -/
theorem isSome_portRow?_takeAll {x : Mac} (stored : (tables.portRow? x).isSome)
    (notices : List Notice) : ((tables.takeAll notices).portRow? x).isSome := by
  induction notices generalizing tables with
  | nil => exact stored
  | cons notice notices ih => exact ih (isSome_portRow?_take stored notice)

/-- After some notices every port that was sighted is stored. -/
theorem isSome_portRow?_of_sighted (tables : Tables) {notices : List Notice} {sighting : Sighting}
    (inside : .port sighting ∈ notices) :
    ((tables.takeAll notices).portRow? sighting.mac).isSome := by
  obtain ⟨before, later, rfl⟩ := List.append_of_mem inside
  rw [takeAll_append]
  obtain ⟨here, found, _⟩ := portRow?_sight_self (tables.takeAll before) sighting
  exact isSome_portRow?_takeAll (Option.isSome_iff_exists.2 ⟨here, found⟩) later

/-- Notices without a sighting of either of two ports leave the link between them. -/
theorem Sound.linkBetween?_takeAll_of_quiet (sound : tables.Sound) {notices : List Notice}
    {x y : Mac} (xQuiet : Quiet notices x) (yQuiet : Quiet notices y) :
    (tables.takeAll notices).linkBetween? x y = tables.linkBetween? x y := by
  induction notices generalizing tables with
  | nil => rfl
  | cons notice notices ih =>
    refine (ih (sound.take notice) xQuiet.tail yQuiet.tail).trans ?_
    cases notice with
    | device device => rfl
    | port sighting =>
      exact sound.linkBetween?_sight_of_ne (xQuiet sighting List.mem_cons_self)
        (yQuiet sighting List.mem_cons_self)

/-- After some notices the cable between two ports is what the last sighting at one of them says:
there is one exactly if it names the other and the other is stored. -/
theorem Sound.cable?_takeAll_of_last (sound : tables.Sound) (before : List Notice)
    {later : List Notice} {sighting : Sighting} {y : Mac} (apart : y ≠ sighting.mac)
    (ownQuiet : Quiet later sighting.mac) (otherQuiet : Quiet later y) :
    (tables.takeAll (before ++ .port sighting :: later)).cable? sighting.mac y =
      if sighting.peer? = some y then
        ((tables.takeAll (before ++ .port sighting :: later)).portRow? y).map fun there =>
          plainCable (min sighting.port.maxSpeed there.cells.speed)
      else none := by
  have beforeSound := sound.takeAll before
  have split : tables.takeAll (before ++ .port sighting :: later) =
      ((tables.takeAll before).sight sighting).takeAll later := by
    rw [takeAll_append]
    rfl
  have decided := beforeSound.cable?_sight apart
  rw [split, cable?,
    (beforeSound.sight sighting).linkBetween?_takeAll_of_quiet ownQuiet otherQuiet,
    portRow?_takeAll_of_quiet otherQuiet, portRow?_sight_of_ne apart]
  exact decided

end Tables

end CableMap.Store
