import CableMap.Proofs.Store.Tables

/-!
# Transactions on sound tables

What each transaction comes to when it starts from three sound tables: which row it answers with
or how many rows it removes, and the tables after it. A transaction that is refused leaves the
tables as they were.
-/
namespace CableMap.Store

open Tables

variable {tables : Tables}

/-! ## Storing -/

/-- To overwrite or add, and then to look up what was written, answers with the row found. -/
theorem result_upsert {lookup : Store → Except Failure (Option Int)} {overwrite add : StoreM Unit}
    {what : String} {before later : Store} {known : Option Int} {id : Int}
    (asked : lookup before = .ok known)
    (written : result (if known.isSome then overwrite else add) before = (.ok (), later))
    (answered : lookup later = .ok (some id)) :
    result (do
      if (← ask lookup).isSome then overwrite else add
      found what (← ask lookup)) before = (.ok id, later) := by
  have ends : result (do found what (← ask lookup)) later = (.ok id, later) := by
    rw [result_bind_ok (result_ask_ok answered)]
    rfl
  rw [result_bind_ok (result_ask_ok asked)]
  cases known with
  | none => exact (result_bind_ok written).trans ends
  | some old => exact (result_bind_ok written).trans ends

/-- Where overwriting or adding fails, nothing is looked up. -/
theorem result_upsert_error {lookup : Store → Except Failure (Option Int)}
    {overwrite add : StoreM Unit} {what : String} {before later : Store} {known : Option Int}
    {failure : Failure} (asked : lookup before = .ok known)
    (failed : result (if known.isSome then overwrite else add) before = (.error failure, later)) :
    result (do
      if (← ask lookup).isSome then overwrite else add
      found what (← ask lookup)) before = (.error failure, later) := by
  rw [result_bind_ok (result_ask_ok asked)]
  cases known with
  | none => exact result_bind_error failed
  | some old => exact result_bind_error failed

/-- The number of the row at an address is asked of the tables. -/
theorem deviceId?_store (tables : Tables) (address : Ipv4) :
    tables.store.deviceId? address = .ok ((tables.deviceRow? address).map (·.id)) := rfl

/-- The number of the row with a MAC address is asked of the tables. -/
theorem portId?_store (tables : Tables) (mac : Mac) :
    tables.store.portId? mac = .ok ((tables.portRow? mac).map (·.id)) := rfl

/-- The number of the row that joins two ports is asked of the tables. -/
theorem linkId?_store (tables : Tables) (a b : Int) :
    tables.store.linkId? a b = .ok ((tables.linkRow? a b).map (·.id)) := by
  show Except.ok ((tables.links.find? (LinkCells.joins a b)).map (·.id)) = _
  rw [LinkCells.joins_eq]
  rfl

/-- Changes that agree on the rows that are chosen are one change. -/
theorem update_congr {α : Type} {table : Table α} {chosen : Row α → Bool} {left right : α → α}
    (same : ∀ row ∈ table.rows, chosen row → left row.cells = right row.cells) :
    table.update chosen left = table.update chosen right := by
  unfold Table.update
  congr 1
  refine List.map_congr_left fun row inside => ?_
  by_cases picked : chosen row = true
  · rw [if_pos picked, if_pos picked, same row inside picked]
  · rw [if_neg picked, if_neg picked]

/-- A device at an address that is not there is added. -/
theorem insertDevice_store {device : Device} (absent : tables.deviceRow? device.address = none) :
    insertDevice device tables.store =
      .ok (tables.devices.nextId, (tables.saveDevice device).store) := by
  have added : tables.saveDevice device =
      { tables with devices := tables.devices.insert (.ofDevice device) } :=
    congrArg (fun devices => { tables with devices }) (Table.save_of_absent absent _ _)
  rw [added]
  rfl

/-- The device at an address that is there is overwritten. -/
theorem updateDevice_store {device : Device} {row : Row DeviceCells}
    (found : tables.deviceRow? device.address = some row) :
    updateDevice device tables.store = .ok ((), (tables.saveDevice device).store) := by
  have same : (tables.devices.update (isDeviceAt device.address) fun old =>
      { old with
        supported := some device.supported
        enabled := some device.enabled
        name := some device.name }) =
      tables.devices.update (isDeviceAt device.address) fun _ => .ofDevice device := by
    refine update_congr fun old _ chosen => ?_
    have address : old.cells.address = some (addressKey device.address) := by
      simpa [isDeviceAt] using chosen
    simp only [DeviceCells.ofDevice, address]
  have overwritten : tables.saveDevice device =
      { tables with
        devices := tables.devices.update (isDeviceAt device.address) fun _ => .ofDevice device } :=
    congrArg (fun devices => { tables with devices }) (Table.save_of_found found _ _)
  rw [overwritten, ← same]
  rfl

/-- Storing a device succeeds and answers with its row. -/
theorem result_saveDevice (tables : Tables) (device : Device) :
    ∃ row, (tables.saveDevice device).deviceRow? device.address = some row ∧
      result (Store.saveDevice device) tables.store =
        (.ok row.id, (tables.saveDevice device).store) := by
  obtain ⟨row, stored, _⟩ := deviceRow?_saveDevice_self tables device
  refine ⟨row, stored, ?_⟩
  refine result_upsert (deviceId?_store tables device.address) ?_
    ((deviceId?_store _ _).trans (by rw [stored]; rfl))
  cases there : tables.deviceRow? device.address with
  | none => exact result_discard_ok (result_execute_ok (insertDevice_store there))
  | some row => exact result_execute_ok (updateDevice_store there)

/-- A port without a MAC address is not stored. -/
theorem result_savePort_of_none {port : Port} (without : port.mac? = none) (store : Store) :
    result (Store.savePort port) store =
      (.error (.argument (.portWithoutMac port.interface)), store) := by
  unfold Store.savePort
  rw [without]
  rfl

section Port

variable {port : Port} {mac : Mac}

/-- A port that is not there is added if the device that it belongs to is stored, and is refused
otherwise. -/
theorem insertPort_store (known : port.mac? = some mac) (absent : tables.portRow? mac = none) :
    insertPort port tables.store =
      if deviceIsStored tables.devices port then
        .ok (tables.ports.nextId, (tables.savePort port mac).store)
      else .error (.store .foreignKey) := by
  have added : tables.savePort port mac =
      { tables with ports := tables.ports.insert (.ofPort port mac) } :=
    congrArg (fun ports => { tables with ports }) (Table.save_of_absent absent _ _)
  have read : macOf port = .ok mac := by rw [macOf, known]
  rw [added]
  unfold insertPort
  rw [read]
  show (do
    requireReference (deviceIsStored tables.devices port)
    pure (tables.ports.nextId, { tables.store with ports? := some _ })) = _
  cases deviceIsStored tables.devices port <;> rfl

/-- The port with a MAC address that is there is overwritten if the device that it belongs to is
stored, and is left otherwise. -/
theorem updatePort_store {row : Row PortCells} (known : port.mac? = some mac)
    (found : tables.portRow? mac = some row) :
    updatePort port tables.store =
      if deviceIsStored tables.devices port then .ok ((), (tables.savePort port mac).store)
      else .error (.store .foreignKey) := by
  have overwritten : tables.savePort port mac =
      { tables with ports := tables.ports.update (isPortWith mac) fun _ => .ofPort port mac } :=
    congrArg (fun ports => { tables with ports }) (Table.save_of_found found _ _)
  have there : tables.ports.any (isPortWith mac) = true :=
    List.any_eq_true.2 ⟨row, List.mem_of_find?_eq_some found, List.find?_some found⟩
  have read : macOf port = .ok mac := by rw [macOf, known]
  rw [overwritten]
  unfold updatePort
  rw [read]
  show (do
    requireReference (! tables.ports.any (isPortWith mac) || deviceIsStored tables.devices port)
    pure ((), { tables.store with ports? := some _ })) = _
  rw [there]
  cases deviceIsStored tables.devices port <;> rfl

/-- Storing a port with a MAC address succeeds if the device that it belongs to is stored, and
answers with its row. -/
theorem result_savePort (known : port.mac? = some mac)
    (stored : deviceIsStored tables.devices port) :
    ∃ row, (tables.savePort port mac).portRow? mac = some row ∧
      result (Store.savePort port) tables.store =
        (.ok row.id, (tables.savePort port mac).store) := by
  obtain ⟨row, written, _⟩ := portRow?_savePort_self tables port mac
  refine ⟨row, written, ?_⟩
  unfold Store.savePort
  rw [known]
  refine result_upsert (portId?_store tables mac) ?_
    ((portId?_store _ _).trans (by rw [written]; rfl))
  cases there : tables.portRow? mac with
  | none =>
    have added := (insertPort_store known there).trans (if_pos stored)
    exact result_discard_ok (result_execute_ok added)
  | some row =>
    have overwritten := (updatePort_store known there).trans (if_pos stored)
    exact result_execute_ok overwritten

/-- A port whose device is not stored is refused. -/
theorem result_savePort_error (known : port.mac? = some mac)
    (missing : ¬ deviceIsStored tables.devices port) :
    result (Store.savePort port) tables.store = (.error (.store .foreignKey), tables.store) := by
  unfold Store.savePort
  rw [known]
  refine result_upsert_error (portId?_store tables mac) ?_
  cases there : tables.portRow? mac with
  | none =>
    have refused := (insertPort_store known there).trans (if_neg missing)
    exact result_discard_error (result_execute_error refused)
  | some row =>
    have refused := (updatePort_store known there).trans (if_neg missing)
    exact result_execute_error refused

end Port

section Link

variable {link : Link}

/-- A link that is not there is added if both its ports are stored, and is refused otherwise. -/
theorem insertLink_store (absent : tables.linkRow? link.a link.b = none) :
    insertLink link tables.store =
      if tables.ports.has link.a && tables.ports.has link.b then
        .ok (tables.links.nextId, (tables.saveLink link).store)
      else .error (.store .foreignKey) := by
  have added : tables.saveLink link =
      { tables with links := tables.links.insert (.ofLink link) } :=
    congrArg (fun links => { tables with links }) (Table.save_of_absent absent _ _)
  rw [added]
  show (do
    requireReference (tables.ports.has link.a && tables.ports.has link.b)
    pure (tables.links.nextId, { tables.store with links? := some _ })) = _
  cases tables.ports.has link.a && tables.ports.has link.b <;> rfl

/-- The link between two ports that is there is overwritten. -/
theorem updateLink_store {row : Row LinkCells} (found : tables.linkRow? link.a link.b = some row) :
    updateLink link tables.store = .ok ((), (tables.saveLink link).store) := by
  have overwritten : tables.saveLink link =
      { tables with
        links := tables.links.update (LinkCells.joins link.a link.b) fun old =>
          { old with
            kind := some link.kind
            speed := some link.speed.toNat
            length := some link.length.toNat } } := by
    rw [LinkCells.joins_eq]
    exact congrArg (fun links => { tables with links }) (Table.save_of_found found _ _)
  rw [overwritten]
  rfl

/-- Storing a link between stored ports succeeds and answers with its row. -/
theorem result_saveLink (tables : Tables) (link : Link) (a : tables.ports.has link.a)
    (b : tables.ports.has link.b) :
    ∃ row, (tables.saveLink link).linkRow? link.a link.b = some row ∧
      result (Store.saveLink link) tables.store =
        (.ok row.id, (tables.saveLink link).store) := by
  have written : (tables.saveLink link).linkRow? link.a link.b =
      some (tables.links.savedRow LinkCells.ends s(some link.a, some link.b) _ (.ofLink link)) :=
    Table.rowAt?_save_self (fun _ own => own) rfl
  refine ⟨_, written, ?_⟩
  refine result_upsert (linkId?_store tables link.a link.b) ?_
    ((linkId?_store _ _ _).trans (by rw [written]; rfl))
  cases there : tables.linkRow? link.a link.b with
  | none =>
    have added := (insertLink_store there).trans (if_pos (by rw [a, b]; rfl))
    exact result_discard_ok (result_execute_ok added)
  | some row => exact result_execute_ok (updateLink_store there)

/-- A link with an end at a port that is not stored is refused. -/
theorem result_saveLink_error (sound : tables.Sound)
    (missing : ¬ (tables.ports.has link.a ∧ tables.ports.has link.b)) :
    result (Store.saveLink link) tables.store = (.error (.store .foreignKey), tables.store) := by
  refine result_upsert_error (linkId?_store tables link.a link.b) ?_
  cases there : tables.linkRow? link.a link.b with
  | none =>
    have refused := (insertLink_store there).trans (if_neg (by simpa using missing))
    exact result_discard_error (result_execute_error refused)
  | some row =>
    -- A link that is there has its ports stored.
    obtain ⟨inside, ends⟩ := sound.links.rowAt?_eq_some_iff.1 there
    refine absurd ⟨?_, ?_⟩ missing
    · exact sound.plugged row inside link.a (by rw [ends]; exact Sym2.mem_mk_left _ _)
    · exact sound.plugged row inside link.b (by rw [ends]; exact Sym2.mem_mk_right _ _)

end Link

/-! ## Removing -/

/-- Removing links succeeds and answers with how many there were. -/
theorem result_deleteLinks (tables : Tables) (chosen : Row LinkCells → Bool) :
    result (execute (Store.deleteLinks chosen)) tables.store =
      (.ok (tables.links.count chosen), (tables.deleteLinks chosen).store) :=
  result_execute_ok rfl

/-- Removing the link between two ports answers with whether there was one. -/
theorem result_unlink (tables : Tables) (a b : Int) :
    result (unlink a b) tables.store =
      (.ok (0 < tables.links.count (LinkCells.joins a b)),
        (tables.deleteLinks (LinkCells.joins a b)).store) := by
  rw [unlink, result_bind_ok (result_deleteLinks tables _)]
  rfl

/-- Removing the links at a port answers with how many there were. -/
theorem result_unlinkPort (tables : Tables) (port : Int) :
    result (unlinkPort port) tables.store =
      (.ok (tables.links.count (LinkCells.touches port)),
        (tables.deleteLinks (LinkCells.touches port)).store) :=
  result_deleteLinks tables _

/-- Removing the links at a port but the one to its peer answers with how many there were. -/
theorem result_unlinkBeside (tables : Tables) (port peer : Int) :
    result (unlinkBeside port peer) tables.store =
      (.ok (tables.links.count (LinkCells.touchesBeside port peer)),
        (tables.deleteLinks (LinkCells.touchesBeside port peer)).store) :=
  result_deleteLinks tables _

/-- Removing the links at some ports one port after the other removes the links that have an end
at one of them. -/
theorem result_unlinkPorts (tables : Tables) (ids : List Int) :
    result (ids.forM fun port => discard (unlinkPort port)) tables.store =
      (.ok (), (tables.deleteLinks fun link => ids.any (LinkCells.touches · link)).store) := by
  induction ids generalizing tables with
  | nil =>
    have same : tables.deleteLinks (fun link => ([] : List Int).any (LinkCells.touches · link)) =
        tables := by
      simp [Tables.deleteLinks, Table.delete]
    rw [same]
    rfl
  | cons id ids ih =>
    have both : (tables.deleteLinks (LinkCells.touches id)).deleteLinks
          (fun link => ids.any (LinkCells.touches · link)) =
        tables.deleteLinks fun link => (id :: ids).any (LinkCells.touches · link) := by
      simp only [Tables.deleteLinks, Table.delete, List.filter_filter, List.any_cons, Bool.not_or]
      simp only [Bool.and_comm]
    show result (do discard (unlinkPort id); ids.forM fun port => discard (unlinkPort port))
      tables.store = _
    rw [result_bind_ok (result_discard_ok (result_unlinkPort tables id)), ih, both]

/-- Ports at which no link ends are removed. -/
theorem deletePorts_store {chosen : Row PortCells → Bool}
    (free : ∀ link ∈ tables.links.rows, ∀ port ∈ tables.ports.rows, chosen port →
      ¬ LinkCells.touches port.id link) :
    Store.deletePorts chosen tables.store =
      .ok ((), { tables with ports := tables.ports.delete chosen }.store) := by
  have unplugged : (tables.links.any fun link =>
      (tables.ports.rows.filter chosen).any fun port => LinkCells.touches port.id link) = false := by
    by_contra plugged
    rw [Bool.not_eq_false] at plugged
    obtain ⟨link, linkInside, some⟩ := List.any_eq_true.1 plugged
    obtain ⟨port, gone, touched⟩ := List.any_eq_true.1 some
    obtain ⟨portInside, picked⟩ := List.mem_filter.1 gone
    exact free link linkInside port portInside picked touched
  show (do
    requireReference ! (tables.links.any fun link =>
      (tables.ports.rows.filter chosen).any fun port => LinkCells.touches port.id link)
    pure ((), { tables.store with ports? := some _ })) = _
  rw [unplugged]
  rfl

/-- A device without ports is removed. -/
theorem deleteDevice_store {id : Int} (free : ∀ port ∈ tables.ports.rows, ¬ isPortOf id port) :
    Store.deleteDevice id tables.store =
      .ok ((), { tables with devices := tables.devices.delete (·.id = id) }.store) := by
  have childless : (tables.ports.any fun port => isPortOf id port && tables.devices.has id) =
      false := by
    by_contra owned
    rw [Bool.not_eq_false] at owned
    obtain ⟨port, inside, belongs⟩ := List.any_eq_true.1 owned
    exact free port inside (Bool.and_eq_true_iff.1 belongs).1
  show (do
    requireReference ! (tables.ports.any fun port => isPortOf id port && tables.devices.has id)
    pure ((), { tables.store with devices? := some _ })) = _
  rw [childless]
  rfl

/-- Removing a port that is not there answers that there was none. -/
theorem result_removePort_of_none {mac : Mac} (absent : tables.portRow? mac = none)
    (log : Log.Logger) : result (removePort mac log) tables.store = (.ok false, tables.store) := by
  have asked : tables.store.portId? mac = .ok none := by
    rw [portId?_store, absent, Option.map_none]
  unfold removePort
  rw [result_bind_ok (result_ask_ok asked)]
  rfl

/-- Removing a port that is there removes it with its links. -/
theorem result_removePort {mac : Mac} {row : Row PortCells} (found : tables.portRow? mac = some row)
    (log : Log.Logger) :
    result (removePort mac log) tables.store =
      (.ok true, (tables.deletePorts (·.id = row.id)).store) := by
  have inside : row ∈ tables.ports.rows := List.mem_of_find?_eq_some found
  -- Its links are those at the ports with its number.
  have links : LinkCells.touches row.id = fun link =>
      (tables.ports.rows.filter (·.id = row.id)).any fun port => LinkCells.touches port.id link := by
    funext link
    rw [Bool.eq_iff_iff, List.any_eq_true]
    constructor
    · exact fun touched => ⟨row, List.mem_filter.2 ⟨inside, decide_eq_true rfl⟩, touched⟩
    · rintro ⟨port, picked, touched⟩
      rwa [← of_decide_eq_true (List.mem_filter.1 picked).2]
  have removed : result (do
        discard (unlinkPort row.id)
        execute (Store.deletePorts (·.id = row.id))) tables.store =
      (.ok (), (tables.deletePorts (·.id = row.id)).store) := by
    rw [result_bind_ok (result_discard_ok (result_unlinkPort tables row.id))]
    refine result_execute_ok ((deletePorts_store ?_).trans ?_)
    · intro link linkInside port _ picked
      rw [of_decide_eq_true picked]
      simpa using (List.mem_filter.1 linkInside).2
    · rw [links]
      rfl
  have asked : tables.store.portId? mac = .ok (some row.id) := by
    rw [portId?_store, found, Option.map_some]
  unfold removePort
  rw [result_bind_ok (result_ask_ok asked)]
  exact (result_bind_ok (result_savepoint_ok rfl rfl removed)).trans rfl

/-- Members that each have a partner have a list of partners. -/
theorem exists_forall₂ {α β : Type} {R : α → β → Prop} {members : List α}
    (partner : ∀ member ∈ members, ∃ other, R member other) :
    ∃ others, List.Forall₂ R members others := by
  induction members with
  | nil => exact ⟨[], .nil⟩
  | cons member members ih =>
    obtain ⟨other, head⟩ := partner member List.mem_cons_self
    obtain ⟨others, tail⟩ := ih fun later inside => partner later (List.mem_cons_of_mem _ inside)
    exact ⟨other :: others, .cons head tail⟩

/-- A member of a list has its partner in a list of partners. -/
theorem exists_of_mem_forall₂ {α β : Type} {R : α → β → Prop} {members : List α} {others : List β}
    (related : List.Forall₂ R members others) {member : α} (inside : member ∈ members) :
    ∃ other ∈ others, R member other := by
  induction related with
  | nil => cases inside
  | cons head _ ih =>
    rcases List.mem_cons.1 inside with rfl | later
    · exact ⟨_, List.mem_cons_self, head⟩
    · obtain ⟨other, among, holds⟩ := ih later
      exact ⟨other, List.mem_cons_of_mem _ among, holds⟩

/-- Rows that are each read are read in order. -/
theorem readRows_of_forall₂ {α β : Type} {read : Row α → Except StoreCause β}
    {rows : List (Row α)} {values : List β}
    (related : List.Forall₂ (fun row value => read row = .ok value) rows values) :
    readRows read rows = .ok values := by
  suffices listed : rows.mapM read = .ok values by
    rw [readRows, listed]
    rfl
  induction related with
  | nil => rfl
  | cons head _ tail =>
    rw [List.mapM_cons, head, tail]
    rfl

/-- Rows that can each be read are read in order. -/
theorem readRows_ok {α β : Type} {read : Row α → Except StoreCause β} {P : Row α → β → Prop}
    {rows : List (Row α)} (readable : ∀ row ∈ rows, ∃ value, read row = .ok value ∧ P row value) :
    ∃ values, readRows read rows = .ok values ∧
      List.Forall₂ (fun row value => read row = .ok value ∧ P row value) rows values := by
  obtain ⟨values, related⟩ := exists_forall₂ readable
  exact ⟨values, readRows_of_forall₂ (related.imp fun _ _ both => both.1), related⟩

/-- The ports of a device are read in the order of their rows. -/
theorem portsOf_store (sound : tables.Sound) (id : Int) :
    ∃ ports, tables.store.portsOf id = .ok ports ∧
      List.Forall₂ (fun row port => PortCells.read row = .ok port ∧ port.id? = some row.id)
        (tables.ports.rows.filter (isPortOf id)) ports :=
  readRows_ok fun _ inside => sound.read_port (List.mem_filter.1 inside).1

/-- What was read from rows with their numbers has the numbers of the rows. -/
theorem map_id_of_read {α β : Type} {read : Row α → Except StoreCause β} {id? : β → Option Int}
    {rows : List (Row α)} {values : List β}
    (came : List.Forall₂ (fun row value => read row = .ok value ∧ id? value = some row.id)
      rows values) : values.map id? = rows.map fun row => some row.id := by
  rw [← List.forall₂_eq_eq_eq, List.forall₂_map_left_iff, List.forall₂_map_right_iff]
  exact came.flip.imp fun _ _ own => own.2

/-- Removing a device that is not there answers that there was none. -/
theorem result_removeDevice_of_none {address : Ipv4}
    (absent : tables.deviceRow? address = none) (log : Log.Logger) :
    result (removeDevice address log) tables.store = (.ok false, tables.store) := by
  have asked : tables.store.deviceId? address = .ok none := by
    rw [deviceId?_store, absent, Option.map_none]
  unfold removeDevice
  rw [result_bind_ok (result_ask_ok asked)]
  rfl

/-- Removing a device that is there removes it with its ports and their links. -/
theorem result_removeDevice (sound : tables.Sound) {address : Ipv4} {row : Row DeviceCells}
    (found : tables.deviceRow? address = some row) (log : Log.Logger) :
    result (removeDevice address log) tables.store =
      (.ok true, (tables.deleteDevice row.id).store) := by
  have asked : tables.store.deviceId? address = .ok (some row.id) := by
    rw [deviceId?_store, found, Option.map_some]
  obtain ⟨ports, read, related⟩ := portsOf_store sound row.id
  let rows := tables.ports.rows.filter (isPortOf row.id)
  have ids : ports.filterMap (·.id?) = rows.map (·.id) := calc
    ports.filterMap (·.id?) = (ports.map (·.id?)).filterMap id := by rw [List.filterMap_map]; rfl
    _ = (rows.map fun row => some row.id).filterMap id := by rw [map_id_of_read related]
    _ = rows.map (·.id) := by simp
  have removed : result (do
        let ports ← ask (·.portsOf row.id)
        (ports.filterMap (·.id?)).forM fun port => discard (unlinkPort port)
        execute (Store.deletePorts (isPortOf row.id))
        execute (Store.deleteDevice row.id)) tables.store =
      (.ok (), (tables.deleteDevice row.id).store) := by
    rw [result_bind_ok (result_ask_ok read), ids, result_bind_ok (result_unlinkPorts tables _)]
    simp only [List.any_map, Function.comp_def]
    rw [result_bind_ok (result_execute_ok (deletePorts_store ?_))]
    · refine result_execute_ok ((deleteDevice_store ?_).trans rfl)
      intro port inside
      simpa using (List.mem_filter.1 inside).2
    · intro link linkInside port portInside picked touched
      have kept := (List.mem_filter.1 linkInside).2
      rw [Bool.not_eq_true', List.any_eq_false] at kept
      exact kept port (List.mem_filter.2 ⟨portInside, picked⟩) touched
  unfold removeDevice
  rw [result_bind_ok (result_ask_ok asked)]
  exact (result_bind_ok (result_savepoint_ok rfl rfl removed)).trans rfl

end CableMap.Store
