import CableMap.Proofs.KnownHosts
import CableMap.Proofs.Observation.Columns
import CableMap.Proofs.Store.Devices
import CableMap.Proofs.Watcher.Run

/-!
# The store and the known hosts agree

A watcher keeps what a host reported twice: the store holds the device and the ports that it was
decoded to, and the known hosts hold the bindings themselves. Both change in one step at the end of
a reading, and only if it succeeds. So in every run that begins with an empty store the devices
are the known hosts, each as the bindings that it reported last describe it, whatever the hosts
answer and however often they fail, and every port belongs to one of them.
-/
namespace CableMap.Watcher

variable {outlook : Outlook} {known : KnownHosts} {tables : Store.Tables}

/-! ## What a reading keeps -/

/-- Tables hold what the known hosts reported. -/
structure Matches (outlook : Outlook) (known : KnownHosts) (tables : Store.Tables) : Prop where
  /-- The rows fit together. -/
  sound : tables.Sound
  /-- Every port belongs to a device. -/
  housed : tables.Housed
  /-- Every port has a MAC address. -/
  named : tables.Named
  /-- No host is known twice. -/
  rising : known.Rising
  /-- The device at an address is the one that the known bindings of the host describe. -/
  devices : ∀ host, (tables.deviceRow? host).map (·.cells) =
    (known.bindingsOf? host).map fun bindings => .ofDevice (observed outlook host bindings).device

/-- Before any host is known tables without rows hold what was reported. -/
theorem Matches.empty (outlook : Outlook) :
    Matches outlook .empty ⟨.empty, .empty, .empty⟩ where
  sound := .empty
  housed := by simp [Store.Tables.Housed, Store.Table.empty]
  named := by simp [Store.Tables.Named, Store.Table.empty]
  rising := .empty
  devices _ := rfl

/-- An observation that is recorded together with its bindings leaves tables that match. -/
theorem Matches.record (agree : Matches outlook known tables) (host : Ipv4)
    (bindings : List Binding) :
    Matches outlook (known.record host bindings)
      (tables.takeAll (observed outlook host bindings).notices) where
  sound := agree.sound.takeAll _
  housed := agree.housed.takeAll_notices _
  named := by
    apply agree.named.takeAll_notices
    intro port inside null
    obtain ⟨mac, given, notNull⟩ := Observation.mac_of_mem_ports inside
    exact notNull (Option.some.inj (given.symm.trans null))
  rising := agree.rising.record host bindings
  devices other := by
    have address : (observed outlook host bindings).device.address = host :=
      Observation.address_ofBindings host bindings _
    by_cases same : other = host
    · obtain ⟨row, found, cells⟩ :=
        Store.Tables.deviceRow?_takeAll_notices_self tables (observed outlook host bindings)
      rw [address] at found
      rw [same, found, KnownHosts.bindingsOf?_record_self, Option.map_some, Option.map_some, cells]
    · rw [KnownHosts.bindingsOf?_record_of_ne same, ← agree.devices other,
        Store.Tables.deviceRow?_takeAll_notices_of_ne (by rw [address]; exact same)]

/-- The store of a watcher holds what the known hosts reported. -/
def Agrees (outlook : Outlook) (watcher : Watcher) : Prop :=
  ∃ tables : Store.Tables, watcher.store = tables.store ∧ Matches outlook watcher.known tables

/-- A watcher over an opened store agrees with it. -/
theorem agrees_opened (outlook : Outlook) (place : String) (log : Log.Logger)
    (traps : TrapBuffer) : Agrees outlook (opened place log traps) :=
  ⟨_, Store.after_openAt place log, Matches.empty outlook⟩

/-- A reading keeps the store in agreement with the known hosts, whether it succeeds or not. -/
theorem Agrees.read {watcher : Watcher} (agrees : Agrees outlook watcher) (reading : Reading) :
    Agrees outlook (reading.after outlook watcher) := by
  obtain ⟨tables, stored, agree⟩ := agrees
  rcases after_of_sound agree.sound stored reading with
    ⟨store, known⟩ | ⟨bindings, text, _, store, known⟩
  · rw [← known] at agree
    exact ⟨tables, store, agree⟩
  · have later := agree.record reading.host bindings
    rw [← known] at later
    exact ⟨_, store, later⟩

/-- Whatever is read keeps the store in agreement with the known hosts. -/
theorem Agrees.reached {start now : Watcher} {made : List Visit}
    (reached : Reaches outlook start made now) (agrees : Agrees outlook start) :
    Agrees outlook now := by
  induction reached with
  | start => exact agrees
  | traps _ _ ih => exact ih
  | read _ reading ih => exact ih.read reading

/-- A run from a newly opened store keeps the store in agreement with the known hosts. -/
theorem agrees_afterAll (outlook : Outlook) (activities : List Activity) (place : String)
    (log : Log.Logger) (traps : TrapBuffer) :
    Agrees outlook (afterAll outlook activities (opened place log traps)) :=
  Agrees.reached (reaches_afterAll outlook activities _) (agrees_opened outlook place log traps)

/-- A host that answers every walk is known after it was read. -/
theorem Agrees.mem_addresses_of_answered {watcher : Watcher} (agrees : Agrees outlook watcher)
    {host : Ipv4} (answered : ∀ made, ∀ oid ∈ Catalog.full,
      (outlook.answers made ⟨host, outlook.community, oid⟩).value.isOk) :
    host ∈ ((Reading.whole host).after outlook watcher).known.addresses := by
  obtain ⟨tables, stored, agree⟩ := agrees
  have succeeded : Visit.succeeds outlook ⟨watcher, .whole host⟩ = true := by
    rw [succeeds_of_sound agree.sound stored]
    exact isOk_walks answered "" watcher.walked
  obtain ⟨text, walked, _, recorded⟩ := known_of_succeeds succeeded
  rw [recorded, KnownHosts.mem_addresses]
  exact ⟨_, KnownHosts.bindingsOf?_record_self _ _ _⟩

/-! ## Devices, ports and known hosts -/

/-- A row of a device is that of a known host. -/
theorem Matches.host_of_row (agree : Matches outlook known tables) {row : Store.Row Store.DeviceCells}
    (inside : row ∈ tables.devices.rows) :
    ∃ host ∈ known.addresses, row.cells.address = some (Store.addressKey host) := by
  obtain ⟨device, cells⟩ := agree.sound.deviceCells row inside
  have address : row.cells.address = some (Store.addressKey device.address) := by
    rw [cells]
    rfl
  have found : tables.deviceRow? device.address = some row :=
    agree.sound.devices.rowAt?_eq_some_iff.mpr ⟨inside, address⟩
  have reported := agree.devices device.address
  rw [found, Option.map_some] at reported
  obtain ⟨bindings, kept, _⟩ := Option.map_eq_some_iff.mp reported.symm
  exact ⟨device.address, KnownHosts.mem_addresses.mpr ⟨bindings, kept⟩, address⟩

/-- The device of a known host is stored as its bindings describe it. -/
theorem Matches.row_of_bindings (agree : Matches outlook known tables) {host : Ipv4}
    {bindings : List Binding} (reported : known.bindingsOf? host = some bindings) :
    ∃ row ∈ tables.devices.rows, row.cells = .ofDevice (observed outlook host bindings).device := by
  have stored := agree.devices host
  rw [reported, Option.map_some] at stored
  obtain ⟨row, found, cells⟩ := Option.map_eq_some_iff.mp stored
  exact ⟨row, List.mem_of_find?_eq_some found, cells⟩

/-- The addresses of the devices are those of the known hosts. -/
theorem Matches.addresses (agree : Matches outlook known tables) :
    (tables.devices.rows.map (·.cells.address)).Perm
      (known.addresses.map fun host => some (Store.addressKey host)) := by
  have stored : (tables.devices.rows.map (·.cells.address)).Nodup :=
    List.pairwise_map.mpr agree.sound.devices.distinct
  have reported : (known.addresses.map fun host => some (Store.addressKey host)).Nodup :=
    agree.rising.nodup.map fun _ _ => Store.addressKey_inj.mp
  apply (List.perm_ext_iff_of_nodup stored reported).mpr
  intro address
  constructor
  · intro inside
    obtain ⟨row, among, rfl⟩ := List.mem_map.mp inside
    obtain ⟨host, isKnown, own⟩ := agree.host_of_row among
    exact List.mem_map.mpr ⟨host, isKnown, own.symm⟩
  · intro inside
    obtain ⟨host, isKnown, rfl⟩ := List.mem_map.mp inside
    obtain ⟨bindings, kept⟩ := KnownHosts.mem_addresses.mp isKnown
    obtain ⟨row, among, cells⟩ := agree.row_of_bindings kept
    refine List.mem_map.mpr ⟨row, among, ?_⟩
    have address : (observed outlook host bindings).device.address = host :=
      Observation.address_ofBindings host bindings _
    rw [cells]
    exact congrArg (fun address => some (Store.addressKey address)) address

/-- What a watcher has stored is what the hosts that it knows reported last. -/
structure Agreement (outlook : Outlook) (watcher : Watcher) : Prop where
  /-- No table is missing. -/
  tables : watcher.store.devices?.isSome ∧ watcher.store.ports?.isSome ∧
    watcher.store.links?.isSome
  /-- The addresses of the devices are those of the known hosts. -/
  addresses : (watcher.store.deviceRows.map (·.cells.address)).Perm
    (watcher.known.addresses.map fun host => some (Store.addressKey host))
  /-- The device of a known host has the capabilities and the name that its bindings say. -/
  devices : ∀ host bindings, watcher.known.bindingsOf? host = some bindings →
    ∃ row ∈ watcher.store.deviceRows, row.cells = .ofDevice (observed outlook host bindings).device
  /-- Every port has a MAC address and belongs to the device of a known host. -/
  ports : ∀ port ∈ watcher.store.portRows,
    (∃ mac : Mac, mac ≠ .null ∧ port.cells.mac = some (toString mac)) ∧
      ∃ device ∈ watcher.store.deviceRows, port.cells.device = some device.id ∧
        ∃ host ∈ watcher.known.addresses, device.cells.address = some (Store.addressKey host)

/-- Where the tables hold what was reported, the store shows what the known hosts reported last. -/
theorem Agrees.agreement {watcher : Watcher} (agrees : Agrees outlook watcher) :
    Agreement outlook watcher := by
  obtain ⟨tables, stored, agree⟩ := agrees
  refine ⟨?_, ?_, ?_, ?_⟩
  · rw [stored]
    exact ⟨rfl, rfl, rfl⟩
  · rw [stored]
    exact agree.addresses
  · intro host bindings reported
    rw [stored]
    exact agree.row_of_bindings reported
  · rw [stored]
    intro port inside
    obtain ⟨id, belongs⟩ := Option.isSome_iff_exists.mp (agree.housed port inside)
    obtain ⟨device, among, rfl⟩ := agree.sound.intact.owners port inside id belongs
    exact ⟨agree.named port inside, device, among, belongs, agree.host_of_row among⟩

/-- In every run from a newly opened store, whatever the hosts answer and whichever walks fail, the
store holds what the known hosts reported last. -/
theorem store_agrees_with_known (outlook : Outlook) (activities : List Activity) (place : String)
    (log : Log.Logger) (traps : TrapBuffer) :
    Agreement outlook (afterAll outlook activities (opened place log traps)) :=
  (agrees_afterAll outlook activities place log traps).agreement

end CableMap.Watcher
