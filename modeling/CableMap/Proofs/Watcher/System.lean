import CableMap.Proofs.Binding.Batch
import CableMap.Proofs.Watcher.Agreement
import CableMap.Walk.Recording

/-!
# A rescan leaves what hosts said of their systems

A rescan walks the tables of a host and carries over what the host reported outside them. What it
walks can say nothing of a system, whatever the text, since it is read with the catalog of the
tables. So what is carried over stays the same through any number of rescans, and the device that
it describes is the one that is stored already.
-/
namespace CableMap.Watcher

variable {outlook : Outlook} {host : Ipv4} {bindings : List Binding}

/-! ## What is carried over -/

/-- The bindings outside the tables of two lists are those of each. -/
theorem systemBindings_append (left right : List Binding) :
    systemBindings (left ++ right) = systemBindings left ++ systemBindings right :=
  List.filter_append left right

/-- To carry over what was carried over takes all of it. -/
@[simp] theorem systemBindings_systemBindings (bindings : List Binding) :
    systemBindings (systemBindings bindings) = systemBindings bindings := by
  unfold systemBindings
  rw [List.filter_filter]
  simp only [Bool.and_self]

/-- Nothing of the tables is carried over. -/
theorem systemBindings_eq_nil (tables : ∀ binding ∈ bindings, binding.oid ∈ Catalog.tables) :
    systemBindings bindings = [] := by
  apply List.filter_eq_nil_iff.mpr
  intro binding inside
  simpa using tables binding inside

/-- No identifier of the system is one of the tables. -/
theorem not_mem_tables_of_system : ∀ oid ∈ Catalog.system, oid ∉ Catalog.tables := by
  decide +kernel

/-- What is carried over holds every column but those of the tables. -/
theorem column_systemBindings (bindings : List Binding) (oid : Oid) :
    Binding.column (systemBindings bindings) oid =
      if oid ∈ Catalog.tables then [] else Binding.column bindings oid := by
  unfold systemBindings Binding.column
  rw [List.filter_filter]
  split
  · rename_i inside
    apply List.filter_eq_nil_iff.mpr
    intro binding _
    by_cases own : binding.oid = oid
    · simp [own, inside]
    · simp [own]
  · rename_i outside
    apply List.filter_congr
    intro binding _
    by_cases own : binding.oid = oid
    · simp [own, outside]
    · simp [own]

/-- What is carried over holds the columns of the system. -/
theorem column_systemBindings_of_system {oid : Oid} (system : oid ∈ Catalog.system) :
    Binding.column (systemBindings bindings) oid = Binding.column bindings oid := by
  rw [column_systemBindings, if_neg (not_mem_tables_of_system oid system)]

/-- A rescan carries over what was carried over before, whatever the text of its walks. -/
theorem systemBindings_gathered (outlook : Outlook) (host : Ipv4) (bindings : List Binding)
    (text : String) :
    systemBindings (gathered outlook host .tables (systemBindings bindings) text) =
      systemBindings bindings := by
  unfold gathered
  rw [systemBindings_append, systemBindings_systemBindings,
    systemBindings_eq_nil fun _ inside => Binding.oid_mem_of_mem_readAll inside, List.nil_append]

/-- The device that a rescan observes is the one that was known, whatever the text of its walks. -/
theorem device_gathered (outlook : Outlook) (host : Ipv4) (bindings : List Binding)
    (text : String) :
    (observed outlook host (gathered outlook host .tables (systemBindings bindings) text)).device =
      (observed outlook host bindings).device := by
  apply Observation.device_ofBindings_congr
  intro oid inside
  have system := Catalog.ofDevice_subset oid inside
  rw [← column_systemBindings_of_system system, systemBindings_gathered,
    column_systemBindings_of_system system]

/-! ## What a rescan leaves -/

/-- Devices and what is carried over of every known host are as they were. -/
structure SystemKept (now later : Watcher) : Prop where
  /-- The table of devices is the same. -/
  devices : later.store.devices? = now.store.devices?
  /-- The same hosts are known, and of each the same is carried over. -/
  bindings : ∀ host, (later.known.bindingsOf? host).map systemBindings =
    (now.known.bindingsOf? host).map systemBindings

/-- What is not changed is kept. -/
theorem SystemKept.refl (now : Watcher) : SystemKept now now := ⟨rfl, fun _ => rfl⟩

/-- What is kept in two goes is kept. -/
theorem SystemKept.trans {now middle later : Watcher} (first : SystemKept now middle)
    (second : SystemKept middle later) : SystemKept now later :=
  ⟨second.devices.trans first.devices, fun host => (second.bindings host).trans (first.bindings host)⟩

/-- A host that was known still is. -/
theorem SystemKept.mem_addresses {now later : Watcher} (kept : SystemKept now later)
    (isKnown : host ∈ now.known.addresses) : host ∈ later.known.addresses := by
  rw [KnownHosts.mem_addresses, ← Option.isSome_iff_exists] at isKnown ⊢
  rw [← Option.isSome_map (f := systemBindings), kept.bindings, Option.isSome_map]
  exact isKnown

/-- To read the tables of a known host leaves what was said of systems, whether it succeeds or
not. -/
theorem Agrees.systemKept_tables {watcher : Watcher} (agrees : Agrees outlook watcher)
    (isKnown : host ∈ watcher.known.addresses) :
    SystemKept watcher ((Reading.tables host).after outlook watcher) := by
  obtain ⟨tables, stored, agree⟩ := agrees
  obtain ⟨bindings, reported⟩ := KnownHosts.mem_addresses.mp isKnown
  obtain ⟨row, inside, cells⟩ := agree.row_of_bindings reported
  rcases after_of_sound agree.sound stored (.tables host) with
    ⟨store, known⟩ | ⟨fresh, text, whole, store, known⟩
  · refine ⟨?_, fun other => ?_⟩
    · rw [store, stored]
    · rw [known]
  · rw [Reading.plan_tables_of_known reported] at whole
    subst whole
    refine ⟨?_, fun other => ?_⟩
    · rw [store, stored]
      apply congrArg some
      apply agree.sound.devices_takeAll_of_stored inside
      exact cells.trans (congrArg Store.DeviceCells.ofDevice
        (device_gathered outlook host bindings text).symm)
    · rw [known]
      by_cases same : other = host
      · rw [same]
        show ((watcher.known.record host _).bindingsOf? host).map systemBindings = _
        rw [KnownHosts.bindingsOf?_record_self, reported, Option.map_some, Option.map_some]
        exact congrArg some (systemBindings_gathered outlook host bindings text)
      · exact congrArg (Option.map systemBindings) (KnownHosts.bindingsOf?_record_of_ne same)

/-- To read the tables of known hosts leaves what was said of systems. -/
theorem Agrees.systemKept_rescan {watcher : Watcher} (agrees : Agrees outlook watcher)
    {hosts : List Ipv4} (isKnown : ∀ host ∈ hosts, host ∈ watcher.known.addresses) :
    SystemKept watcher ((hosts.map .tables).foldl (Reading.after outlook) watcher) := by
  induction hosts generalizing watcher with
  | nil => exact SystemKept.refl watcher
  | cons host hosts ih =>
    have first := agrees.systemKept_tables (isKnown host List.mem_cons_self)
    have rest := ih (agrees.read (.tables host)) fun other inside =>
      first.mem_addresses (isKnown other (List.mem_cons_of_mem _ inside))
    exact first.trans rest

/-- In every run from a newly opened store, to read the tables of a known host and to rescan all of
them leave the devices and what is carried over of every host, whatever the walks answer and whether
they succeed or not. -/
theorem rescans_keep_systems (outlook : Outlook) (activities : List Activity) (place : String)
    (log : Log.Logger) (traps : TrapBuffer) :
    let now := afterAll outlook activities (opened place log traps)
    (∀ host ∈ now.known.addresses, SystemKept now (result (refreshTables outlook host) now).2) ∧
      SystemKept now ((rescan outlook).run now).value.2 := by
  intro now
  have agrees : Agrees outlook now := agrees_afterAll outlook activities place log traps
  constructor
  · intro host isKnown
    exact agrees.systemKept_tables isKnown
  · have rescanned := (countsReadings_rescan outlook).value_foldlM now.known.addresses 0 now
    have readings : ((rescan outlook).run now).value.2 =
        (now.known.addresses.map .tables).foldl (Reading.after outlook) now :=
      congrArg Prod.snd rescanned
    rw [readings]
    exact agrees.systemKept_rescan fun _ isKnown => isKnown

/-- A switch with one port, which is up or down. -/
def edgeSwitch (isUp : Bool) : Recording where
  text := ""
  outputs := [
    (Oid.localSystemName, ".1.0.8802.1.1.2.1.3.3.0 = STRING: edge\n"),
    (Oid.interfaceIndex, ".1.3.6.1.2.1.2.2.1.1.1 = INTEGER: 1\n"),
    (Oid.interfaceMac, ".1.3.6.1.2.1.2.2.1.6.1 = Hex-STRING: 02 00 00 00 00 01\n"),
    (Oid.interfaceStatus, if isUp then ".1.3.6.1.2.1.2.2.1.8.1 = INTEGER: up(1)\n"
      else ".1.3.6.1.2.1.2.2.1.8.1 = INTEGER: down(2)\n")]
  failing := []

/-- A network of the switch alone. Its port is up while all of the switch is walked once. -/
def edgeNetwork : Outlook where
  answers made := Recording.answers [(⟨10, 0, 0, 1⟩, edgeSwitch (made < 18))] made
  community := "public"
  log := .root

/-- The switch is known after it was read. -/
theorem edgeNetwork_known (store : Store) (traps : TrapBuffer)
    (agrees : Agrees edgeNetwork (start store traps)) : ⟨10, 0, 0, 1⟩ ∈
      (afterAll edgeNetwork [.refresh ⟨10, 0, 0, 1⟩] (start store traps)).known.addresses := by
  rw [afterAll_refresh]
  exact agrees.mem_addresses_of_answered fun _ _ _ => rfl

/-- The port of the switch goes down and its system stays. -/
theorem edgeNetwork_rescan_keeps_system :
    let now := afterAll edgeNetwork [.refresh ⟨10, 0, 0, 1⟩] (opened "edge" .root (.ofCapacity 4))
    ⟨10, 0, 0, 1⟩ ∈ now.known.addresses ∧
      SystemKept now (result (refreshTables edgeNetwork ⟨10, 0, 0, 1⟩) now).2 := by
  have isKnown := edgeNetwork_known _ _ (agrees_opened edgeNetwork "edge" .root (.ofCapacity 4))
  have kept := rescans_keep_systems edgeNetwork [.refresh ⟨10, 0, 0, 1⟩] "edge" .root
    (.ofCapacity 4)
  exact ⟨isKnown, kept.1 ⟨10, 0, 0, 1⟩ isKnown⟩

end CableMap.Watcher
