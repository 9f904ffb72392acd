import CableMap.Proofs.Store.Operation
import CableMap.Proofs.Watcher.Rollback
import CableMap.Proofs.Watcher.Traps

/-!
# Runs of a watcher

A watcher sweeps the hosts of a scan, reads single hosts, answers the traps that came, and rescans
the known hosts. Each of these is a number of readings of single hosts, one after the other,
whether a reading succeeds or not. So what every reading keeps is kept by every run, and what a
run did is the list of its readings, each with the watcher that made it.
-/
namespace CableMap.Watcher

variable {outlook : Outlook}

/-! ## Readings -/

/-- One reading of a host. -/
inductive Reading
  /-- All of a host. -/
  | whole (host : Ipv4)
  /-- The tables of a host, or all of it if it is not known. -/
  | tables (host : Ipv4)
  deriving DecidableEq

namespace Reading

/-- The host that is read. -/
def host : Reading → Ipv4
  | whole host => host
  | tables host => host

/-- The steps of a reading. -/
def steps (outlook : Outlook) : Reading → ExceptT Failure WatchM Store.Recorded
  | whole host => refresh outlook host
  | tables host => refreshTables outlook host

/-- The watcher after a reading, whether it succeeded or not. -/
def after (outlook : Outlook) (watcher : Watcher) (reading : Reading) : Watcher :=
  (result (reading.steps outlook) watcher).2

/-- What a reading walks and what it carries over from what is known. -/
def plan (known : KnownHosts) : Reading → Catalog × List Binding
  | whole _ => (.full, [])
  | tables host =>
    match known.bindingsOf? host with
    | some bindings => (.tables, systemBindings bindings)
    | none => (.full, [])

/-- To read the tables of a known host carries over what it reported outside them. -/
theorem plan_tables_of_known {known : KnownHosts} {host : Ipv4} {bindings : List Binding}
    (reported : known.bindingsOf? host = some bindings) :
    (tables host).plan known = (.tables, systemBindings bindings) := by
  rw [plan, reported]

/-- A reading is planned in full, or for the tables of a known host. -/
theorem plan_cases (known : KnownHosts) (reading : Reading) :
    reading.plan known = (.full, []) ∨ ∃ bindings, known.bindingsOf? reading.host = some bindings ∧
      reading.plan known = (.tables, systemBindings bindings) := by
  cases reading with
  | whole host => exact .inl rfl
  | tables host =>
    cases reported : known.bindingsOf? host with
    | some bindings => exact .inr ⟨bindings, reported, plan_tables_of_known reported⟩
    | none => exact .inl (by rw [plan, reported])

/-- A reading comes to what reading its plan comes to. -/
theorem result_steps (outlook : Outlook) (reading : Reading) (watcher : Watcher) :
    result (reading.steps outlook) watcher =
      result (read outlook reading.host (reading.plan watcher.known).1
        (reading.plan watcher.known).2) watcher := by
  cases reading with
  | whole host => rfl
  | tables host =>
    cases reported : watcher.known.bindingsOf? host with
    | some bindings =>
      rw [plan_tables_of_known reported]
      exact result_refreshTables_of_known reported
    | none =>
      rw [plan, reported]
      exact result_refreshTables_of_unknown reported

end Reading

/-- A reading of which a walk fails changes nothing but the number of walks. -/
theorem result_read_of_error {host : Ipv4} {catalog : Catalog} {watcher : Watcher}
    {failure : Failure} {walked : Nat}
    (failed : walks outlook host catalog "" watcher.walked = (.error failure, walked))
    (carried : List Binding) :
    result (read outlook host catalog carried) watcher =
      (.error failure, { watcher with walked }) := by
  rw [result_read, failed]

/-- A reading of which no walk fails succeeds on sound tables: it records what was observed and
what was gathered. -/
theorem result_read_of_ok {tables : Store.Tables} (sound : tables.Sound) {host : Ipv4}
    {catalog : Catalog} {watcher : Watcher} {text : String} {walked : Nat}
    (stored : watcher.store = tables.store)
    (ended : walks outlook host catalog "" watcher.walked = (.ok text, walked))
    (carried : List Binding) :
    ∃ recorded, result (read outlook host catalog carried) watcher =
      (.ok recorded, { watcher with
        store := (tables.takeAll (observed outlook host
          (gathered outlook host catalog carried text)).notices).store
        known := watcher.known.record host (gathered outlook host catalog carried text)
        walked }) := by
  obtain ⟨recorded, _, _, came⟩ := Store.result_record sound
    (observed outlook host (gathered outlook host catalog carried text)) (hostLogger outlook host)
  refine ⟨recorded, ?_⟩
  rw [result_read, ended]
  dsimp only
  rw [settle]
  simp only [stored, came]

/-- A reading and the watcher that made it, as it was before. -/
structure Visit where
  /-- The watcher before the reading. -/
  watcher : Watcher
  /-- The reading. -/
  reading : Reading

/-- The reading succeeds. -/
def Visit.succeeds (outlook : Outlook) (visit : Visit) : Bool :=
  (result (visit.reading.steps outlook) visit.watcher).1.isOk

/-- A reading that fails leaves the store and the known hosts. -/
theorem after_of_failed {watcher : Watcher} {reading : Reading}
    (failed : Visit.succeeds outlook ⟨watcher, reading⟩ = false) :
    (reading.after outlook watcher).store = watcher.store ∧
      (reading.after outlook watcher).known = watcher.known := by
  have whole : AllOrNothing (reading.steps outlook) := by
    cases reading with
    | whole host => exact allOrNothing_read Store.Savepoint.granted_ends outlook host .full []
    | tables host => exact allOrNothing_refreshTables Store.Savepoint.granted_ends outlook host
  rcases whole watcher with ⟨recorded, later, ended⟩ | ⟨failure, later, ended, store, known⟩
  · rw [Visit.succeeds, ended] at failed
    cases failed
  · rw [Reading.after, ended]
    exact ⟨store, known⟩

/-- A reading that succeeds walked its catalog and recorded what it gathered. -/
theorem known_of_succeeds {watcher : Watcher} {reading : Reading}
    (succeeded : Visit.succeeds outlook ⟨watcher, reading⟩ = true) :
    ∃ text walked,
      walks outlook reading.host (reading.plan watcher.known).1 "" watcher.walked =
        (.ok text, walked) ∧
      (reading.after outlook watcher).known = watcher.known.record reading.host
        (gathered outlook reading.host (reading.plan watcher.known).1
          (reading.plan watcher.known).2 text) := by
  revert succeeded
  rw [Visit.succeeds, Reading.after, Reading.result_steps, result_read]
  rcases walks outlook reading.host (reading.plan watcher.known).1 "" watcher.walked with
    ⟨failure | text, walked⟩
  · intro succeeded
    cases succeeded
  · dsimp only
    unfold settle
    rcases Store.result (Store.record (observed outlook reading.host
      (gathered outlook reading.host (reading.plan watcher.known).1
        (reading.plan watcher.known).2 text)) (hostLogger outlook reading.host)) watcher.store with
      ⟨failure | recorded, store⟩
    · intro succeeded
      cases succeeded
    · intro succeeded
      exact ⟨text, walked, rfl, rfl⟩

/-- A reading leaves what is known, or records what its host reported. -/
theorem known_after (outlook : Outlook) (watcher : Watcher) (reading : Reading) :
    (reading.after outlook watcher).known = watcher.known ∨ ∃ bindings,
      (reading.after outlook watcher).known = watcher.known.record reading.host bindings := by
  cases outcome : Visit.succeeds outlook ⟨watcher, reading⟩ with
  | true =>
    obtain ⟨text, walked, _, recorded⟩ := known_of_succeeds outcome
    exact .inr ⟨_, recorded⟩
  | false => exact .inl (after_of_failed outcome).2

/-- On sound tables a reading succeeds exactly if its walks do. -/
theorem succeeds_of_sound {tables : Store.Tables} (sound : tables.Sound) {watcher : Watcher}
    (stored : watcher.store = tables.store) (reading : Reading) :
    Visit.succeeds outlook ⟨watcher, reading⟩ =
      (walks outlook reading.host (reading.plan watcher.known).1 "" watcher.walked).1.isOk := by
  rw [Visit.succeeds, Reading.result_steps]
  rcases ended : walks outlook reading.host (reading.plan watcher.known).1 "" watcher.walked with
    ⟨failure | text, walked⟩
  · rw [result_read_of_error ended]
    rfl
  · obtain ⟨recorded, came⟩ := result_read_of_ok sound stored ended (reading.plan watcher.known).2
    rw [came]
    rfl

/-- On sound tables a reading leaves the store and the known hosts, or records the same bindings in
both. -/
theorem after_of_sound {tables : Store.Tables} (sound : tables.Sound) {watcher : Watcher}
    (stored : watcher.store = tables.store) (reading : Reading) :
    ((reading.after outlook watcher).store = tables.store ∧
        (reading.after outlook watcher).known = watcher.known) ∨
      ∃ bindings text,
        bindings = gathered outlook reading.host (reading.plan watcher.known).1
          (reading.plan watcher.known).2 text ∧
        (reading.after outlook watcher).store =
          (tables.takeAll (observed outlook reading.host bindings).notices).store ∧
        (reading.after outlook watcher).known = watcher.known.record reading.host bindings := by
  rw [Reading.after, Reading.result_steps]
  rcases ended : walks outlook reading.host (reading.plan watcher.known).1 "" watcher.walked with
    ⟨failure | text, walked⟩
  · rw [result_read_of_error ended]
    exact .inl ⟨stored, rfl⟩
  · obtain ⟨recorded, came⟩ := result_read_of_ok sound stored ended (reading.plan watcher.known).2
    rw [came]
    exact .inr ⟨_, text, rfl, rfl, rfl⟩

/-- Readings one after the other, each with the watcher that made it. -/
def visitsOf (outlook : Outlook) : List Reading → Watcher → List Visit
  | [], _ => []
  | reading :: readings, watcher =>
    ⟨watcher, reading⟩ :: visitsOf outlook readings (reading.after outlook watcher)

/-- The steps make a reading of a host and count it if it succeeds. -/
def CountsReadings (outlook : Outlook) (reading : Ipv4 → Reading)
    (visit : Nat → Ipv4 → WatchM Nat) : Prop :=
  ∀ succeeded host watcher, ((visit succeeded host).run watcher).value =
    (if Visit.succeeds outlook ⟨watcher, reading host⟩ then succeeded + 1 else succeeded,
      (reading host).after outlook watcher)

/-- To sync a host is to read it in full and to count it if that succeeds. -/
theorem countsReadings_sync (outlook : Outlook) :
    CountsReadings outlook .whole (attempt outlook "sync" (refresh outlook ·)) :=
  value_attempt outlook "sync" (refresh outlook ·)

/-- To answer a trap is to read its host in full and to count it if that succeeds. -/
theorem countsReadings_answerTrap (outlook : Outlook) :
    CountsReadings outlook .whole (Moment.answerTrap outlook) :=
  value_answerTrap outlook

/-- To rescan a host is to read its tables and to count it if that succeeds. -/
theorem countsReadings_rescan (outlook : Outlook) :
    CountsReadings outlook .tables (attempt outlook "rescan" (refreshTables outlook ·)) :=
  value_attempt outlook "rescan" (refreshTables outlook ·)

/-- To read some hosts comes to how many of the readings succeed and to the watcher after them. -/
theorem CountsReadings.value_foldlM {reading : Ipv4 → Reading} {visit : Nat → Ipv4 → WatchM Nat}
    (counts : CountsReadings outlook reading visit) (hosts : List Ipv4) (succeeded : Nat)
    (watcher : Watcher) :
    ((hosts.foldlM visit succeeded).run watcher).value =
      (succeeded + (visitsOf outlook (hosts.map reading) watcher).countP (·.succeeds outlook),
        (hosts.map reading).foldl (Reading.after outlook) watcher) := by
  induction hosts generalizing succeeded watcher with
  | nil => rfl
  | cons host hosts ih =>
    rw [List.foldlM_cons, StateT.run_bind, Traced.value_bind, counts, ih, List.map_cons, visitsOf,
      List.countP_cons, List.foldl_cons]
    dsimp only
    split
    · rw [Nat.add_assoc, Nat.add_comm 1]
    · rfl

/-! ## Activities -/

/-- What a watcher is asked to do, and a trap that comes. -/
inductive Activity
  /-- Read the hosts that a scan found. -/
  | sweep (hosts : List Ipv4)
  /-- Read all of a host. -/
  | refresh (host : Ipv4)
  /-- Read the tables of a host. -/
  | refreshTables (host : Ipv4)
  /-- Read every host whose trap waits. -/
  | answerTraps
  /-- Read the tables of every known host. -/
  | rescan
  /-- A trap comes. -/
  | push (source : Ipv4) (log : Log.Logger)

namespace Activity

/-- The steps of an activity. -/
def perform (outlook : Outlook) : Activity → WatchM Unit
  | sweep hosts => discard (Watcher.sweep outlook hosts)
  | refresh host => discard (Watcher.refresh outlook host).run
  | refreshTables host => discard (Watcher.refreshTables outlook host).run
  | answerTraps => discard (Watcher.answerTraps outlook)
  | rescan => discard (Watcher.rescan outlook)
  | push source log => do
    let watcher ← get
    let (_, traps) ← liftM ((TrapBuffer.push source log).run watcher.traps)
    set { watcher with traps }

/-- The watcher after an activity, whether it failed or not. -/
def after (outlook : Outlook) (watcher : Watcher) (activity : Activity) : Watcher :=
  ((activity.perform outlook).run watcher).value.2

/-- The readings that an activity comes to. -/
def readings (watcher : Watcher) : Activity → List Reading
  | sweep hosts => hosts.map .whole
  | refresh host => [.whole host]
  | refreshTables host => [.tables host]
  | answerTraps => watcher.traps.waiting.toList.eraseDups.map .whole
  | rescan => watcher.known.addresses.map .tables
  | push _ _ => []

/-- The traps that wait when the readings of an activity begin. -/
def waiting (traps : TrapBuffer) : Activity → TrapBuffer
  | answerTraps => { traps with waiting := #[] }
  | push source _ => traps.afterPush source
  | _ => traps

end Activity

/-- A watcher that begins with a newly opened store. -/
def opened (place : String) (log : Log.Logger) (traps : TrapBuffer) : Watcher :=
  .start (Store.after (Store.openAt place log) ⟨none, none, none⟩) traps

/-- The watcher after some activities. -/
def afterAll (outlook : Outlook) (activities : List Activity) (watcher : Watcher) : Watcher :=
  activities.foldl (Activity.after outlook) watcher

/-- An activity comes to its readings. -/
theorem Activity.after_eq (outlook : Outlook) (activity : Activity) (watcher : Watcher) :
    activity.after outlook watcher =
      (activity.readings watcher).foldl (Reading.after outlook)
        { watcher with traps := activity.waiting watcher.traps } := by
  cases activity with
  | sweep hosts =>
    exact congrArg Prod.snd ((countsReadings_sync outlook).value_foldlM hosts 0 watcher)
  | refresh host => rfl
  | refreshTables host => rfl
  | answerTraps =>
    exact congrArg Prod.snd ((countsReadings_answerTrap outlook).value_foldlM
      watcher.traps.waiting.toList.eraseDups 0
      { watcher with traps := { watcher.traps with waiting := #[] } })
  | rescan =>
    exact congrArg Prod.snd
      ((countsReadings_rescan outlook).value_foldlM watcher.known.addresses 0 watcher)
  | push source log =>
    show { watcher with traps := ((TrapBuffer.push source log).run watcher.traps).value.2 } = _
    rw [value_push]
    rfl

/-- To read all of one host is one reading. -/
theorem afterAll_refresh (outlook : Outlook) (host : Ipv4) (watcher : Watcher) :
    afterAll outlook [.refresh host] watcher = (Reading.whole host).after outlook watcher := rfl

/-! ## The readings of a run -/

/-- The readings that some activities come to. -/
def visits (outlook : Outlook) : List Activity → Watcher → List Visit
  | [], _ => []
  | activity :: activities, watcher =>
    visitsOf outlook (activity.readings watcher)
        { watcher with traps := activity.waiting watcher.traps } ++
      visits outlook activities (activity.after outlook watcher)

/-- A watcher comes from another by readings, between which the traps that wait may change. -/
inductive Reaches (outlook : Outlook) (start : Watcher) : List Visit → Watcher → Prop
  /-- Nothing was read. -/
  | start : Reaches outlook start [] start
  /-- The traps that wait change. -/
  | traps {made : List Visit} {now : Watcher} (reached : Reaches outlook start made now)
      (traps : TrapBuffer) : Reaches outlook start made { now with traps }
  /-- A host is read. -/
  | read {made : List Visit} {now : Watcher} (reached : Reaches outlook start made now)
      (reading : Reading) :
      Reaches outlook start (made ++ [⟨now, reading⟩]) (reading.after outlook now)

/-- Readings one after the other lead on from wherever they start. -/
theorem Reaches.readAll {start now : Watcher} {made : List Visit}
    (reached : Reaches outlook start made now) (readings : List Reading) :
    Reaches outlook start (made ++ visitsOf outlook readings now)
      (readings.foldl (Reading.after outlook) now) := by
  induction readings generalizing made now with
  | nil =>
    rw [visitsOf, List.append_nil]
    exact reached
  | cons reading readings ih =>
    rw [visitsOf, List.append_cons]
    exact ih (reached.read reading)

/-- Activities one after the other lead on from wherever they start. -/
theorem Reaches.afterAll {start now : Watcher} {made : List Visit}
    (reached : Reaches outlook start made now) (activities : List Activity) :
    Reaches outlook start (made ++ visits outlook activities now)
      (afterAll outlook activities now) := by
  induction activities generalizing made now with
  | nil =>
    rw [visits, List.append_nil]
    exact reached
  | cons activity activities ih =>
    have first := (reached.traps (activity.waiting now.traps)).readAll (activity.readings now)
    rw [← Activity.after_eq] at first
    rw [visits, ← List.append_assoc]
    exact ih first

/-- A run comes from its start by its readings. -/
theorem reaches_afterAll (outlook : Outlook) (activities : List Activity) (start : Watcher) :
    Reaches outlook start (visits outlook activities start) (afterAll outlook activities start) :=
  Reaches.start.afterAll activities

/-- Whatever is read leaves sound tables. -/
theorem Reaches.sound {start now : Watcher} {made : List Visit}
    (reached : Reaches outlook start made now)
    (begun : ∃ tables : Store.Tables, tables.Sound ∧ start.store = tables.store) :
    ∃ tables : Store.Tables, tables.Sound ∧ now.store = tables.store := by
  induction reached with
  | start => exact begun
  | traps _ _ ih => exact ih
  | read _ reading ih =>
    obtain ⟨tables, sound, stored⟩ := ih
    rcases after_of_sound sound stored reading with ⟨store, _⟩ | ⟨_, _, _, store, _⟩
    · exact ⟨tables, sound, store⟩
    · exact ⟨_, sound.takeAll _, store⟩

end CableMap.Watcher
