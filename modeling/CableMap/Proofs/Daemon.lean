import CableMap.Daemon
import CableMap.Proofs.Scan
import CableMap.Proofs.Store.Retain
import CableMap.Proofs.Watcher.Run

/-!
# What a run does to a database

A run that finds no host leaves the database. Otherwise it forgets what the database holds, numbers
included, before it stores anything, so nothing that comes after depends on it; or it is told to
keep the database, and then nothing that the watch does takes a device or a port away.
-/
namespace CableMap

/-! ## Steps of a watcher -/

namespace Watcher

variable {α β : Type} {outlook : Outlook}

/-- Steps of a watcher take no device and no port out of the store. -/
def Retaining (steps : WatchM α) : Prop :=
  ∀ watcher : Watcher, Store.Retains watcher.store (steps.run watcher).value.2.store

/-- To answer with a value takes nothing out of the store. -/
theorem retaining_pure (value : α) : Retaining (pure value : WatchM α) :=
  fun watcher => .refl watcher.store

/-- To look at the watcher takes nothing out of its store. -/
theorem retaining_get : Retaining (get : WatchM Watcher) := fun watcher => .refl watcher.store

/-- What is only computed and logged leaves the store. -/
theorem retaining_liftM (traced : Traced α) : Retaining (liftM traced : WatchM α) :=
  fun watcher => .refl watcher.store

/-- Steps behind steps take nothing away if neither do. -/
theorem Retaining.bind {first : WatchM α} {next : α → WatchM β} (starts : Retaining first)
    (goesOn : ∀ value, Retaining (next value)) : Retaining (first >>= next) :=
  fun watcher => (starts watcher).trans (goesOn _ _)

/-- Steps of which the value is let go take no more away than with it. -/
theorem Retaining.discard {steps : WatchM α} (holds : Retaining steps) :
    Retaining (discard steps) :=
  holds

/-- Steps for one item after the other take nothing away if those for each item do not. -/
theorem Retaining.foldlM {visit : β → α → WatchM β}
    (visits : ∀ sofar item, Retaining (visit sofar item)) (items : List α) (start : β) :
    Retaining (items.foldlM visit start) := by
  induction items generalizing start with
  | nil => exact retaining_pure start
  | cons item items ih =>
    rw [List.foldlM_cons]
    exact (visits start item).bind ih

/-- A reading takes no device and no port out of the store. -/
theorem Reading.retains_after (outlook : Outlook) (reading : Reading) (watcher : Watcher) :
    Store.Retains watcher.store (reading.after outlook watcher).store := by
  rw [Reading.after, result_steps, result_read]
  rcases walks outlook reading.host (reading.plan watcher.known).1 "" watcher.walked with
    ⟨failure | text, walked⟩
  · exact .refl watcher.store
  · have retained := Store.retaining_record
      (observed outlook reading.host (gathered outlook reading.host (reading.plan watcher.known).1
        (reading.plan watcher.known).2 text)) (hostLogger outlook reading.host) watcher.store
    unfold Store.after at retained
    dsimp only
    unfold settle
    split
    · rename_i ended
      rw [ended] at retained
      exact retained
    · rename_i ended
      rw [ended] at retained
      exact retained

/-- To attempt a reading takes nothing away, whether it succeeds or fails. -/
theorem CountsReadings.retaining {reading : Ipv4 → Reading} {visit : Nat → Ipv4 → WatchM Nat}
    (counts : CountsReadings outlook reading visit) (succeeded : Nat) (host : Ipv4) :
    Retaining (visit succeeded host) := by
  intro watcher
  rw [counts succeeded host watcher]
  exact (reading host).retains_after outlook watcher

/-- To sweep over hosts takes nothing out of the store. -/
theorem retaining_sweep (outlook : Outlook) (hosts : List Ipv4) :
    Retaining (sweep outlook hosts) := by
  apply (Retaining.foldlM (countsReadings_sync outlook).retaining hosts 0).bind
  intro synced
  exact (retaining_liftM _).bind fun _ => retaining_pure synced

/-- To take out the traps that wait does not touch the store. -/
theorem retaining_takeTraps : Retaining takeTraps := fun watcher => .refl watcher.store

/-- To answer traps takes nothing out of the store. -/
theorem retaining_answerTraps (outlook : Outlook) : Retaining (answerTraps outlook) := by
  apply retaining_takeTraps.bind
  intro sources
  exact .foldlM (countsReadings_answerTrap outlook).retaining sources.eraseDups 0

/-- To rescan the known hosts takes nothing out of the store. -/
theorem retaining_rescan (outlook : Outlook) : Retaining (rescan outlook) :=
  fun watcher => Retaining.foldlM (countsReadings_rescan outlook).retaining
    watcher.known.addresses 0 watcher

/-- A round, with or without a rescan, takes nothing out of the store. -/
theorem retaining_round (outlook : Outlook) (rescanDue : Bool) :
    Retaining (round outlook rescanDue) := by
  apply (retaining_answerTraps outlook).discard.bind
  intro _
  split
  · exact (retaining_rescan outlook).bind fun _ => retaining_liftM _
  · exact retaining_pure ()

end Watcher

/-! ## The steps of a run -/

namespace Daemon

open Watcher (Retaining retaining_pure retaining_liftM)

variable {surroundings : Surroundings} {tools : Tools} {options : RunOptions} {log : Log.Logger}

/-- To hear what the trap daemon printed does not touch the store. -/
theorem retaining_hear (printed : List UInt8) (progress : TrapBuffer.Progress)
    (log : Log.Logger) : Retaining (hear printed progress log) := by
  intro watcher
  unfold hear
  split
  · exact .refl watcher.store
  · exact .refl watcher.store

/-- A round with what is heard in it takes nothing out of the store. -/
theorem retaining_attend (outlook : Outlook) (progress : TrapBuffer.Progress) (round : Round) :
    Retaining (attend outlook progress round) := by
  apply (retaining_hear round.printed progress outlook.log).bind
  intro progress
  exact (Watcher.retaining_round outlook round.rescanDue).bind fun _ => retaining_pure progress

/-- To listen until the program is to stop takes nothing out of the store. -/
theorem retaining_listen (surroundings : Surroundings) (tools : Tools) (options : RunOptions)
    (log : Log.Logger) : Retaining (listen surroundings tools options log) := by
  unfold listen
  apply Watcher.retaining_get.bind
  intro now
  apply (retaining_liftM _).bind
  intro started
  cases started with
  | ok printed => exact retaining_pure _
  | error failure =>
    apply (retaining_liftM _).bind
    exact fun _ => (retaining_liftM _).bind fun _ => retaining_pure _

/-- The whole watch, from the first sweep to its end, takes nothing out of the store. -/
theorem retaining_watch (surroundings : Surroundings) (tools : Tools) (options : RunOptions)
    (log : Log.Logger) (hosts : List Ipv4) :
    Retaining (watch surroundings tools options log hosts) := by
  unfold watch
  apply (Watcher.retaining_sweep _ hosts).discard.bind
  intro _
  apply (retaining_listen surroundings tools options log).bind
  intro start
  apply (Retaining.foldlM (retaining_attend _) surroundings.rounds start).bind
  intro last
  apply (retaining_liftM _).bind
  intro _
  split
  · apply (retaining_liftM _).bind
    intro _
    exact (retaining_liftM _).bind fun _ => retaining_liftM _
  · exact retaining_pure ()

/-! ## What a run comes to -/

variable {α β : Type}

/-- What steps of a run come to: their outcome and the database after them. -/
def result (steps : RunM α) (database? : Option Store) : Except Failure α × Option Store :=
  (steps database?).value

/-- A run that succeeds is followed by the next from where it ended. -/
theorem result_bind_ok {first : RunM α} {next : α → RunM β} {database? middle? : Option Store}
    {value : α} (succeeded : result first database? = (.ok value, middle?)) :
    result (first >>= next) database? = result (next value) middle? :=
  Traced.value_bind_ok succeeded

/-- A run that fails is followed by nothing. -/
theorem result_bind_error {first : RunM α} {next : α → RunM β} {database? middle? : Option Store}
    {failure : Failure} (failed : result first database? = (.error failure, middle?)) :
    result (first >>= next) database? = (.error failure, middle?) :=
  Traced.value_bind_error failed

/-- A transaction on a database that is there. -/
theorem result_transact (transaction : StoreM α) (store : Store) :
    result (transact transaction) (some store) =
      ((Store.result transaction store).1, some (Store.result transaction store).2) := rfl

/-- The hosts of a run are those of its scan. -/
theorem value_findHosts (surroundings : Surroundings) (tools : Tools) (options : RunOptions)
    (log : Log.Logger) :
    (findHosts surroundings tools options log).run.value =
      (tools.scan (surroundings.programs 0) options.target options.community log).value := by
  let scanned := tools.scan (surroundings.programs 0) options.target options.community log
  let told := fun hosts : List Ipv4 => (do
    log.write .info s!"finished network scan, found {hosts.length} SNMP devices"
      [⟨"community", options.community⟩]
    pure hosts : ExceptT Failure Traced (List Ipv4))
  show ((ExceptT.mk scanned >>= told).run).value = scanned.value
  rw [ExceptT.run_bind, Traced.value_bind, ExceptT.run_mk]
  cases scanned.value with
  | error failure => rfl
  | ok hosts => rfl

/-- The scan of a run finds a host. -/
def FindsHost (surroundings : Surroundings) (tools : Tools) (options : RunOptions) : Prop :=
  ∃ host, tools.Finds (surroundings.programs 0) options.target options.community host

/-- A run that finds a host goes on with some hosts. -/
theorem exists_hosts_of_finds (finds : FindsHost surroundings tools options) (log : Log.Logger) :
    ∃ hosts, (findHosts surroundings tools options log).run.value = .ok hosts ∧
      hosts.isEmpty = false := by
  obtain ⟨host, found⟩ := finds
  have ⟨hosts, scanned, inside⟩ : ∃ hosts, (tools.scan (surroundings.programs 0) options.target
      options.community log).value = .ok hosts ∧ host ∈ hosts := Tools.mem_scan_iff.2 found
  refine ⟨hosts, (value_findHosts surroundings tools options log).trans scanned, ?_⟩
  cases hosts with
  | nil => cases inside
  | cons first rest => rfl

/-- A run that finds no host ends with the failure of the scan, or without a host to go on with. -/
theorem no_hosts_of_not_finds (finds : ¬ FindsHost surroundings tools options) (log : Log.Logger) :
    (∃ failure, (findHosts surroundings tools options log).run.value = .error failure) ∨
      (findHosts surroundings tools options log).run.value = .ok [] := by
  rw [value_findHosts]
  cases scanned :
      (tools.scan (surroundings.programs 0) options.target options.community log).value with
  | error failure => exact .inl ⟨failure, rfl⟩
  | ok hosts =>
    cases hosts with
    | nil => exact .inr rfl
    | cons host hosts =>
      exact absurd ⟨host, Tools.mem_scan_iff.1 ⟨_, scanned, List.mem_cons_self⟩⟩ finds

/-! ## The database -/

/-- To find hosts leaves the database. -/
theorem result_liftM_run (found : ExceptT Failure Traced (List Ipv4)) (database? : Option Store) :
    result (ExceptT.mk (liftM found.run)) database? = (found.run.value, database?) := rfl

/-- To find hosts logs what the finding logs. -/
theorem events_liftM_run (found : ExceptT Failure Traced (List Ipv4)) (database? : Option Store) :
    ((ExceptT.mk (liftM found.run) : RunM (List Ipv4)) database?).events = found.run.events :=
  List.append_nil _

/-- A run that finds no host leaves the database. -/
theorem result_run_of_not_finds (finds : ¬ FindsHost surroundings tools options)
    (log : Log.Logger) (database? : Option Store) :
    (result (run surroundings tools options log) database?).2 = database? := by
  have searched := result_liftM_run (findHosts surroundings tools options log) database?
  rcases no_hosts_of_not_finds finds log with ⟨failure, found⟩ | found
  · rw [found] at searched
    unfold run
    rw [result_bind_error searched]
  · rw [found] at searched
    unfold run
    rw [result_bind_ok searched]
    rfl

/-- A run that finds hosts opens the database and watches. -/
theorem run_of_hosts {hosts : List Ipv4}
    (found : (findHosts surroundings tools options log).run.value = .ok hosts)
    (some : hosts.isEmpty = false) (database? : Option Store) :
    let entered : RunM Unit := do
      openDatabase options log
      watchDatabase surroundings tools options log hosts
    run surroundings tools options log database? =
      ⟨(entered database?).value,
        (findHosts surroundings tools options log).run.events ++ (entered database?).events⟩ := by
  intro entered
  have searched := result_liftM_run (findHosts surroundings tools options log) database?
  rw [found] at searched
  have value : (run surroundings tools options log database?).value =
      (entered database?).value := by
    unfold run
    rw [Traced.value_bind_ok searched, if_neg (by rw [some]; exact Bool.false_ne_true)]
  have events : (run surroundings tools options log database?).events =
      (findHosts surroundings tools options log).run.events ++ (entered database?).events := by
    unfold run
    rw [Traced.events_bind_ok searched, if_neg (by rw [some]; exact Bool.false_ne_true),
      events_liftM_run]
  rw [← value, ← events]

/-- What opening makes of a database that is not to be kept does not depend on it. -/
theorem openDatabase_congr (forgets : options.keepDatabase = false) (log : Log.Logger)
    (left right : Option Store) :
    openDatabase options log left = openDatabase options log right := by
  unfold openDatabase
  rw [forgets]
  rfl

/-- A run that finds a host and does not keep the database does not depend on it. -/
theorem run_congr (finds : FindsHost surroundings tools options)
    (forgets : options.keepDatabase = false) (log : Log.Logger) (left right : Option Store) :
    run surroundings tools options log left = run surroundings tools options log right := by
  obtain ⟨hosts, found, some⟩ := exists_hosts_of_finds finds log
  have opened := openDatabase_congr forgets log left right
  rw [run_of_hosts found some left, run_of_hosts found some right, Traced.bind_congr opened]

/-- Steps of a run leave a database that is there with its devices and its ports. -/
def Keeping (steps : RunM α) : Prop :=
  ∀ store, ∃ later, (result steps (some store)).2 = some later ∧ Store.Retains store later

/-- To answer with a value leaves the database. -/
theorem keeping_pure (value : α) : Keeping (pure value : RunM α) :=
  fun store => ⟨store, rfl, .refl store⟩

/-- A run behind a run leaves the database if both do. -/
theorem Keeping.bind {first : RunM α} {next : α → RunM β} (starts : Keeping first)
    (goesOn : ∀ value, Keeping (next value)) : Keeping (first >>= next) := by
  intro store
  obtain ⟨middle, stands, retains⟩ := starts store
  rcases ended : result first (some store) with ⟨failure | value, middle?⟩
  · rw [ended] at stands
    rw [result_bind_error ended]
    exact ⟨middle, stands, retains⟩
  · rw [ended] at stands
    have stands : middle? = some middle := stands
    rw [result_bind_ok ended, stands]
    obtain ⟨later, rest, more⟩ := goesOn value middle
    exact ⟨later, rest, retains.trans more⟩

/-- A transaction that takes nothing away leaves the database as a part of a run. -/
theorem keeping_transact {transaction : StoreM α} (holds : Store.Retaining transaction) :
    Keeping (transact transaction) := by
  intro store
  rw [result_transact]
  exact ⟨_, rfl, holds store⟩

/-- To open the store makes tables that are missing and takes nothing away. -/
theorem retaining_openAt (place : String) (log : Log.Logger) :
    Store.Retaining (Store.openAt place log) :=
  (Store.retaining_liftM _).bind fun _ => Store.retaining_createTables

/-- To open the database leaves what is in it where that is asked for. -/
theorem keeping_openDatabase (keeps : options.keepDatabase = true) (log : Log.Logger) :
    Keeping (openDatabase options log) := by
  apply (keeping_transact (retaining_openAt options.database log)).bind
  intro _
  rw [keeps]
  exact keeping_pure ()

/-- To sum up what is stored changes nothing. -/
theorem retaining_sumUp (known : KnownHosts) (log : Log.Logger) :
    Store.Retaining (sumUp known log) := by
  apply (Store.retaining_ask _).bind
  intro devices
  apply (Store.retaining_ask _).bind
  intro ports
  apply (Store.retaining_ask _).bind
  intro links
  exact Store.retaining_liftM _

/-- What a run comes to once it watches is what it logs at its end, with the store that the watch
leaves. -/
theorem result_watchDatabase (surroundings : Surroundings) (tools : Tools) (options : RunOptions)
    (log : Log.Logger) (hosts : List Ipv4) (store : Store) :
    let traps := TrapBuffer.ofCapacity (options.trapCapacity?.getD standardTrapCapacity)
    let watcher := ((watch surroundings tools options log hosts).run
      (Watcher.start store traps)).value.2
    result (watchDatabase surroundings tools options log hosts) (some store) =
      result (transact (sumUp watcher.known log)) (some watcher.store) := by
  unfold watchDatabase
  -- What is watched plays no part, so it is not looked into.
  generalize watch surroundings tools options log hosts = watched
  rfl

/-- To watch over a database leaves its devices and ports. -/
theorem keeping_watchDatabase (surroundings : Surroundings) (tools : Tools) (options : RunOptions)
    (log : Log.Logger) (hosts : List Ipv4) :
    Keeping (watchDatabase surroundings tools options log hosts) := by
  intro store
  let traps := TrapBuffer.ofCapacity (options.trapCapacity?.getD standardTrapCapacity)
  let watcher := ((watch surroundings tools options log hosts).run
    (Watcher.start store traps)).value.2
  have watched : Store.Retains store watcher.store :=
    retaining_watch surroundings tools options log hosts (Watcher.start store traps)
  obtain ⟨later, stands, retains⟩ :=
    keeping_transact (retaining_sumUp watcher.known log) watcher.store
  rw [result_watchDatabase]
  exact ⟨later, stands, watched.trans retains⟩

/-- A run that keeps a database leaves it with its devices and its ports. -/
theorem keeping_run (keeps : options.keepDatabase = true) (log : Log.Logger) :
    Keeping (run surroundings tools options log) := by
  intro store
  by_cases finds : FindsHost surroundings tools options
  · obtain ⟨hosts, found, some⟩ := exists_hosts_of_finds finds log
    unfold result
    rw [run_of_hosts found some]
    have entered : Keeping (do
        openDatabase options log
        watchDatabase surroundings tools options log hosts) :=
      (keeping_openDatabase keeps log).bind fun _ =>
        keeping_watchDatabase surroundings tools options log hosts
    exact entered store
  · exact ⟨store, result_run_of_not_finds finds log (some store), .refl store⟩

/-- How a run treats a database. -/
structure Treats (surroundings : Surroundings) (tools : Tools) (options : RunOptions)
    (log : Log.Logger) : Prop where
  /-- Where the scan fails or finds no host, the database is left as it was. -/
  untouched : ¬ FindsHost surroundings tools options → ∀ database?,
    (result (run surroundings tools options log) database?).2 = database?
  /-- Where a host is found and the database is not to be kept, how the run ends, the database
  after it, and all that can be seen of it are the same whatever the database was before. -/
  forgotten : FindsHost surroundings tools options → options.keepDatabase = false →
    ∀ left right, run surroundings tools options log left = run surroundings tools options log right
  /-- A database that is to be kept keeps its devices and its ports under their numbers. -/
  kept : options.keepDatabase = true → ∀ store, ∃ later,
    (result (run surroundings tools options log) (some store)).2 = some later ∧
      Store.Retained store later

/-- Whatever the programs do and whenever traps come, rescans are due and the run is told to stop,
a database is left, forgotten or kept. -/
theorem treats_database (surroundings : Surroundings) (tools : Tools) (options : RunOptions)
    (log : Log.Logger) : Treats surroundings tools options log where
  untouched finds := result_run_of_not_finds finds log
  forgotten finds forgets := run_congr finds forgets log
  kept keeps store := by
    obtain ⟨later, stands, retains⟩ := keeping_run keeps log store
    exact ⟨later, stands, retains.retained⟩

end Daemon

end CableMap
