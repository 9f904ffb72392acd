import CableMap.Binding.Reader
import CableMap.KnownHosts
import CableMap.Observation.Bindings
import CableMap.Store.Record
import CableMap.Trap.Buffer
import CableMap.Walk.Batch

/-!
# Watching over a network

The watcher walks hosts and records what they report in the store. It walks a host in full when
it is first found and whenever the host sends a trap; a rescan reads only the tables of the known
hosts and takes over what they reported of their systems before. A host that fails is reported
and skipped, and leaves the store and the known hosts as they were.
-/
namespace CableMap

/-- What a watcher works with and does not change. -/
structure Outlook where
  /-- The answers of the hosts. -/
  answers : Walk.Answers
  /-- The community that walks name. -/
  community : String
  /-- The logger of the whole program. -/
  log : Log.Logger

/-- What a watcher has gathered. -/
structure Watcher where
  /-- The stored network. -/
  store : Store
  /-- The hosts that were read. -/
  known : KnownHosts
  /-- The traps that wait. -/
  traps : TrapBuffer
  /-- The walks made so far. -/
  walked : Nat

/-- Steps of a watcher that cannot fail. -/
abbrev WatchM (α : Type) := StateT Watcher Traced α

namespace Watcher

/-- A watcher that has not walked yet. -/
def start (store : Store) (traps : TrapBuffer) : Watcher := ⟨store, .empty, traps, 0⟩

/-- The watcher's own logger. -/
def logger (outlook : Outlook) : Log.Logger := outlook.log.unit "poller"

/-- A transaction on the store of the watcher. -/
def transact {α : Type} (transaction : StoreM α) : ExceptT Failure WatchM α :=
  ExceptT.mk do
    let watcher ← get
    let (outcome, store) ← liftM (transaction watcher.store)
    set { watcher with store }
    pure outcome

/-- Make a walk. -/
def ask (outlook : Outlook) (host : Ipv4) (oid : Oid) : ExceptT Failure WatchM String :=
  ExceptT.mk do
    let walk : Walk := ⟨host, outlook.community, oid⟩
    let watcher ← get
    set { watcher with walked := watcher.walked + 1 }
    liftM (Traced.event (.walked walk))
    liftM (outlook.answers watcher.walked walk)

/-- Read a host: walk a catalog, add bindings carried over, and record the observation. -/
def read (outlook : Outlook) (host : Ipv4) (catalog : Catalog) (carried : List Binding)
    (point : Store.Savepoint := .granted) : ExceptT Failure WatchM Store.Recorded := do
  let log := (logger outlook).child "host" (toString host)
  let text ← Walk.batch (ask outlook host) catalog
  unless ← catalog.allMentionedIn text log do
    log.write .warning "not all needed OIDs are implemented on host"
      [⟨"community", outlook.community⟩]
  let bindings := (← Binding.readAll catalog host log text) ++ carried
  let observation ← Observation.ofBindings host bindings log
  let recorded ← transact (Store.record observation log point)
  log.write .debug "reconciled"
    [⟨"ports", toString recorded.ports⟩, ⟨"links", toString recorded.linked⟩,
      ⟨"stale", toString recorded.unlinked⟩]
  modify fun watcher => { watcher with known := watcher.known.record host bindings }
  pure recorded

/-- Read all of a host. -/
def refresh (outlook : Outlook) (host : Ipv4) (point : Store.Savepoint := .granted) :
    ExceptT Failure WatchM Store.Recorded :=
  read outlook host .full [] point

/-- The bindings that a host reported outside its tables. -/
def systemBindings (bindings : List Binding) : List Binding :=
  bindings.filter fun binding => ! Catalog.tables.contains binding.oid

/-- Read the tables of a known host and carry over its system; read all of any other host. -/
def refreshTables (outlook : Outlook) (host : Ipv4) (point : Store.Savepoint := .granted) :
    ExceptT Failure WatchM Store.Recorded := do
  match (← get).known.bindingsOf? host with
  | some bindings => read outlook host .tables (systemBindings bindings) point
  | none => refresh outlook host point

/-- Read one of several hosts, and count it if that succeeded. A failure is reported as one to
do what was meant to be done. -/
def attempt (outlook : Outlook) (purpose : String)
    (readHost : Ipv4 → ExceptT Failure WatchM Store.Recorded) (succeeded : Nat) (host : Ipv4) :
    WatchM Nat := do
  match ← (readHost host).run with
  | .ok _ => pure (succeeded + 1)
  | .error failure =>
    (logger outlook).error s!"failed to {purpose} {host}: {failure.message}"
    pure succeeded

/-- Read hosts that a scan found. The answer is how many could be read. -/
def sweep (outlook : Outlook) (hosts : List Ipv4) : WatchM Nat := do
  let synced ← hosts.foldlM (attempt outlook "sync" (refresh outlook ·)) 0
  (logger outlook).info s!"initial sweep synced {synced} of {hosts.length} hosts"
  pure synced

/-- Take out the traps that wait. -/
def takeTraps : WatchM (List Ipv4) := do
  let watcher ← get
  let (sources, traps) ← liftM (TrapBuffer.drain.run watcher.traps)
  set { watcher with traps }
  pure sources

/-- Read every host whose trap waits, each once, in the order of their first traps. The answer
is how many could be read. -/
def answerTraps (outlook : Outlook) : WatchM Nat := do
  let sources := (← takeTraps).eraseDups
  sources.foldlM (fun refreshed host => do
    (logger outlook).info s!"received SNMP trap from {host}"
    attempt outlook "refresh" (refresh outlook ·) refreshed host) 0

/-- Read the tables of every known host. The answer is how many could be read. -/
def rescan (outlook : Outlook) : WatchM Nat := do
  (← get).known.addresses.foldlM (attempt outlook "rescan" (refreshTables outlook ·)) 0

/-- One round of the watch: the traps that wait, and the rescan if one is due. -/
def round (outlook : Outlook) (rescanDue : Bool) : WatchM Unit := do
  discard (answerTraps outlook)
  if rescanDue then
    let rescanned ← rescan outlook
    (logger outlook).debug s!"rescanned {rescanned} hosts"

/-- The end of the watch. -/
def leave (outlook : Outlook) : WatchM Unit := liftM ((logger outlook).info "poll loop exiting")

/-- Rounds until the program is to stop; each says whether a rescan is due in it. -/
def watch (outlook : Outlook) (rounds : List Bool) : WatchM Unit := do
  rounds.forM (round outlook)
  leave outlook

end Watcher

end CableMap
