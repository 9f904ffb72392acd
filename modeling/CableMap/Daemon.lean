import CableMap.Command
import CableMap.Tools
import CableMap.Watcher

/-!
# A run of the daemon

The daemon scans its target, opens the database if the scan found hosts, empties it unless it is
to be kept, walks every host found, and then watches: it listens for traps and answers them round
by round until it is told to stop. What it meets from outside, the programs and the timing, is
given with the run.
-/
namespace CableMap

/-- One round of a run. -/
structure Round where
  /-- What the trap daemon printed since the round before. -/
  printed : List UInt8
  /-- A rescan is due. -/
  rescanDue : Bool

/-- What a run meets from outside. -/
structure Surroundings where
  /-- What the programs do, when so many walks were made. -/
  programs : Nat → Programs
  /-- The rounds until the daemon is told to stop. -/
  rounds : List Round

/-- Steps of a run: they may fail, may log, and change the database if there is one. -/
abbrev RunM (α : Type) := ExceptT Failure (StateT (Option Store) Traced) α

namespace Daemon

/-- The most traps that wait unless the command line says otherwise. -/
def standardTrapCapacity : Nat := 1000

/-- The answers of the walker. -/
def answers (surroundings : Surroundings) (tools : Tools) (log : Log.Logger) : Walk.Answers :=
  fun walked walk => tools.walk (surroundings.programs walked) walk log

/-- Find the hosts of the target. -/
def findHosts (surroundings : Surroundings) (tools : Tools) (options : RunOptions)
    (log : Log.Logger) : ExceptT Failure Traced (List Ipv4) := do
  log.info s!"starting network scan of {options.target}"
  let hosts ← ExceptT.mk
    (tools.scan (surroundings.programs 0) options.target options.community log)
  log.write .info s!"finished network scan, found {hosts.length} SNMP devices"
    [⟨"community", options.community⟩]
  pure hosts

/-- A transaction on the database, which is made if there is none. -/
def transact {α : Type} (transaction : StoreM α) : RunM α :=
  ExceptT.mk fun database? => do
    let (outcome, store) ← transaction (database?.getD .empty)
    pure (outcome, some store)

/-- Open the database, and empty it unless it is to be kept. -/
def openDatabase (options : RunOptions) (log : Log.Logger) : RunM Unit := do
  transact (Store.openAt options.database log)
  unless options.keepDatabase do transact (Store.reset log)

/-- Read what the trap daemon printed since its lines were read last, unless the reading has
stopped. -/
def hear (printed : List UInt8) (progress : TrapBuffer.Progress) (log : Log.Logger) :
    WatchM TrapBuffer.Progress := do
  if progress.goesOn then
    let watcher ← get
    let lines := Text.linesOf 10 13 printed
    let (progress, traps) ←
      liftM ((TrapBuffer.readLines log progress.queued lines).run watcher.traps)
    set { watcher with traps }
    pure progress
  else pure progress

/-- One round: hear what was printed, then answer the traps that wait. -/
def attend (outlook : Outlook) (progress : TrapBuffer.Progress) (round : Round) :
    WatchM TrapBuffer.Progress := do
  let progress ← hear round.printed progress outlook.log
  Watcher.round outlook round.rescanDue
  pure progress

/-- Start to listen for traps. Without the trap daemon the watch goes on all the same. -/
def listen (surroundings : Surroundings) (tools : Tools) (options : RunOptions)
    (log : Log.Logger) : WatchM TrapBuffer.Progress := do
  let programs := surroundings.programs (← get).walked
  match ← tools.listen programs options.community options.stateDirectory log with
  | .ok _ => pure ⟨0, true⟩
  | .error failure =>
    log.error s!"failed to start trap listener: {failure.message}"
    log.warning "hosts will not be refreshed on traps"
    pure ⟨0, false⟩

/-- Walk the hosts, and watch until the daemon is told to stop. -/
def watch (surroundings : Surroundings) (tools : Tools) (options : RunOptions)
    (log : Log.Logger) (hosts : List Ipv4) : WatchM Unit := do
  let outlook : Outlook := ⟨answers surroundings tools log, options.community, log⟩
  discard (Watcher.sweep outlook hosts)
  let start ← listen surroundings tools options log
  let last ← surroundings.rounds.foldlM (attend outlook) start
  Watcher.leave outlook
  if start.goesOn then
    log.debug "waiting for trap reader"
    (log.unit "trap-reader").info s!"trap reader exiting after {last.queued} traps"
    log.debug s!"trap reader queued {last.queued} traps"

/-- Log what the daemon leaves behind. -/
def sumUp (known : KnownHosts) (log : Log.Logger) : StoreM Unit := do
  let devices ← Store.ask (·.devices)
  let ports ← Store.ask (·.ports)
  let links ← Store.ask (·.links)
  log.write .info "exiting"
    [⟨"hosts", toString known.hosts.length⟩, ⟨"devices", toString devices.length⟩,
      ⟨"ports", toString ports.length⟩, ⟨"links", toString links.length⟩]

/-- Watch with the open database. -/
def watchDatabase (surroundings : Surroundings) (tools : Tools) (options : RunOptions)
    (log : Log.Logger) (hosts : List Ipv4) : RunM Unit := do
  let store := (← get).getD .empty
  let traps := TrapBuffer.ofCapacity (options.trapCapacity?.getD standardTrapCapacity)
  let watched := watch surroundings tools options log hosts
  let ((), watcher) ← liftM (watched.run (Watcher.start store traps))
  set (some watcher.store)
  transact (sumUp watcher.known log)

/-- Run from the scan to the end. Where the scan fails or finds no host the database is left as it
was. -/
def run (surroundings : Surroundings) (tools : Tools) (options : RunOptions)
    (log : Log.Logger) : RunM Unit := do
  let hosts ← ExceptT.mk (liftM (findHosts surroundings tools options log).run)
  if hosts.isEmpty then log.info "no SNMP devices found, nothing to do"
  else
    openDatabase options log
    watchDatabase surroundings tools options log hosts

end Daemon

end CableMap
