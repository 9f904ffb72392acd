import CableMap.Store.Statement

/-!
# Transactions

A transaction asks and changes the store step by step and may fail at any step. What it changed
up to then stays, unless a savepoint around it takes everything back. A savepoint has statements of
its own, which may be refused from outside. Records that a transaction logged are kept in any case.
-/
namespace CableMap

/-- Steps on the store that may fail and may log. -/
abbrev StoreM (α : Type) := ExceptT Failure (StateT Store Traced) α

namespace Store

/-- Ask the store. -/
def ask {α : Type} (question : Store → Except Failure α) : StoreM α :=
  ExceptT.mk fun store => pure (question store, store)

/-- Carry out a statement. A statement that is refused changes nothing. -/
def execute {α : Type} (statement : Statement α) : StoreM α :=
  ExceptT.mk fun store =>
    match statement store with
    | .ok (answer, after) => pure (.ok answer, after)
    | .error failure => pure (.error failure, store)

/-- How the statements of a savepoint are answered. Each is carried out, or refused and changes
nothing. -/
structure Savepoint where
  /-- The savepoint is set, in front of everything else. -/
  set : Except Failure Unit
  /-- The savepoint is released and the changes since are kept for good. Another reader of the
  store keeps this from being done. -/
  release : Except Failure Unit
  /-- Everything since the savepoint is taken back. -/
  rollback : Except Failure Unit

/-- A savepoint of which every statement is carried out, as it is where nobody else has the store
open. -/
def Savepoint.granted : Savepoint := ⟨.ok (), .ok (), .ok ()⟩

/-- Carry out a transaction in a savepoint. If it fails it is rolled back, and whether that is
refused is not looked at. If it succeeds but the savepoint is not released, that is the failure, and
nothing is taken back. -/
def savepoint {α : Type} (point : Savepoint) (transaction : StoreM α) : StoreM α :=
  ExceptT.mk fun store => do
    match point.set with
    | .error refusal => pure (.error refusal, store)
    | .ok () =>
      let (outcome, after) ← transaction store
      match outcome, point.release, point.rollback with
      | .ok value, .ok (), _ => pure (.ok value, after)
      | .ok _, .error refusal, _ => pure (.error refusal, after)
      | .error failure, _, .ok () => pure (.error failure, store)
      | .error failure, _, .error _ => pure (.error failure, after)

/-- What must be there after it was written. -/
def found {α : Type} (what : String) : Option α → StoreM α
  | some value => pure value
  | none => throw (.store (.lost what))

/-- Store a device: overwrite the one at its address, or add it. The answer is its row. -/
def saveDevice (device : Device) : StoreM Int := do
  if (← ask (·.deviceId? device.address)).isSome then execute (updateDevice device)
  else discard (execute (insertDevice device))
  found s!"device {device}" (← ask (·.deviceId? device.address))

/-- Store a port: overwrite the one with its MAC address, or add it. The answer is its row. -/
def savePort (port : Port) : StoreM Int := do
  match port.mac? with
  | none => throw (.argument (.portWithoutMac port.interface))
  | some mac =>
    if (← ask (·.portId? mac)).isSome then execute (updatePort port)
    else discard (execute (insertPort port))
    found s!"port {mac}" (← ask (·.portId? mac))

/-- Store a link: overwrite the one between its ports, or add it. The answer is its row. -/
def saveLink (link : Link) : StoreM Int := do
  if (← ask (·.linkId? link.a link.b)).isSome then execute (updateLink link)
  else discard (execute (insertLink link))
  found s!"link {link.a}-{link.b}" (← ask (·.linkId? link.a link.b))

/-- Remove the link between two ports. The answer is whether there was one. -/
def unlink (a b : Int) : StoreM Bool := do
  pure (0 < (← execute (deleteLinks (LinkCells.joins a b))))

/-- Remove every link at a port and count them. -/
def unlinkPort (port : Int) : StoreM Nat := execute (deleteLinks (LinkCells.touches port))

/-- Remove every link at a port but the one to its peer, and count them. -/
def unlinkBeside (port peer : Int) : StoreM Nat :=
  execute (deleteLinks (LinkCells.touchesBeside port peer))

/-- Log a detail of what the store does. -/
def logDetail (log : Log.Logger) (message : String) : StoreM Unit :=
  liftM ((log.unit "store").debug message)

/-- Remove the device at an address with its ports and their links. The answer is whether there
was one. -/
def removeDevice (address : Ipv4) (log : Log.Logger) (point : Savepoint := .granted) :
    StoreM Bool := do
  match ← ask (·.deviceId? address) with
  | none => pure false
  | some id =>
    savepoint point do
      let ports ← ask (·.portsOf id)
      (ports.filterMap (·.id?)).forM fun port => discard (unlinkPort port)
      execute (deletePorts (isPortOf id))
      execute (deleteDevice id)
    logDetail log s!"deleted device {address}"
    pure true

/-- Remove the port with a MAC address with its links. The answer is whether there was one. -/
def removePort (mac : Mac) (log : Log.Logger) (point : Savepoint := .granted) :
    StoreM Bool := do
  match ← ask (·.portId? mac) with
  | none => pure false
  | some id =>
    savepoint point do
      discard (unlinkPort id)
      execute (deletePorts (·.id = id))
    logDetail log s!"deleted port {mac}"
    pure true

/-- Make every table that is missing. -/
def createTables : StoreM Unit := modify withTables

/-- Forget everything, the numbers given to rows included. -/
def reset (log : Log.Logger) : StoreM Unit := do
  set empty
  logDetail log "reset topology store"

/-- Open the store at a place. Missing tables are made. -/
def openAt (place : String) (log : Log.Logger) : StoreM Unit := do
  liftM ((log.unit "store").info s!"opened topology store at {place}")
  createTables

end Store

end CableMap
