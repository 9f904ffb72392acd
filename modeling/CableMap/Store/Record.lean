import CableMap.Observation
import CableMap.Store.Transaction

/-!
# Recording an observation

The store is brought in line with what one host reported. Its device and its ports are stored.
A port whose neighbour is stored under the MAC address it goes by is linked to it and to nothing
else; a port whose neighbour is unknown, is the port itself, or was not reported, is linked to
nothing. All of this happens or none of it, unless the savepoint around it cannot be ended.
-/
namespace CableMap.Store

/-- What recording an observation did. -/
structure Recorded where
  /-- The row of the device. -/
  device : Int
  /-- The ports stored. -/
  ports : Nat
  /-- The links stored. -/
  linked : Nat
  /-- The links removed. -/
  unlinked : Nat
  deriving DecidableEq

/-- The stored port at the other end of a port's cable, as far as it is known: its row and its
speed. -/
def peerOf? (observation : Observation) (port : Port) : StoreM (Option (Int × UInt32)) := do
  match observation.neighbourOn? port.interface with
  | none => pure none
  | some neighbour =>
    let peer? ← ask (·.port? neighbour.mac)
    pure (peer?.bind fun peer => peer.id?.map fun id => (id, peer.maxSpeed))

/-- Record one port of a device. -/
def recordPort (observation : Observation) (log : Log.Logger) (sofar : Recorded) (port : Port) :
    StoreM Recorded := do
  let id ← savePort { port with device? := some sofar.device }
  let sofar := { sofar with ports := sofar.ports + 1 }
  match (← peerOf? observation port).filter (·.1 ≠ id) with
  | some (peer, peerSpeed) =>
    let removed ← unlinkBeside id peer
    if 0 < removed then
      log.write .debug s!"{port.name} was recabled" [⟨"removed", toString removed⟩]
    let speed := min port.maxSpeed peerSpeed
    discard (saveLink (.between id peer speed))
    log.write .debug s!"link {port.name} <-> {peer}" [⟨"speed", toString speed.toNat⟩]
    pure { sofar with linked := sofar.linked + 1, unlinked := sofar.unlinked + removed }
  | none =>
    let removed ← unlinkPort id
    if 0 < removed then log.debug s!"removed stale link from {port.name}"
    pure { sofar with unlinked := sofar.unlinked + removed }

/-- Record an observation. Ports without a MAC address are passed over. -/
def record (observation : Observation) (log : Log.Logger) (point : Savepoint := .granted) :
    StoreM Recorded :=
  savepoint point do
    let device ← saveDevice observation.device
    (observation.ports.filter (·.mac?.isSome)).foldlM (recordPort observation log)
      ⟨device, 0, 0, 0⟩

end CableMap.Store
