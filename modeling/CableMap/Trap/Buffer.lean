import CableMap.Failure
import CableMap.Text.Quoted
import CableMap.Trace
import CableMap.Trap

/-!
# The trap buffer

Traps that came wait in a buffer of bounded length until the hosts that sent them are walked. A
trap that finds the buffer full is dropped; once the buffer is closed nothing enters it.
-/
namespace CableMap

/-- The hosts whose traps wait, and how many may. -/
structure TrapBuffer where
  /-- The most traps that wait. -/
  capacity : Nat
  /-- The hosts, the one whose trap came first in front. -/
  waiting : Array Ipv4
  /-- Traps may enter. -/
  isOpen : Bool

/-- What became of a trap. -/
inductive PushOutcome
  /-- It waits. -/
  | queued
  /-- The buffer was full. -/
  | dropped
  /-- The buffer was closed. -/
  | closed
  deriving DecidableEq

namespace TrapBuffer

/-- An empty buffer for so many traps, at least one. -/
def ofCapacity (capacity : Nat) : TrapBuffer := ⟨max capacity 1, #[], true⟩

/-- What becomes of a trap that enters now. -/
def outcome (buffer : TrapBuffer) : PushOutcome :=
  if ! buffer.isOpen then .closed
  else if buffer.waiting.size < buffer.capacity then .queued
  else .dropped

/-- The buffer after a trap from a host entered or was turned away. -/
def afterPush (buffer : TrapBuffer) (source : Ipv4) : TrapBuffer :=
  if buffer.outcome = .queued then { buffer with waiting := buffer.waiting.push source }
  else buffer

/-- Let a trap enter. A dropped trap is reported. -/
def push (source : Ipv4) (log : Log.Logger) : StateT TrapBuffer Traced PushOutcome := do
  let outcome := (← get).outcome
  if outcome = .dropped then
    (log.unit "trap-buffer").warning s!"trap buffer full, dropping trap from {source}"
  modify (·.afterPush source)
  pure outcome

/-- Take out every trap that waits, the first to come in front. -/
def drain : StateT TrapBuffer Traced (List Ipv4) := do
  let waiting := (← get).waiting.toList
  modify fun buffer => { buffer with waiting := #[] }
  pure waiting

/-- Let nothing more in and give up what waits. -/
def close (buffer : TrapBuffer) : TrapBuffer :=
  { buffer with waiting := #[], isOpen := false }

/-- How far the lines of the trap daemon were read. -/
structure Progress where
  /-- The traps that entered the buffer. -/
  queued : Nat
  /-- No line stopped the reading. -/
  goesOn : Bool

/-- Read lines and let their traps in, until a line is not UTF-8 or the buffer is closed. The
traps that entered are added to those that entered before. -/
def readLines (log : Log.Logger) (queued : Nat) :
    List (List UInt8) → StateT TrapBuffer Traced Progress
  | [] => pure ⟨queued, true⟩
  | line :: lines => do
    let own := log.unit "trap-reader"
    match Text.Utf8.decode line with
    | .error fault =>
      own.error s!"reading from trap listener: {(Failure.io (.notUtf8 line fault)).message}"
      pure ⟨queued, false⟩
    | .ok text =>
      match TrapNotice.ofLine? text with
      | none =>
        own.debug s!"ignoring listener output {Text.quoted (String.ofList text)}"
        readLines log queued lines
      | some notice =>
        own.debug s!"trap from {notice.source}"
        match ← push notice.source log with
        | .queued => readLines log (queued + 1) lines
        | .dropped => readLines log queued lines
        | .closed => pure ⟨queued, false⟩

/-- Read all that the trap daemon prints until it ends, unless the program is to stop. The count
of traps that entered the buffer is the answer. -/
def readAll (stopping : Bool) (bytes : List UInt8) (log : Log.Logger) :
    StateT TrapBuffer Traced Nat := do
  let own := log.unit "trap-reader"
  let progress ←
    if stopping then pure ⟨0, false⟩ else readLines log 0 (Text.linesOf 10 13 bytes)
  if progress.goesOn then own.warning "trap listener exited"
  own.info s!"trap reader exiting after {progress.queued} traps"
  pure progress.queued

end TrapBuffer

end CableMap
