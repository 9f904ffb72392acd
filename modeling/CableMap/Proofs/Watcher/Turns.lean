import CableMap.Proofs.Trap.Buffer
import CableMap.Proofs.Watcher.Read

/-!
# The turns of a watcher and of those who send it traps

Traps enter the buffer at any moment: between two rounds, while the watcher takes the traps out one
by one, and while it reads the hosts of a round. A run is therefore cut into turns, each of which
lets a trap in, lets the watcher make its next step, or closes the buffer, and notes are kept of
what happened.
-/
namespace CableMap

/-- Take out the trap that came first, if one waits. -/
def TrapBuffer.receive? (buffer : TrapBuffer) : Option (Ipv4 × TrapBuffer) :=
  match buffer.waiting.toList with
  | [] => none
  | source :: waiting => some (source, { buffer with waiting := waiting.toArray })

namespace Watcher

/-- Something that happened to a trap or in a round. -/
inductive Note
  /-- A trap of a host entered the buffer or was turned away. -/
  | pushed (source : Ipv4) (outcome : PushOutcome)
  /-- The traps that waited were taken out. -/
  | drained (sources : List Ipv4)
  /-- A host was read, with success or not. -/
  | attempted (host : Ipv4) (succeeded : Bool)
  /-- A round ended with this count. -/
  | answered (count : Nat)
  /-- The buffer was closed while these traps waited. -/
  | closed (sources : List Ipv4)

/-- How far the watcher is with a round. -/
inductive Stage
  /-- No round is under way. -/
  | idle
  /-- Some traps were taken out. -/
  | taking (taken : List Ipv4)
  /-- Some hosts are still to be read. -/
  | reading (due : List Ipv4) (refreshed : Nat)

/-- Traps are being taken out. -/
def Stage.isTaking : Stage → Bool
  | .taking _ => true
  | _ => false

/-- A watcher in the middle of a run. -/
structure Moment where
  watcher : Watcher
  stage : Stage
  notes : List Note

namespace Moment

/-- A watcher that begins with an empty buffer. -/
def start (store : Store) (capacity : Nat) : Moment :=
  ⟨.start store (.ofCapacity capacity), .idle, []⟩

/-- The traps that wait. -/
def waiting (now : Moment) : List Ipv4 := now.watcher.traps.waiting.toList

/-- The traps that the round under way has taken so far. -/
def inHand (now : Moment) : List Ipv4 :=
  match now.stage with
  | .taking taken => taken
  | _ => []

/-- The hosts that the round under way is still to read. -/
def stillDue (now : Moment) : List Ipv4 :=
  match now.stage with
  | .reading due _ => due
  | _ => []

/-- The buffer was closed. -/
def Gone (now : Moment) : Prop := ∃ sources, .closed sources ∈ now.notes

/-- A trap comes. -/
def push (now : Moment) (source : Ipv4) (log : Log.Logger) : Moment :=
  let (outcome, traps) := ((TrapBuffer.push source log).run now.watcher.traps).value
  { now with
    watcher := { now.watcher with traps }
    notes := now.notes ++ [.pushed source outcome] }

/-- The buffer is closed, unless it is closed already or traps are being taken out of it. -/
def close (now : Moment) : Moment :=
  if now.watcher.traps.isOpen && ! now.stage.isTaking then
    { now with
      watcher := { now.watcher with traps := now.watcher.traps.close }
      notes := now.notes ++ [.closed now.waiting] }
  else now

/-- Read one host of a round. -/
def answerTrap (outlook : Outlook) (refreshed : Nat) (host : Ipv4) : WatchM Nat := do
  (logger outlook).info s!"received SNMP trap from {host}"
  attempt outlook "refresh" (refresh outlook ·) refreshed host

/-- The watcher makes its next step: it begins a round if the buffer is open, takes out the next
trap, reads the next host, or ends the round. -/
def proceed (outlook : Outlook) (now : Moment) : Moment :=
  match now.stage with
  | .idle => if now.watcher.traps.isOpen then { now with stage := .taking [] } else now
  | .taking taken =>
    match now.watcher.traps.receive? with
    | some (source, traps) =>
      { now with watcher := { now.watcher with traps }, stage := .taking (taken ++ [source]) }
    | none =>
      { now with stage := .reading taken.eraseDups 0, notes := now.notes ++ [.drained taken] }
  | .reading [] refreshed =>
    { now with stage := .idle, notes := now.notes ++ [.answered refreshed] }
  | .reading (host :: due) refreshed =>
    let (refreshed, watcher) := ((answerTrap outlook refreshed host).run now.watcher).value
    let succeeded := (result (refresh outlook host) now.watcher).1.isOk
    ⟨watcher, .reading due refreshed, now.notes ++ [.attempted host succeeded]⟩

end Moment

/-- Whose turn it is. -/
inductive Turn
  /-- A trap of a host comes, by whichever sender. -/
  | push (source : Ipv4) (log : Log.Logger)
  /-- The watcher makes its next step. -/
  | proceed
  /-- The buffer is closed. -/
  | close

/-- It is the watcher's turn. -/
def Turn.isProceed : Turn → Bool
  | .proceed => true
  | _ => false

/-- The moment after a turn. -/
def Moment.turn (outlook : Outlook) (now : Moment) : Turn → Moment
  | .push source log => now.push source log
  | .proceed => now.proceed outlook
  | .close => now.close

/-- The moment after some turns. -/
def Moment.run (outlook : Outlook) (now : Moment) (turns : List Turn) : Moment :=
  turns.foldl (turn outlook) now

/-! ## What the notes say -/

/-- The hosts whose traps entered, in the order in which they did. -/
def queued (notes : List Note) : List Ipv4 :=
  notes.filterMap fun
    | .pushed source .queued => some source
    | _ => none

/-- The traps that were taken out by whole drains, in order. -/
def drained (notes : List Note) : List Ipv4 :=
  notes.flatMap fun
    | .drained sources => sources
    | _ => []

/-- The traps that waited when the buffer was closed. -/
def givenUp (notes : List Note) : List Ipv4 :=
  notes.flatMap fun
    | .closed sources => sources
    | _ => []

/-- What the notes come to for one round. -/
structure Tally where
  /-- The hosts whose traps entered since the last drain. -/
  fresh : List Ipv4
  /-- The hosts whose traps entered between the last drain and the one before, each once. -/
  due : List Ipv4
  /-- The hosts that were read since the last drain, and whether with success. -/
  attempts : List (Ipv4 × Bool)

/-- The tally with one more note. -/
def Tally.note (tally : Tally) : Note → Tally
  | .pushed source .queued => { tally with fresh := tally.fresh ++ [source] }
  | .drained _ => ⟨[], tally.fresh.eraseDups, []⟩
  | .attempted host succeeded => { tally with attempts := tally.attempts ++ [(host, succeeded)] }
  | _ => tally

/-- The tally of some notes. -/
def tally (notes : List Note) : Tally := notes.foldl Tally.note ⟨[], [], []⟩

/-- One more note counts on top of the tally of those before. -/
@[simp] theorem tally_append_singleton (notes : List Note) (note : Note) :
    tally (notes ++ [note]) = (tally notes).note note := by
  simp [tally]

/-- How many of the attempts succeeded. -/
def Tally.successes (tally : Tally) : Nat := tally.attempts.countP (·.2)

/-- The traps that entered by two lists of notes are those of each. -/
@[simp] theorem queued_append (notes more : List Note) :
    queued (notes ++ more) = queued notes ++ queued more := List.filterMap_append

/-- The traps that were taken out by two lists of notes are those of each. -/
@[simp] theorem drained_append (notes more : List Note) :
    drained (notes ++ more) = drained notes ++ drained more := List.flatMap_append

/-- The traps that were given up by two lists of notes are those of each. -/
@[simp] theorem givenUp_append (notes more : List Note) :
    givenUp (notes ++ more) = givenUp notes ++ givenUp more := List.flatMap_append

/-! ## Single steps -/

/-- What can happen at a moment. -/
inductive Step (outlook : Outlook) (now : Moment) : Moment → Prop
  /-- A trap enters or is turned away. -/
  | pushed (source : Ipv4) : Step outlook now
      ⟨{ now.watcher with traps := now.watcher.traps.afterPush source }, now.stage,
        now.notes ++ [.pushed source now.watcher.traps.outcome]⟩
  /-- The buffer is closed. -/
  | closed (stillOpen : now.watcher.traps.isOpen) (free : now.stage.isTaking = false) :
      Step outlook now ⟨{ now.watcher with traps := now.watcher.traps.close }, now.stage,
        now.notes ++ [.closed now.waiting]⟩
  /-- A round begins. -/
  | begun (idle : now.stage = .idle) (stillOpen : now.watcher.traps.isOpen) :
      Step outlook now { now with stage := .taking [] }
  /-- A trap is taken out. -/
  | took {taken : List Ipv4} {source : Ipv4} {waiting : List Ipv4}
      (taking : now.stage = .taking taken) (first : now.waiting = source :: waiting) :
      Step outlook now
        ⟨{ now.watcher with
            traps := { now.watcher.traps with waiting := waiting.toArray } },
          .taking (taken ++ [source]), now.notes⟩
  /-- No more traps wait. -/
  | drained {taken : List Ipv4} (taking : now.stage = .taking taken) (none : now.waiting = []) :
      Step outlook now ⟨now.watcher, .reading taken.eraseDups 0, now.notes ++ [.drained taken]⟩
  /-- A host is read. -/
  | attempted {host : Ipv4} {due : List Ipv4} {refreshed : Nat}
      (reading : now.stage = .reading (host :: due) refreshed) {succeeded : Bool}
      (outcome : (result (refresh outlook host) now.watcher).1.isOk = succeeded) :
      Step outlook now ⟨(result (refresh outlook host) now.watcher).2,
        .reading due (if succeeded then refreshed + 1 else refreshed),
        now.notes ++ [.attempted host succeeded]⟩
  /-- The round ends. -/
  | answered {refreshed : Nat} (reading : now.stage = .reading [] refreshed) :
      Step outlook now ⟨now.watcher, .idle, now.notes ++ [.answered refreshed]⟩

/-- A trap that comes is settled by the state of the buffer. -/
theorem value_push (source : Ipv4) (log : Log.Logger) (traps : TrapBuffer) :
    ((TrapBuffer.push source log).run traps).value =
      (traps.outcome, traps.afterPush source) :=
  congrArg Traced.value (TrapBuffer.push_run source log traps)

/-- To answer a trap counts its host if it could be read, and leaves the watcher as the reading
does. -/
theorem value_answerTrap (outlook : Outlook) (refreshed : Nat) (host : Ipv4) (watcher : Watcher) :
    ((Moment.answerTrap outlook refreshed host).run watcher).value =
      (if (result (refresh outlook host) watcher).1.isOk then refreshed + 1 else refreshed,
        (result (refresh outlook host) watcher).2) :=
  value_attempt outlook "refresh" (refresh outlook ·) refreshed host watcher

namespace Moment

variable {outlook : Outlook} {now : Moment}

/-- A trap that comes leaves the stage of the round, and a note of what became of it. -/
theorem push_eq (now : Moment) (source : Ipv4) (log : Log.Logger) :
    now.push source log =
      ⟨{ now.watcher with traps := now.watcher.traps.afterPush source }, now.stage,
        now.notes ++ [.pushed source now.watcher.traps.outcome]⟩ := by
  rw [push, value_push]

/-- The watcher waits or makes a step. -/
theorem proceed_step (outlook : Outlook) (now : Moment) :
    now.proceed outlook = now ∨ Step outlook now (now.proceed outlook) := by
  obtain ⟨watcher, stage, notes⟩ := now
  cases stage with
  | idle =>
    by_cases stillOpen : watcher.traps.isOpen = true
    · refine .inr ?_
      simp only [proceed, stillOpen, if_true]
      exact .begun rfl stillOpen
    · exact .inl (if_neg stillOpen)
  | taking taken =>
    refine .inr ?_
    cases waiting : watcher.traps.waiting.toList with
    | nil =>
      simp only [proceed, TrapBuffer.receive?, waiting]
      exact .drained rfl waiting
    | cons source rest =>
      simp only [proceed, TrapBuffer.receive?, waiting]
      exact .took rfl waiting
  | reading due refreshed =>
    refine .inr ?_
    cases due with
    | nil => exact .answered rfl
    | cons host due =>
      simp only [proceed, value_answerTrap]
      exact .attempted rfl rfl

/-- A turn changes nothing or is a step. -/
theorem turn_step (outlook : Outlook) (now : Moment) (turn : Turn) :
    now.turn outlook turn = now ∨ Step outlook now (now.turn outlook turn) := by
  cases turn with
  | push source log =>
    refine .inr ?_
    show Step outlook now (now.push source log)
    rw [push_eq]
    exact .pushed source
  | proceed => exact proceed_step outlook now
  | close =>
    show now.close = now ∨ Step outlook now now.close
    unfold close
    split
    · rename_i free
      simp only [Bool.and_eq_true, Bool.not_eq_true'] at free
      exact .inr (.closed free.1 free.2)
    · exact .inl rfl

end Moment

end Watcher

end CableMap
