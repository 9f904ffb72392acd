import CableMap.Proofs.Trace
import CableMap.Trap.Buffer

/-!
# Traps that enter the buffer

A trap enters an open buffer if there is room and is put behind those that wait; it changes
nothing otherwise. So what an open buffer takes of traps that come one after the other is as many
of the first as there is room for.
-/
namespace CableMap.TrapBuffer

variable {buffer : TrapBuffer} {source : Ipv4}

/-! ## One trap -/

/-- What is said of a trap that finds the buffer full. -/
def turnedAway (log : Log.Logger) (source : Ipv4) : Event :=
  .logged ((log.unit "trap-buffer").entry .warning
    s!"trap buffer full, dropping trap from {source}" [])

/-- A trap enters or is turned away, and a trap that is dropped is reported. -/
theorem push_run (source : Ipv4) (log : Log.Logger) (buffer : TrapBuffer) :
    push source log buffer = ⟨(buffer.outcome, buffer.afterPush source),
      if buffer.outcome = .dropped then [turnedAway log source] else []⟩ := by
  have asked : (get : StateT TrapBuffer Traced TrapBuffer) buffer = ⟨(buffer, buffer), []⟩ := rfl
  unfold push
  rw [Traced.run_bind asked]
  by_cases full : buffer.outcome = .dropped
  · simp only [full, if_pos]
    rfl
  · simp only [full]
    rfl

/-! ## Traps one after the other -/

/-- How many more traps may enter. -/
def room (buffer : TrapBuffer) : Nat := buffer.capacity - buffer.waiting.size

/-- The buffer behind traps that came while it was open. -/
def filled (buffer : TrapBuffer) (sources : List Ipv4) : TrapBuffer :=
  { buffer with waiting := buffer.waiting ++ (sources.take buffer.room).toArray }

/-- No traps leave the buffer as it is. -/
@[simp] theorem filled_nil (buffer : TrapBuffer) : buffer.filled [] = buffer := by
  simp [filled]

/-- Each trap that enters takes one place of the room that is left. -/
theorem room_filled (buffer : TrapBuffer) (sources : List Ipv4) :
    (buffer.filled sources).room = buffer.room - sources.length := by
  simp only [room, filled, Array.size_append, List.size_toArray, List.length_take]
  omega

/-- Traps that come after others find what room these left. -/
theorem filled_filled (buffer : TrapBuffer) (before later : List Ipv4) :
    (buffer.filled before).filled later = buffer.filled (before ++ later) := by
  have left := buffer.room_filled before
  rw [filled, left, filled, filled, List.take_append]
  simp

/-- A trap that comes to a closed buffer finds it closed. -/
theorem outcome_of_closed (isClosed : buffer.isOpen = false) : buffer.outcome = .closed := by
  rw [outcome, isClosed]
  rfl

/-- What becomes of a trap that comes to an open buffer, by the room that is left. -/
theorem outcome_of_open (isOpen : buffer.isOpen = true) :
    buffer.outcome = if buffer.room = 0 then .dropped else .queued := by
  unfold outcome room
  rw [isOpen]
  by_cases free : buffer.waiting.size < buffer.capacity
  · have some : buffer.capacity - buffer.waiting.size ≠ 0 := by omega
    simp [free, some]
  · have none : buffer.capacity - buffer.waiting.size = 0 := by omega
    simp [free, none]

/-- A trap that comes to an open buffer fills it by one. -/
theorem afterPush_of_open (isOpen : buffer.isOpen = true) (source : Ipv4) :
    buffer.afterPush source = buffer.filled [source] := by
  have outcome := outcome_of_open isOpen
  unfold afterPush filled
  by_cases full : buffer.room = 0
  · rw [outcome, if_pos full, full]
    simp
  · obtain ⟨more, left⟩ := Nat.exists_eq_succ_of_ne_zero full
    rw [outcome, if_neg full, left]
    simp

end CableMap.TrapBuffer
