import CableMap.Log
import CableMap.Walk

/-!
# Traces

What a computation does besides giving a value is recorded as events, in the order in which they
happen. Events are kept whatever becomes of the value: a failure later on takes none back.
-/
namespace CableMap

/-- Something that can be seen from outside. -/
inductive Event
  /-- A record was logged. -/
  | logged (entry : Log.Entry)
  /-- A line was printed. -/
  | printed (line : String)
  /-- A walk was asked for. -/
  | walked (walk : Walk)
  /-- A program was started. -/
  | started (program : String) (arguments : List String)
  /-- A file was written. -/
  | wrote (path : String) (content : String)
  deriving DecidableEq

/-- The record of an event that logs one. -/
def Event.logged? : Event → Option Log.Entry
  | .logged entry => some entry
  | _ => none

/-- The line of an event that prints one. -/
def Event.printed? : Event → Option String
  | .printed line => some line
  | _ => none

/-- The walk of an event that asks for one. -/
def Event.walked? : Event → Option Walk
  | .walked walk => some walk
  | _ => none

/-- A value and the events on the way to it. -/
structure Traced (α : Type) where
  /-- The value. -/
  value : α
  /-- The events, first to last. -/
  events : List Event

namespace Traced

variable {α β : Type}

/-- A value with no event before it. -/
def only (value : α) : Traced α := ⟨value, []⟩

/-- One computation after another: the events of both, in order. -/
def andThen (first : Traced α) (next : α → Traced β) : Traced β :=
  let second := next first.value
  ⟨second.value, first.events ++ second.events⟩

instance : Monad Traced where
  pure := only
  bind := andThen

instance : LawfulMonad Traced :=
  LawfulMonad.mk' Traced (fun _ => by simp [Functor.map, andThen, only])
    (fun _ _ => by simp [bind, pure, andThen, only])
    (fun _ _ _ => by simp [bind, andThen])

/-- A value by itself is its value. -/
@[simp] theorem value_pure (value : α) : (pure value : Traced α).value = value := rfl

/-- A value by itself has no events. -/
@[simp] theorem events_pure (value : α) : (pure value : Traced α).events = [] := rfl

/-- What follows starts from the value of what was first. -/
@[simp] theorem value_bind (first : Traced α) (next : α → Traced β) :
    (first >>= next).value = (next first.value).value := rfl

/-- Events of what follows come behind those of what was first. -/
@[simp] theorem events_bind (first : Traced α) (next : α → Traced β) :
    (first >>= next).events = first.events ++ (next first.value).events := rfl

/-- To change the value changes the value. -/
@[simp] theorem value_map (f : α → β) (traced : Traced α) :
    (f <$> traced).value = f traced.value := rfl

/-- To change the value leaves the events. -/
@[simp] theorem events_map (f : α → β) (traced : Traced α) :
    (f <$> traced).events = traced.events := by
  simp [Functor.map, andThen, only]

/-- One event. -/
def event (event : Event) : Traced Unit := ⟨(), [event]⟩

/-- Print a line. -/
def print (line : String) : Traced Unit := event (.printed line)

/-- The same computation with nothing logged. -/
def quiet (traced : Traced α) : Traced α :=
  { traced with events := traced.events.filter (·.logged?.isNone) }

/-- The records logged, in order. -/
def entries (traced : Traced α) : List Log.Entry := traced.events.filterMap Event.logged?

/-- The walks asked for, in order. -/
def walks (traced : Traced α) : List Walk := traced.events.filterMap Event.walked?

/-- The lines printed, in order. -/
def printed (traced : Traced α) : List String := traced.events.filterMap Event.printed?

end Traced

namespace Log.Logger

/-- Log a record with fields of its own. -/
def write (logger : Logger) (level : Level) (message : String) (fields : List Field) :
    Traced Unit :=
  .event (.logged (logger.entry level message fields))

/-- Log an error. -/
def error (logger : Logger) (message : String) : Traced Unit := logger.write .error message []

/-- Log a warning. -/
def warning (logger : Logger) (message : String) : Traced Unit :=
  logger.write .warning message []

/-- Log what happens. -/
def info (logger : Logger) (message : String) : Traced Unit := logger.write .info message []

/-- Log a detail of what happens. -/
def debug (logger : Logger) (message : String) : Traced Unit := logger.write .debug message []

end Log.Logger

end CableMap
