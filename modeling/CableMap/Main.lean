import CableMap.Command.Reader
import CableMap.Daemon
import CableMap.Store.Forget

/-!
# The command line

Reads the command, carries it out and shows what it did. Here no program can be started and
databases last as long as the command: a report finds an empty store, and a scan finds no
scanner. An observer that can start programs gives them to `Daemon.run` instead.
-/
namespace CableMap

/-- The name of this program. -/
def programName : String := "cablemap"

/-- Show an event: a printed line as it is and a record in the format of the log. -/
def showEvent (format : Log.Format) : Event → IO Unit
  | .printed line => IO.println line
  | .logged entry => IO.println (entry.formatted format programName)
  | _ => pure ()

/-- Show events and the failure at their end, if there is one. -/
def showOutcome (format : Log.Format) (events : List Event) (outcome : Except Failure Unit) :
    IO UInt32 := do
  events.forM (showEvent format)
  match outcome with
  | .ok () => pure 0
  | .error failure =>
    IO.eprintln failure.message
    pure 1

/-- What a command prints and logs, and how it ends. -/
def carryOut : Command → Traced (Except Failure Unit)
  | .report _ => do pure (← Store.report.run Store.empty).1
  | .forget _ target peer? => do pure (← (Store.forget target peer?).run Store.empty).1
  | .run options => do
    let tools := Tools.inDirectory (options.toolsDirectory?.getD "external") options.trapd
    let surroundings : Surroundings := ⟨fun _ _ _ => .missing, []⟩
    let log := Log.Logger.root.child "daemon" programName
    pure (← (Daemon.run surroundings tools options log).run none).1

/-- The format in which a command's records are written. -/
def formatOf : Command → Log.Format
  | .run options => options.logFormat
  | _ => .human

/-- What is said to a refused command line. -/
def refusalMessage : Command.Refusal → String
  | .missingCommand => "no command was given"
  | .missingOperand => "an argument is missing"
  | .unknownArgument => "an argument was not expected"
  | .misspeltCommand => "there is no such command, but one much like it"
  | .unknownHelp => "there is no help on that"
  | .missingValue => "an option has no value"
  | .badValue => "an option cannot have that value"
  | .repeatedOption => "an option is given twice"
  | .help => "commands: run TARGET COMMUNITY, show, forget TARGET [PEER], help"
  | .version => programName

end CableMap

open CableMap

/-- Carry out the command that the arguments give. -/
def main (arguments : List String) : IO UInt32 := do
  match Command.ofArguments arguments with
  | .ok command =>
    let done := carryOut command
    showOutcome (formatOf command) done.events done.value
  | .error refusal =>
    let told := refusal = .help || refusal = .version
    if told then IO.println (refusalMessage refusal) else IO.eprintln (refusalMessage refusal)
    pure (if told then 0 else 1)
