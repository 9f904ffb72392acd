import CableMap.Failure
import CableMap.Text.Blank
import CableMap.Trace

/-!
# External programs

A program is started with arguments and prints text until it exits. A program that is not there,
or that exits with a status other than zero, is a failure.
-/
namespace CableMap

/-- What starting a program leads to. -/
inductive Launch
  /-- There is no such program. -/
  | missing
  /-- It exited with a status after it printed an output and messages. -/
  | exited (status : Nat) (output messages : String)
  deriving DecidableEq

/-- What each program does, by its name and its arguments. -/
abbrev Programs := String → List String → Launch

/-- Which of a program's texts are wanted. -/
inductive Capture
  /-- Its output. -/
  | output
  /-- Its output and then its messages. -/
  | merged
  deriving DecidableEq

namespace Program

/-- What a program said about its failure: its first message without blanks around it. -/
def complaint (messages : String) : String :=
  String.ofList (Text.trim ((Text.lines messages.toList).head?.getD []))

/-- The wanted text of a program that did its work. -/
def captured (capture : Capture) (output messages : String) : String :=
  match capture with
  | .output => output
  | .merged => output ++ messages

/-- A name and arguments with spaces between them. -/
def commandLine (program : String) (arguments : List String) : String :=
  let joined := String.intercalate " " arguments
  s!"{program} {joined}"

/-- The texts can be handed to a program: no NUL, which would end one early, is in them. -/
def canBePassed (texts : List String) : Bool := texts.all fun text => ! text.toList.contains '\x00'

/-- Start a program: its status, its output and its messages, or why it was not started. -/
def launch (programs : Programs) (program : String) (arguments : List String) :
    Traced (Except Failure (Nat × String × String)) := do
  if canBePassed (program :: arguments) then
    match programs program arguments with
    | .missing => pure (.error (.tool program .notFound))
    | .exited status output messages =>
      Traced.event (.started program arguments)
      pure (.ok (status, output, messages))
  else pure (.error (.tool program .notPassable))

/-- Run a program to its end and give the wanted text. -/
def run (programs : Programs) (program : String) (arguments : List String) (capture : Capture)
    (log : Log.Logger) : Traced (Except Failure String) := do
  (log.unit "process").debug s!"running {commandLine program arguments}"
  match ← launch programs program arguments with
  | .error failure => pure (.error failure)
  | .ok (status, output, messages) =>
    pure (if status = 0 then .ok (captured capture output messages)
      else .error (.tool program (.exited status (complaint messages))))

/-- Run a program to its end and give the lines of the wanted text. -/
def runLines (programs : Programs) (program : String) (arguments : List String)
    (capture : Capture) (log : Log.Logger) : Traced (Except Failure (List String)) := do
  let text ← run programs program arguments capture log
  pure (text.map fun text => (Text.lines text.toList).map String.ofList)

/-- Start a program that runs on, and give what it prints. -/
def start (programs : Programs) (program : String) (arguments : List String)
    (log : Log.Logger) : Traced (Except Failure String) := do
  (log.unit "process").debug s!"starting {commandLine program arguments}"
  let started ← launch programs program arguments
  pure (started.map fun (_, output, _) => output)

end Program

end CableMap
