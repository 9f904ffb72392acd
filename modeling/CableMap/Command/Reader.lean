import CableMap.Command
import CableMap.Command.Form
import CableMap.Text.Decimal
import CableMap.Text.Similarity

/-!
# Reading a command line

The first argument names the command and the others are read against its form. A name that is
none, but much like one, is refused as misspelt.
-/
namespace CableMap.Command

/-- An option that is on or off. -/
def flag (name : String) : Switch := ⟨name, none, false, none, fun _ => true⟩

/-- An option with any text for a value. -/
def texted (name : String) (standard? : Option String) : Switch :=
  ⟨name, none, true, standard?, fun _ => true⟩

/-- The number that an option has for a value. -/
def numberValue? (text : String) : Option Nat := Text.unsigned? Text.limit64 text.toList

/-- An option with a number of 64 bits for a value. -/
def numbered (name : String) : Switch :=
  ⟨name, none, true, none, fun text => (numberValue? text).isSome⟩

/-- The format of the log. -/
def logFormat : Switch :=
  ⟨"log-format", some 'l', true, some Log.Format.human.name,
    fun text => (Log.Format.ofString? text).isSome⟩

/-- The file of the database. -/
def database : Switch := texted "db" none

/-- The file of the database if none is named. -/
def standardDatabase : String := "topology.db"

/-- The form of the command that watches over a network. -/
def runForm : Form := {
  switches := [texted "log-file" none, logFormat, database, flag "keep-db",
    texted "tools-dir" none, texted "trapd" (some "/usr/bin/snmptrapd"),
    texted "state-dir" (some "."), numbered "poll-interval-ms", numbered "trap-buffer",
    numbered "rescan-secs", flag "no-root-check"]
  required := 2
  most := 2 }

/-- The form of the command that reports a database. -/
def reportForm : Form := ⟨[database], 0, 0⟩

/-- The form of the command that forgets. -/
def forgetForm : Form := ⟨[database], 1, 2⟩

/-- The file of the database that was named, or the standard one. -/
def databaseOf (reading : Reading) : String :=
  (reading.value? database.name).getD standardDatabase

/-- The number of an option, if it is given. -/
def numberOf? (reading : Reading) (name : String) : Option Nat :=
  (reading.value? name).bind numberValue?

/-- The command that watches over a network, from what was read. -/
def ofRun (reading : Reading) : Command :=
  let text (name : String) := (runForm.valueOf? reading name).getD ""
  .run {
    target := reading.operands.head?.getD ""
    community := reading.operands[1]?.getD ""
    logFile? := reading.value? "log-file"
    logFormat := (Log.Format.ofString? (text "log-format")).getD default
    database := databaseOf reading
    keepDatabase := reading.has "keep-db"
    toolsDirectory? := reading.value? "tools-dir"
    trapd := text "trapd"
    stateDirectory := text "state-dir"
    pollMilliseconds? := numberOf? reading "poll-interval-ms"
    trapCapacity? := numberOf? reading "trap-buffer"
    rescanSeconds? := numberOf? reading "rescan-secs"
    skipsPrivilegeCheck := reading.has "no-root-check" }

/-- The command that forgets, from what was read. -/
def ofForget (reading : Reading) : Command :=
  .forget (databaseOf reading) (reading.operands.head?.getD "") reading.operands[1]?

/-- The names of the commands. -/
def names : List String := ["run", "show", "forget", "help"]

/-- The refusal of a name that is no command. -/
def refusalOf (name : String) : Refusal :=
  if names.any fun known => Text.isLike name.toList known.toList then .misspeltCommand
  else .unknownArgument

/-- Help on a command, if it is one. -/
def helpOn : List String → Refusal
  | [] => .help
  | [name] => if names.contains name then .help else .unknownHelp
  | _ => .unknownHelp

/-- The command that arguments give. -/
def ofArguments : List String → Except Refusal Command
  | [] => .error .missingCommand
  | "--" :: rest =>
    match rest with
    | [] => .error .missingCommand
    | name :: _ => .error (refusalOf name)
  | "run" :: rest => (runForm.read rest).map ofRun
  | "show" :: rest => (reportForm.read rest).map fun reading => .report (databaseOf reading)
  | "forget" :: rest => (forgetForm.read rest).map ofForget
  | "help" :: rest => .error (helpOn rest)
  | name :: _ =>
    if isOption name.toList then
      .error ((OptionText.informs? (.ofArgument name.toList)).getD .unknownArgument)
    else .error (refusalOf name)

end CableMap.Command
