import CableMap.Text.Json
import CableMap.Text.Search

/-!
# Log records

A record is a message with fields of its own and the fields of its logger. It is written as one
line for reading, as one line of a log file, or as the members of a JSON object.
-/
namespace CableMap.Log

/-- How grave a record is. -/
inductive Level
  | critical
  | error
  | warning
  | info
  | debug
  deriving DecidableEq

/-- The four letters that stand for a level in a line. -/
def Level.tag : Level → String
  | .critical => "CRIT"
  | .error => "ERRO"
  | .warning => "WARN"
  | .info => "INFO"
  | .debug => "DEBG"

/-- The number that stands for a level in JSON. -/
def Level.number : Level → Nat
  | .critical => 60
  | .error => 50
  | .warning => 40
  | .info => 30
  | .debug => 20

/-- A key with its value. -/
structure Field where
  /-- The key. -/
  key : String
  /-- The value as text. -/
  value : String
  deriving DecidableEq

/-- A log record. -/
structure Entry where
  /-- How grave it is. -/
  level : Level
  /-- What it says. -/
  message : String
  /-- The fields given with the message, in the order they were given. -/
  fields : List Field
  /-- The fields of the logger, those of the innermost logger first. -/
  scope : List Field
  deriving DecidableEq

namespace Entry

/-- All fields as they are written: the record's own, last given first, then the logger's. -/
def allFields (entry : Entry) : List Field := entry.fields.reverse ++ entry.scope

/-- The record as a line: level, message, and each field after a space. -/
def line (entry : Entry) : String :=
  entry.allFields.foldl (fun line field => line ++ s!" {field.key}={field.value}")
    s!"{entry.level.tag} {entry.message}"

/-- The record as a line of a log file: the level, then the message, unless it is empty, and the
fields, with commas between them. -/
def fileLine (entry : Entry) : String :=
  let message := if entry.message.isEmpty then [] else [entry.message]
  let fields := entry.allFields.map fun field => s!"{field.key}: {field.value}"
  entry.level.tag ++ " " ++ String.intercalate ", " (message ++ fields)

end Entry

/-- The lines of those warnings that hold every one of some texts. -/
def warningsWith (needles : List String) (entries : List Entry) : List String :=
  (entries.filter (·.level = .warning)).map Entry.line |>.filter fun line =>
    needles.all fun needle => Text.occursIn needle.toList line.toList

/-- The record as a JSON object of a named program. -/
def Entry.json (name : String) (entry : Entry) : String :=
  Text.jsonObject
    ([("v", "0"), ("name", Text.jsonString name), ("msg", Text.jsonString entry.message),
      ("level", toString entry.level.number)] ++
      entry.allFields.map fun field => (field.key, Text.jsonString field.value))

/-- How a log file is written. -/
inductive Format
  /-- Lines for reading. -/
  | human
  /-- One JSON object a line. -/
  | json
  deriving DecidableEq, Inhabited

/-- The name of a format. -/
def Format.name : Format → String
  | .human => "human"
  | .json => "json"

/-- The format that a name or its first letter stands for, in either case. -/
def Format.ofString? (text : String) : Option Format :=
  let name := text.map Char.toLower
  if name = "h" ∨ name = "human" then some .human
  else if name = "j" ∨ name = "json" then some .json
  else none

/-- What is said of a name that stands for no format. -/
def Format.unknownMessage (text : String) : String := s!"invalid log format: {text}"

/-- The record as a line of a log in a format, written for a named program. -/
def Entry.formatted (format : Format) (name : String) (entry : Entry) : String :=
  match format with
  | .human => entry.fileLine
  | .json => entry.json name

/-- The fields that a logger adds to its records, those of the innermost logger first. -/
structure Logger where
  /-- The fields. -/
  scope : List Field
  deriving DecidableEq

namespace Logger

/-- The logger without fields. -/
def root : Logger := ⟨[]⟩

/-- A logger inside this one that adds a field. -/
def child (logger : Logger) (key value : String) : Logger := ⟨⟨key, value⟩ :: logger.scope⟩

/-- The logger of a part of the program. -/
def unit (logger : Logger) (name : String) : Logger := logger.child "unit" name

/-- The record that a message makes under this logger. -/
def entry (logger : Logger) (level : Level) (message : String) (fields : List Field) : Entry :=
  ⟨level, message, fields, logger.scope⟩

end Logger

end CableMap.Log
