import CableMap.Text.Search

/-!
# Forms of arguments

A form says which options and how many operands a command takes. Arguments are read one by one
against it. An option is written with two dashes and its name, or with one dash and its letter; its
value follows in the next argument, or in the same one after an equals sign or the letter. After
two dashes alone every argument is an operand.
-/
namespace CableMap.Command

/-- Why arguments are not carried out. -/
inductive Refusal
  /-- There is no command. -/
  | missingCommand
  /-- An operand is missing. -/
  | missingOperand
  /-- There is no such option, operand or command. -/
  | unknownArgument
  /-- There is no such command, but one much like it. -/
  | misspeltCommand
  /-- Help was asked for on something that is no command. -/
  | unknownHelp
  /-- An option has no value. -/
  | missingValue
  /-- An option cannot have this value. -/
  | badValue
  /-- An option is given more than once. -/
  | repeatedOption
  /-- Help was asked for. -/
  | help
  /-- The version was asked for. -/
  | version
  deriving DecidableEq

/-- An option that a command takes. -/
structure Switch where
  /-- Its name. -/
  name : String
  /-- Its letter, if it has one. -/
  letter? : Option Char
  /-- It has a value; otherwise it is on or off. -/
  hasValue : Bool
  /-- The value it has if none is given. -/
  standard? : Option String
  /-- The values it may have. -/
  admits : String → Bool

/-- What arguments a command takes. -/
structure Form where
  /-- The options. -/
  switches : List Switch
  /-- The operands that must be given. -/
  required : Nat
  /-- The operands that may be given. -/
  most : Nat

/-- What was read of a command's arguments. -/
structure Reading where
  /-- The options given, by name, each as often as it was given. -/
  given : List String
  /-- The values given, each after the name of its option. -/
  values : List (String × String)
  /-- The operands. -/
  operands : List String
  /-- The option whose value comes next. -/
  awaiting? : Option String
  /-- Only operands follow. -/
  operandsOnly : Bool

namespace Reading

/-- Nothing was read. -/
def empty : Reading := ⟨[], [], [], none, false⟩

/-- The values given for an option. -/
def valuesOf (reading : Reading) (name : String) : List String :=
  (reading.values.filter (·.1 = name)).map (·.2)

/-- The first value given for an option. -/
def value? (reading : Reading) (name : String) : Option String := (reading.valuesOf name).head?

/-- An option is given. -/
def has (reading : Reading) (name : String) : Bool := reading.given.contains name

end Reading

/-- The text without the dashes in front of it. -/
def undashed (text : List Char) : List Char := text.dropWhile (· = '-')

/-- A value after an equals sign, or after several. -/
def afterEquals (text : List Char) : String := String.ofList (text.dropWhile (· = '='))

/-- The argument is an option: it begins with a dash and is not a dash alone. -/
def isOption : List Char → Bool
  | '-' :: _ :: _ => true
  | _ => false

/-- The name of an option written with two dashes and the text from its equals sign on. -/
def splitName (argument : List Char) : List Char × List Char :=
  let text := undashed argument
  (text.takeWhile (· ≠ '='), text.dropWhile (· ≠ '='))

/-- The parts of an option: what it is called, and the text after that. -/
inductive OptionText
  /-- Two dashes and a name, and the text from an equals sign on. -/
  | named (name : String) (rest : List Char)
  /-- One dash and a letter, and the text after the letter. -/
  | lettered (letter : Char) (rest : List Char)

/-- The parts of an argument that is an option. -/
def OptionText.ofArgument (argument : List Char) : OptionText :=
  match argument with
  | '-' :: '-' :: _ =>
    let (name, rest) := splitName argument
    .named (String.ofList name) rest
  | _ =>
    match undashed argument with
    | letter :: rest => .lettered letter rest
    | [] => .named "" []

/-- The refusal of an option that asks for help or for the version. -/
def OptionText.informs? : OptionText → Option Refusal
  | .named name _ => if name = "help" then some .help
    else if name = "version" then some .version else none
  | .lettered letter _ => if letter = 'h' then some .help
    else if letter = 'V' then some .version else none

/-- The text after the name or the letter. -/
def OptionText.rest : OptionText → List Char
  | .named _ rest => rest
  | .lettered _ rest => rest

/-- The option is this one. -/
def Switch.isCalled (switch : Switch) : OptionText → Bool
  | .named name _ => switch.name = name
  | .lettered letter _ => switch.letter? = some letter

namespace Form

/-- Read an option. -/
def readOption (form : Form) (reading : Reading) (text : OptionText) : Except Refusal Reading :=
  match text.informs?, form.switches.find? (·.isCalled text) with
  | some refusal, _ => .error refusal
  | none, none => .error .unknownArgument
  | none, some switch =>
    let given := { reading with given := reading.given ++ [switch.name], awaiting? := none }
    if ! switch.hasValue then .ok given
    else if text.rest.isEmpty then .ok { given with awaiting? := some switch.name }
    else .ok { given with values := given.values ++ [(switch.name, afterEquals text.rest)] }

/-- Read an operand. -/
def readOperand (form : Form) (reading : Reading) (argument : String) : Except Refusal Reading :=
  if reading.operands.length < form.most then
    .ok { reading with operands := reading.operands ++ [argument], awaiting? := none }
  else .error .unknownArgument

/-- Read the next argument. -/
def readNext (form : Form) (reading : Reading) (argument : String) : Except Refusal Reading :=
  if reading.operandsOnly then form.readOperand reading argument
  else if argument = "--" then .ok { reading with operandsOnly := true }
  else if isOption argument.toList then
    form.readOption reading (.ofArgument argument.toList)
  else
    match reading.awaiting? with
    | some name =>
      .ok { reading with values := reading.values ++ [(name, argument)], awaiting? := none }
    | none => form.readOperand reading argument

/-- The option of a name lacks a value. -/
def lacksValue (form : Form) (reading : Reading) (name : String) : Bool :=
  (reading.value? name).isNone &&
    form.switches.any fun switch =>
      switch.name = name && switch.hasValue && switch.standard?.isNone

/-- Refuse an option that lacks a value, has one that it cannot have, or is given twice. -/
def checkSwitch (form : Form) (reading : Reading) (switch : Switch) : Except Refusal Unit :=
  if ! reading.has switch.name then .ok ()
  else if form.lacksValue reading switch.name then .error .missingValue
  else if (reading.valuesOf switch.name).any (! switch.admits ·) then .error .badValue
  else if 1 < reading.given.count switch.name then .error .repeatedOption
  else .ok ()

/-- Refuse what was read if an operand is missing or an option is not as it must be. -/
def check (form : Form) (reading : Reading) : Except Refusal Unit := do
  if reading.operands.length < form.required then .error .missingOperand
  if reading.awaiting?.any (form.lacksValue reading) then .error .missingValue
  form.switches.forM (form.checkSwitch reading)

/-- Read the arguments of a command. -/
def read (form : Form) (arguments : List String) : Except Refusal Reading := do
  let reading ← arguments.foldlM form.readNext .empty
  form.check reading
  pure reading

/-- The value of an option: the one given, or the standard one. -/
def valueOf? (form : Form) (reading : Reading) (name : String) : Option String :=
  reading.value? name <|> (form.switches.find? (·.name = name)).bind (·.standard?)

end Form

end CableMap.Command
