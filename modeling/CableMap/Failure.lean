import CableMap.Address.Mac
import CableMap.Text.Utf8

/-!
# Failures

What can go wrong, by cause. The text of a failure is written in one place, `Failure.message`.
-/
namespace CableMap

/-- Why reading or writing failed. -/
inductive IoCause
  /-- Data that could not be used, with what was wrong with it. -/
  | invalidData (detail : String)
  /-- A line whose bytes are not UTF-8. -/
  | notUtf8 (bytes : List UInt8) (fault : Text.Utf8Fault)
  deriving DecidableEq

/-- The cause between braces, as a record of its parts. -/
def IoCause.message : IoCause → String
  | .invalidData detail =>
    s!"Custom \x7b kind: InvalidData, error: {Text.quoted detail} \x7d"
  | .notUtf8 bytes fault =>
    let length := match fault.length? with
      | some n => s!"Some({n})"
      | none => "None"
    let listed := String.intercalate ", " (bytes.map fun byte => toString byte.toNat)
    s!"Custom \x7b kind: InvalidData, error: FromUtf8Error \x7b bytes: [{listed}], " ++
      s!"error: Utf8Error \x7b valid_up_to: {fault.validUpTo}, error_len: {length} \x7d \x7d \x7d"

/-- Why an external program gave no answer. -/
inductive ToolCause
  /-- There is no such program. -/
  | notFound
  /-- Its name or an argument holds a NUL. -/
  | notPassable
  /-- It exited with a status other than zero; the detail is what it said about it. -/
  | exited (status : Nat) (detail : String)
  /-- It did not answer in time. -/
  | timeout
  /-- Anything else. -/
  | because (detail : String)
  deriving DecidableEq

/-- The text of the cause. -/
def ToolCause.message : ToolCause → String
  | .notFound => "No such file or directory (os error 2)"
  | .notPassable => "nul byte found in provided data"
  | .exited status detail =>
    if detail.isEmpty then s!"exit status: {status}" else s!"exit status: {status} {detail}"
  | .timeout => "timeout"
  | .because detail => detail

/-- Why the store refused. -/
inductive StoreCause
  /-- A table is missing; the table that another refers to is named with its schema. -/
  | noTable (name : String)
  /-- A row would refer to a row that is not there. -/
  | foreignKey
  /-- A column holds nothing where a value is needed. -/
  | nullColumn (index : Nat) (column : String)
  /-- A column holds a number outside the range of its field. -/
  | outOfRange (index : Nat) (value : Int)
  /-- A column of addresses holds a number below or above the addresses. -/
  | notAnAddress (index : Nat) (tooLarge : Bool)
  /-- A column of MAC addresses holds a text that is none. -/
  | notAMac (index : Nat) (error : MacError)
  /-- A query that must give a row gave none. -/
  | noRows
  /-- A row that was just written is not there. -/
  | lost (what : String)
  /-- Anything else. -/
  | because (detail : String)
  deriving DecidableEq

/-- The text of the cause. -/
def StoreCause.message : StoreCause → String
  | .noTable name => s!"no such table: {name}"
  | .foreignKey => "FOREIGN KEY constraint failed"
  | .nullColumn index column => s!"Invalid column type Null at index: {index}, name: {column}"
  | .outOfRange index value => s!"Integer {value} out of range at index {index}"
  | .notAnAddress index tooLarge =>
    let size := if tooLarge then "large" else "small"
    s!"Conversion error from type Integer at index: {index}, " ++
      s!"number too {size} to fit in target type"
  | .notAMac index error =>
    s!"Conversion error from type Text at index: {index}, {error.message}"
  | .noRows => "Query returned no rows"
  | .lost what => s!"lost {what}"
  | .because detail => detail

/-- Why an argument was refused. -/
inductive ArgumentCause
  /-- A port that must have a MAC address has none. -/
  | portWithoutMac (interface : Int)
  /-- A text that must be a MAC address is none. -/
  | notAMac (text : String) (error : MacError)
  /-- There is nothing to remove for a target. -/
  | nothingToRemove (target : String)
  /-- Anything else. -/
  | because (detail : String)
  deriving DecidableEq

/-- The text of the cause. -/
def ArgumentCause.message : ArgumentCause → String
  | .portWithoutMac interface => s!"port {interface} has no MAC address"
  | .notAMac text error => s!"bad MAC {Text.quoted text}: {error.message}"
  | .nothingToRemove target => s!"nothing to remove for {target}"
  | .because detail => detail

/-- A failure of the program. -/
inductive Failure
  /-- Reading or writing failed. -/
  | io (cause : IoCause)
  /-- An external program could not be started or did not do its work. -/
  | tool (program : String) (cause : ToolCause)
  /-- The store refused. -/
  | store (cause : StoreCause)
  /-- An argument was refused. -/
  | argument (cause : ArgumentCause)
  /-- The program may not do what it was asked to. -/
  | privilege (detail : String)
  /-- Anything else. -/
  | other (detail : String)
  deriving DecidableEq

/-- The text of a failure. -/
def Failure.message : Failure → String
  | .io cause => s!"I/O error: {cause.message}"
  | .tool program cause => s!"{program} failed: {cause.message}"
  | .store cause => s!"store error: {cause.message}"
  | .argument cause => s!"Invalid argument: {cause.message}"
  | .privilege detail => s!"insufficient privileges: {detail}"
  | .other detail => s!"error: {detail}"

end CableMap
