import CableMap.Binding.Reader
import CableMap.Walk.Batch

/-!
# Recorded hosts

A recording answers walks in place of a host: from the lines of one long text, from texts kept
for single identifiers, or not at all.
-/
namespace CableMap

/-- What was recorded of a host. -/
structure Recording where
  /-- The lines of all walks together. -/
  text : String
  /-- The identifiers with an output of their own. -/
  outputs : List (Oid × String)
  /-- The identifiers whose walks fail. -/
  failing : List Oid

namespace Recording

/-- The program whose walks were recorded. -/
def program : String := "snmpwalk"

/-- The failure of a walk that is not answered. -/
def unanswered : Failure := .tool program .timeout

/-- The lines of a recording that mention an identifier, each ended by a newline. -/
def linesOf (recording : Recording) (oid : Oid) : String :=
  let mentioning := (Text.lines recording.text.toList).filter fun line =>
    (oid.mention? line).isSome
  String.ofList (mentioning.flatMap (· ++ ['\n']))

/-- The answer to the walk of an identifier. -/
def answer (recording : Recording) (oid : Oid) : Except Failure String :=
  if recording.failing.contains oid then .error unanswered
  else .ok ((recording.outputs.lookup oid).getD (recording.linesOf oid))

/-- The answers of recorded hosts. A host that was not recorded does not answer. -/
def answers (hosts : List (Ipv4 × Recording)) : Walk.Answers := fun _ walk =>
  pure (match hosts.lookup walk.host with
    | some recording => recording.answer walk.oid
    | none => .error unanswered)

end Recording

end CableMap
