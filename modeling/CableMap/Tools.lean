import CableMap.Program
import CableMap.Scan
import CableMap.Trap
import CableMap.Walk.Batch

/-!
# The SNMP tools

Three programs speak SNMP for this one: the scanner finds hosts, the walker reads what they
know, and the trap daemon prints a line for every trap that a host sends.
-/
namespace CableMap

/-- Where the programs are. -/
structure Tools where
  /-- The scanner. -/
  scanner : String
  /-- The walker. -/
  walker : String
  /-- The trap daemon. -/
  trapd : String

namespace Tools

/-- The path of a name in a directory. -/
def pathIn (directory name : String) : String :=
  if directory.isEmpty then name
  else if directory.toList.getLast? = some '/' then directory ++ name
  else directory ++ "/" ++ name

/-- The tools when the scanner and the walker are in one directory. -/
def inDirectory (directory trapd : String) : Tools :=
  ⟨pathIn directory "onesixtyone", pathIn directory "snmpwalk", trapd⟩

/-- The arguments of a scan. -/
def scanArguments (target community : String) : List String :=
  ["-s", "fix", "-q", target, community]

/-- The arguments of a walk. -/
def walkArguments (walk : Walk) : List String :=
  ["-c", walk.community, "-v", "2c", "-One", toString walk.host, walk.oid]

/-- What the trap daemon is told to print for each trap: the time in UTC to the second, a space
and the address. -/
def trapFormat : String := "%#04y-%#02m-%#02lT%#02h:%#02j:%#02k+00:00 %a\\n"

/-- The arguments of the trap daemon. -/
def trapdArguments (configuration : String) : List String :=
  ["-C", "-c", configuration, "-Lo", "-f", "-t", "-n", "-F", trapFormat]

/-- The configuration with which the trap daemon takes traps of a community. -/
def trapdConfiguration (community : String) : String :=
  s!"authCommunity log,execute,net {community}\n"

/-- Find the hosts of a target that answer to a community. -/
def scan (tools : Tools) (programs : Programs) (target community : String) (log : Log.Logger) :
    Traced (Except Failure (List Ipv4)) := do
  let arguments := scanArguments target community
  match ← Program.runLines programs tools.scanner arguments .output log with
  | .ok lines => pure (.ok (← Scan.hosts lines (log.unit "tools")))
  | .error failure => pure (.error failure)

/-- Make a walk. -/
def walk (tools : Tools) (programs : Programs) (walk : Walk) (log : Log.Logger) :
    Traced (Except Failure String) :=
  Program.run programs tools.walker (walkArguments walk) .merged log

/-- Write the configuration of the trap daemon into a directory, start it, and give what it
prints. -/
def listen (tools : Tools) (programs : Programs) (community directory : String)
    (log : Log.Logger) : Traced (Except Failure String) := do
  let configuration := pathIn directory "snmptrapd.conf"
  Traced.event (.wrote configuration (trapdConfiguration community))
  (log.unit "tools").debug s!"wrote {configuration}"
  Program.start programs tools.trapd (trapdArguments configuration) log

end Tools

end CableMap
