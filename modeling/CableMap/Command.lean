import CableMap.Log

/-!
# Commands

What the program can be asked to do, with all that it is told about how to do it.
-/
namespace CableMap

/-- How to watch over a network. -/
structure RunOptions where
  /-- What the scan looks through: a host, a range or a subnet. -/
  target : String
  /-- The community that every request names. -/
  community : String
  /-- The file that records are logged to. -/
  logFile? : Option String
  /-- How records are written. -/
  logFormat : Log.Format
  /-- The file of the database. -/
  database : String
  /-- Keep what the database holds. -/
  keepDatabase : Bool
  /-- The directory of the scanner and the walker. -/
  toolsDirectory? : Option String
  /-- The trap daemon. -/
  trapd : String
  /-- The directory for the configuration of the trap daemon. -/
  stateDirectory : String
  /-- The milliseconds between two looks for traps. -/
  pollMilliseconds? : Option Nat
  /-- The most traps that wait. -/
  trapCapacity? : Option Nat
  /-- The seconds between two rescans. -/
  rescanSeconds? : Option Nat
  /-- Run without asking for privileges. -/
  skipsPrivilegeCheck : Bool
  deriving DecidableEq

/-- What the program can be asked to do. -/
inductive Command
  /-- Watch over a network. -/
  | run (options : RunOptions)
  /-- Report the network in a database. -/
  | report (database : String)
  /-- Forget a device or a port, or a link if a peer is named. -/
  | forget (database target : String) (peer? : Option String)
  deriving DecidableEq

end CableMap
