import CableMap.Failure
import CableMap.Log

/-!
# Log files

A log file is named by a path: directories, each inside the one before, and a name at the end. The
file is made if it is not there, but its directories are not. Names and paths have a greatest
length, which counts the bytes of their UTF-8 form.
-/
namespace CableMap.Log

/-- A path to a file. -/
structure Path where
  /-- It begins at the root; otherwise it begins where the program runs. -/
  fromRoot : Bool
  /-- The directories on the way, without the steps that stay in place. -/
  directories : List String
  /-- What stands at the end. -/
  name : String
  deriving DecidableEq

/-- A step of a path that leads nowhere else. -/
def staysInPlace (step : String) : Bool := step = "" || step = "."

/-- The path that a text writes, with a slash between its steps. -/
def Path.ofString (text : String) : Path :=
  let steps := (text.toList.splitOn '/').map String.ofList
  { fromRoot := text.toList.head? = some '/'
    directories := steps.dropLast.filter (! staysInPlace ·)
    name := steps.getLast?.getD "" }

/-- The most bytes of a name. -/
def longestName : Nat := 255

/-- The most bytes of a path. -/
def longestPath : Nat := 4095

/-- A file may have the name: it leads to no directory, and is not too long. -/
def isFileName (name : String) : Bool :=
  ! staysInPlace name && name ≠ ".." && name.utf8ByteSize ≤ longestName

/-- A text may write a path: it holds no NUL, and is not too long. -/
def isPathText (text : String) : Bool :=
  ! text.toList.contains '\x00' && text.utf8ByteSize ≤ longestPath

/-- Open a log file, when it is known of steps from the root and from here whether they lead to a
directory. -/
def openFile (isDirectory : Bool → List String → Bool) (text : String) : Except Failure Unit :=
  let path := Path.ofString text
  let isFile := isPathText text && isFileName path.name &&
    isDirectory path.fromRoot path.directories &&
    ! isDirectory path.fromRoot (path.directories ++ [path.name])
  if isFile then .ok () else .error (.other s!"opening log file {text}")

end CableMap.Log
