import CableMap.Failure
import CableMap.Trace

/-!
# Walking a catalog

The walks of a catalog are made in order until one fails. Their outputs follow each other, each
ended by a newline.
-/
namespace CableMap

namespace Walk

/-- The answers of hosts to walks. An answer may depend on how many walks were made before. -/
abbrev Answers := Nat → Walk → Traced (Except Failure String)

/-- The text with a newline at its end. -/
def endLine (text : String) : String :=
  if text.toList.getLast? = some '\n' then text else text ++ "\n"

/-- Walk every identifier of a catalog. -/
def batch {m : Type → Type} [Monad m] (ask : Oid → m String) (catalog : Catalog) : m String :=
  catalog.foldlM (fun text oid => do pure (endLine (text ++ (← ask oid)))) ""

/-- Make a walk that nothing was walked before, and record that it was asked for. -/
def ask (answers : Answers) (walk : Walk) : ExceptT Failure Traced String :=
  ExceptT.mk do
    Traced.event (.walked walk)
    answers 0 walk

end Walk

end CableMap
