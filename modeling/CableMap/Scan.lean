import CableMap.Text.Blank
import CableMap.Text.Quoted
import CableMap.Trace

/-!
# Scan output

Each line of the scanner begins with the address of a host that answered. A host that answers
more than once counts once, where it answered first.
-/
namespace CableMap.Scan

/-- The host that a line names. A line that begins with anything else is reported. -/
def host? (log : Log.Logger) (line : String) : Traced (Option Ipv4) := do
  match Text.words line.toList with
  | [] => pure none
  | word :: _ =>
    let host? := Ipv4.ofChars? word
    if host?.isNone then log.warning s!"ignoring scan output {Text.quoted line}"
    pure host?

/-- The hosts that lines name, each once, in the order of the first line that names it. -/
def hosts (lines : List String) (log : Log.Logger) : Traced (List Ipv4) := do
  let named ← lines.mapM (host? log)
  pure (named.filterMap id).eraseDups

end CableMap.Scan
