import CableMap.Address.Ipv4
import CableMap.Calendar.Rfc3339
import CableMap.Text.Blank
import CableMap.Text.Search

/-!
# Trap notices

A trap tells that something happened on a host. The trap daemon prints one line for each: when it
came and from which address.
-/
namespace CableMap

/-- What one line of the trap daemon tells. -/
structure TrapNotice where
  /-- When the trap came, if the line says so in a form that can be read. -/
  at? : Option Instant
  /-- The host that sent it. -/
  source : Ipv4
  deriving DecidableEq

namespace TrapNotice

/-- The name of the trap daemon, which stands in lines about itself. -/
def daemonName : String := "snmptrapd"

/-- The address in a text, which may stand in brackets and before a colon. -/
def source? (text : List Char) : Option Ipv4 :=
  Ipv4.ofChars? (Text.stripEnd (fun c => c = ']' || c = ':') (Text.stripStart (· = '[') text))

/-- The notice of a line: two words, a time and an address. Lines about the daemon itself are
none. -/
def ofLine? (line : List Char) : Option TrapNotice :=
  match Text.words line with
  | [time, source] =>
    if Text.occursIn daemonName.toList line then none
    else (source? source).map fun source => ⟨Instant.ofRfc3339? time, source⟩
  | _ => none

end TrapNotice

end CableMap
