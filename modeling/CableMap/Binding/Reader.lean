import CableMap.Binding
import CableMap.Trace

/-!
# Reading walk output

A line of walk output belongs to the first identifier of the catalog that it mentions. It is a
binding if an equals sign and then a colon follow the mention; a line that mentions an
identifier and is no binding is reported, and every other line is passed over.
-/
namespace CableMap

namespace Oid

/-- An identifier is complete where a dot or a space follows it; anything else belongs to a
longer one. -/
def isComplete : List Char → Bool
  | c :: _ => c = '.' || c = ' '
  | [] => false

/-- What follows the first complete occurrence of an identifier, after some characters are
passed over. Occurrences are looked for after the end of the one before. -/
def mentionFrom (oid : List Char) : Nat → List Char → Option (List Char)
  | _, [] => none
  | skip + 1, _ :: text => mentionFrom oid skip text
  | 0, c :: text =>
    match Text.afterStart? oid (c :: text) with
    | some rest => if isComplete rest then some rest else mentionFrom oid (oid.length - 1) text
    | none => mentionFrom oid 0 text

/-- What follows the first complete occurrence of an identifier in a text. -/
def mention? (oid : Oid) (text : List Char) : Option (List Char) :=
  mentionFrom oid.toList 0 text

/-- A text mentions an identifier. -/
def isMentionedIn (oid : Oid) (text : String) : Bool := (mention? oid text.toList).isSome

end Oid

/-- The identifiers of a catalog that a line mentions, each with what follows its mention. -/
def Catalog.mentions (catalog : Catalog) (line : List Char) : List (Oid × List Char) :=
  catalog.filterMap fun oid => (oid.mention? line).map fun rest => (oid, rest)

/-- Every identifier of a catalog is mentioned in a text. Those that are not are logged. -/
def Catalog.allMentionedIn (catalog : Catalog) (text : String) (log : Log.Logger) :
    Traced Bool := do
  let found ← catalog.mapM fun oid => do
    let found := oid.isMentionedIn text
    unless found do log.debug s!"walk output is missing {oid}"
    pure found
  pure (found.all id)

namespace Binding

/-- The binding that follows the mention of an identifier: its row up to the equals sign, its
type up to the colon, and its value, each without the marks around it. -/
def ofRest? (oid : Oid) (rest : List Char) : Option Binding := do
  let (index, typed) ← Text.cutAt? '=' rest
  let (type, value) ← Text.cutAt? ':' typed
  pure {
    oid
    index := String.ofList (Text.stripBoth (fun c => c = '.' || c = ' ') index)
    type := .ofTag (String.ofList (Text.stripBoth (fun c => c = '=' || c = ' ') type))
    value := String.ofList (Text.stripBoth (fun c => c = ':' || c = ' ' || c = '"') value) }

/-- The binding of a line, if the line is one. -/
def ofLine? (catalog : Catalog) (host : Ipv4) (log : Log.Logger) (line : List Char) :
    Traced (Option Binding) :=
  match catalog.mentions line with
  | [] => pure none
  | (oid, rest) :: others => do
    let fields : List Log.Field := [⟨"host", toString host⟩, ⟨"line", String.ofList line⟩]
    unless others.isEmpty do
      log.write .warning s!"line matches multiple OIDs, using {oid}" fields
    let binding? := ofRest? oid rest
    if binding?.isNone then
      log.write .warning "line doesn't contain expected format" fields
    pure binding?

/-- The bindings of a text, line by line. -/
def readAll (catalog : Catalog) (host : Ipv4) (log : Log.Logger) (text : String) :
    Traced (List Binding) := do
  let read ← (Text.lines text.toList).mapM (ofLine? catalog host log)
  pure (read.filterMap id)

end Binding

end CableMap
