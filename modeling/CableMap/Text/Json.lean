import CableMap.Text.Decimal

/-!
# JSON text

Strings and objects as JSON writes them.
-/
namespace CableMap.Text

/-- One character inside a JSON string. The quote, the backslash and the controls are escaped. -/
def jsonChar (c : Char) : List Char :=
  match c with
  | '"' => ['\\', '"']
  | '\\' => ['\\', '\\']
  | '\n' => ['\\', 'n']
  | '\r' => ['\\', 'r']
  | '\t' => ['\\', 't']
  | c => if c.toNat < 32 then '\\' :: 'u' :: '0' :: '0' :: hexOctet (.ofNat c.toNat) else [c]

/-- A text as a JSON string. -/
def jsonString (text : String) : String :=
  String.ofList ('"' :: text.toList.flatMap jsonChar ++ ['"'])

/-- Members, their values already written, as a JSON object. -/
def jsonObject (members : List (String × String)) : String :=
  let written := members.map fun (key, value) => jsonString key ++ ":" ++ value
  "\x7b" ++ String.intercalate "," written ++ "\x7d"

end CableMap.Text
