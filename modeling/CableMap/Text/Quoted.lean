import CableMap.Text.Combining
import CableMap.Text.Decimal
import CableMap.Text.Unprintable

/-!
# Quoted texts

A text in double quotes, written so that every character of it can be seen.
-/
namespace CableMap.Text

/-- A character by its code point: `\u` and hexadecimal digits in braces. -/
def codePoint (c : Char) : List Char :=
  '\\' :: 'u' :: '\x7b' :: hexDigits c.toNat ++ ['\x7d']

/-- One character inside quotes. The quote, the backslash and four controls have short forms;
a character that cannot be seen alone is written by its code point. -/
def quotedChar (c : Char) : List Char :=
  match c with
  | '"' => ['\\', '"']
  | '\\' => ['\\', '\\']
  | '\n' => ['\\', 'n']
  | '\r' => ['\\', 'r']
  | '\t' => ['\\', 't']
  | '\x00' => ['\\', '0']
  | c => if isCombining c || isUnprintable c then codePoint c else [c]

/-- A text between double quotes. -/
def quoted (text : String) : String :=
  String.ofList ('"' :: text.toList.flatMap quotedChar ++ ['"'])

end CableMap.Text
