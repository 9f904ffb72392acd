/-!
# Finding characters and texts

Cuts at the first place where a character or a text stands.
-/
namespace CableMap.Text

/-- The text before the first occurrence of a character and the text from it on. -/
def cutAt? (mark : Char) (text : List Char) : Option (List Char × List Char) :=
  match text.dropWhile (· ≠ mark) with
  | [] => none
  | after => some (text.takeWhile (· ≠ mark), after)

/-- What follows a start, if the text begins with it. -/
def afterStart? : List Char → List Char → Option (List Char)
  | [], text => some text
  | _ :: _, [] => none
  | s :: start, c :: text => if s = c then afterStart? start text else none

/-- The sought text stands somewhere in the text. -/
def occursIn (sought : List Char) : List Char → Bool
  | [] => sought.isEmpty
  | c :: rest => sought.isPrefixOf (c :: rest) || occursIn sought rest

end CableMap.Text
