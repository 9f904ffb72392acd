/-!
# Blanks, words and lines

The blank characters are those of Unicode's `White_Space` property. A text is cut three ways:
its blanks are taken off both ends, it falls into words at its blanks, and it falls into lines
at its newlines.
-/
namespace CableMap.Text

/-- The characters of Unicode's `White_Space` property, by rising code point. -/
def blanks : List Char :=
  ['\t', '\n', '\x0b', '\x0c', '\r', ' ', '\u0085', '\u00a0', '\u1680', '\u2000', '\u2001',
    '\u2002', '\u2003', '\u2004', '\u2005', '\u2006', '\u2007', '\u2008', '\u2009', '\u200a',
    '\u2028', '\u2029', '\u202f', '\u205f', '\u3000']

/-- A character of the `White_Space` property. -/
def isBlank (c : Char) : Bool := blanks.contains c

/-- The text after its leading characters of a class. -/
def stripStart (strip : Char → Bool) (text : List Char) : List Char := text.dropWhile strip

/-- The text before its trailing characters of a class. -/
def stripEnd (strip : Char → Bool) (text : List Char) : List Char :=
  (text.reverse.dropWhile strip).reverse

/-- The text between its leading and its trailing characters of a class. -/
def stripBoth (strip : Char → Bool) (text : List Char) : List Char :=
  stripEnd strip (stripStart strip text)

/-- The text without the blanks around it. -/
def trim (text : List Char) : List Char := stripBoth isBlank text

/-- The maximal runs of characters that are not blank, in order. -/
def words (text : List Char) : List (List Char) :=
  (text.splitOnP isBlank).filter (! ·.isEmpty)

/-- A line that was ended by a newline loses one return before that newline. -/
def dropReturn {α : Type} [BEq α] (ret : α) (line : List α) : List α :=
  if line.getLast? == some ret then line.dropLast else line

/-- The lines of a text. Each newline ends a line and a return before it belongs to the ending;
what follows the last newline is a line if there is anything, kept as it stands. -/
def linesOf {α : Type} [BEq α] (newline ret : α) (text : List α) : List (List α) :=
  let pieces := text.splitOn newline
  pieces.dropLast.map (dropReturn ret) ++ (pieces.getLast?.toList.filter (! ·.isEmpty))

/-- The lines of a text in characters. -/
def lines (text : List Char) : List (List Char) := linesOf '\n' '\r' text

end CableMap.Text
