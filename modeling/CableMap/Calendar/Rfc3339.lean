import CableMap.Calendar
import CableMap.Text.Decimal

/-!
# RFC 3339 timestamps

A timestamp is a date, a time of day with any number of decimals, and the offset of its clock
from UTC. Each part is read off the front of the text; nothing may follow the last.
-/
namespace CableMap.Instant

/-- The number that exactly so many digits write at the front of a text, and the rest. -/
def number? (width : Nat) (text : List Char) : Option (Nat × List Char) :=
  if (text.take width).length = width then
    (Text.natural? (text.take width)).map fun n => (n, text.drop width)
  else none

/-- The rest of a text after one of some marks. -/
def mark? (marks : List Char) : List Char → Option (List Char)
  | c :: rest => if marks.contains c then some rest else none
  | [] => none

/-- The date at the front of a text, and the rest. -/
def date? (text : List Char) : Option (Date × List Char) := do
  let (year, text) ← number? 4 text
  let (month, text) ← number? 2 (← mark? ['-'] text)
  let (day, text) ← number? 2 (← mark? ['-'] text)
  let date : Date := ⟨year, month, day⟩
  if date.isValid then some (date, text) else none

/-- The time of day at the front of a text in seconds, and the rest. The second 60 may follow
the second 59 of any minute. -/
def clock? (text : List Char) : Option ((Nat × Bool) × List Char) := do
  let (hour, text) ← number? 2 text
  let (minute, text) ← number? 2 (← mark? [':'] text)
  let (second, text) ← number? 2 (← mark? [':'] text)
  if hour < 24 ∧ minute < 60 ∧ second ≤ 60 then
    some ((hour * 3600 + minute * 60 + min second 59, second = 60), text)
  else none

/-- The nanoseconds that the decimals at the front of a text write, and the rest. There are none
without a point; a point needs a digit after it, and digits past the ninth are dropped. -/
def fraction? : List Char → Option (Nat × List Char)
  | '.' :: text => do
    let digits := text.takeWhile Char.isDigit
    let kept := digits.take 9
    let value ← Text.natural? kept
    some (value * Nat.pow 10 (9 - kept.length), text.dropWhile Char.isDigit)
  | text => some (0, text)

/-- The offset of a clock from UTC in seconds, which a whole text writes. -/
def offset? (text : List Char) : Option Int := do
  match text with
  | ['Z'] | ['z'] => some 0
  | sign :: text =>
    let (hours, text) ← number? 2 text
    let (minutes, text) ← number? 2 (← mark? [':'] text)
    if hours < 24 ∧ minutes < 60 ∧ text.isEmpty then
      let offset : Int := hours * 3600 + minutes * 60
      if sign = '+' then some offset
      else if sign = '-' ∨ sign = '\u2212' then some (-offset)
      else none
    else none
  | [] => none

/-- The instant that a text writes. -/
def ofRfc3339? (text : List Char) : Option Instant := do
  let (date, text) ← date? text
  let ((clock, leap), text) ← clock? (← mark? ['T', 't', ' '] text)
  let (nanoseconds, text) ← fraction? text
  let offset ← offset? text
  some {
    seconds := date.dayNumber * 86400 + clock - offset
    nanoseconds := nanoseconds + if leap then 1000000000 else 0 }

end CableMap.Instant
