import CableMap.Calendar.Rfc3339
import CableMap.Proofs.Calendar
import CableMap.Proofs.Text.Decimal

/-!
# Timestamps in UTC

A time in UTC is written with four digits for the year and two for each other part. Whatever the
calendar has is read back from these as its second.
-/
namespace CableMap

/-- The digits of a date. -/
def Date.chars (date : Date) : List Char :=
  Text.padded 4 date.year ++ '-' :: (Text.padded 2 date.month ++ '-' :: Text.padded 2 date.day)

/-- The digits of a time of day. -/
def UtcTime.clockChars (time : UtcTime) : List Char :=
  Text.padded 2 time.hour ++ ':' :: (Text.padded 2 time.minute ++ ':' :: Text.padded 2 time.second)

/-- The timestamp of a time: its date and its time of day, on a clock that is not offset. -/
def UtcTime.stamp (time : UtcTime) : List Char :=
  time.date.chars ++ 'T' :: (time.clockChars ++ "+00:00".toList)

variable {date : Date} {time : UtcTime} {rest : List Char}

namespace Instant

/-- A padded number is read off the front of a text. -/
theorem number?_padded {width n : Nat} (some : 0 < width) (small : n < Nat.pow 10 width)
    (rest : List Char) : number? width (Text.padded width n ++ rest) = .some (n, rest) := by
  have length := Text.length_padded some small
  have front : (Text.padded width n ++ rest).take width = Text.padded width n :=
    List.take_left' length
  have behind : (Text.padded width n ++ rest).drop width = rest := List.drop_left' length
  rw [number?, front, behind, if_pos length, Text.natural?_padded]
  rfl

/-- A date of the calendar is read off the front of a text. -/
theorem date?_chars (valid : date.isValid = true) (fourDigits : date.year ≤ 9999)
    (rest : List Char) : date? (date.chars ++ rest) = some (date, rest) := by
  have ⟨first, _, last⟩ := Date.isValid_iff.mp valid
  have months := Date.month_le valid
  have ⟨_, days⟩ := Date.monthLength_bounds date.year first months
  have two : 0 < 2 := by decide
  have year := number?_padded (by decide : 0 < 4) (show date.year < 10 ^ 4 by omega)
  have month := number?_padded two (show date.month < 10 ^ 2 by omega)
  have day := number?_padded two (show date.day < 10 ^ 2 by omega)
  have mark (rest : List Char) : mark? ['-'] ('-' :: rest) = some rest := rfl
  simp only [date?, Date.chars, List.append_assoc, List.cons_append, year, mark, month, day,
    Option.bind_eq_bind, Option.bind_some]
  exact if_pos valid

/-- A time of day is read off the front of a text. -/
theorem clock?_chars (real : time.IsReal) (rest : List Char) :
    clock? (time.clockChars ++ rest) = some ((time.secondOfDay, false), rest) := by
  obtain ⟨_, hours, minutes, seconds⟩ := real
  have two : 0 < 2 := by decide
  have hour := number?_padded two (show time.hour < 10 ^ 2 by omega)
  have minute := number?_padded two (show time.minute < 10 ^ 2 by omega)
  have second := number?_padded two (show time.second < 10 ^ 2 by omega)
  have mark (rest : List Char) : mark? [':'] (':' :: rest) = some rest := rfl
  have within : time.hour < 24 ∧ time.minute < 60 ∧ time.second ≤ 60 := by omega
  have kept : min time.second 59 = time.second := by omega
  have notLeap : decide (time.second = 60) = false := decide_eq_false (by omega)
  simp only [clock?, UtcTime.clockChars, List.append_assoc, List.cons_append, hour, mark, minute,
    second, Option.bind_eq_bind, Option.bind_some]
  rw [if_pos within, kept, notLeap]
  rfl

/-- A timestamp in UTC is read as the second of its time. -/
theorem ofRfc3339?_stamp (real : time.IsReal) (fourDigits : time.date.year ≤ 9999) :
    ofRfc3339? time.stamp = some ⟨time.seconds, 0⟩ := by
  have date := date?_chars real.1 fourDigits
  have clock := clock?_chars real
  have mark (rest : List Char) : mark? ['T', 't', ' '] ('T' :: rest) = some rest := rfl
  have fraction : fraction? "+00:00".toList = some (0, "+00:00".toList) := rfl
  have offset : offset? "+00:00".toList = some 0 := by decide
  rw [ofRfc3339?, UtcTime.stamp]
  simp only [date, mark, clock, fraction, offset, Option.bind_eq_bind, Option.bind_some]
  rw [Int.sub_zero]
  rfl

end Instant

end CableMap
