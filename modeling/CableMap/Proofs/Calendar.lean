import CableMap.Calendar
import Mathlib.Logic.Function.Iterate

/-!
# The calendar, second by second

A time in UTC is a date and a time of day. Counted one second after the other, over the ends of
minutes, hours, days, months and years, every time of the calendar comes to the number that the days
before its year and its month give, and no two come to one number.
-/
namespace CableMap

/-! ## Stretches -/

section Stretches

variable (start length : Nat → Nat) (follows : ∀ n, start (n + 1) = start n + length n)

include follows

/-- Of stretches that follow each other each ends before any later one begins. -/
theorem end_le_start {m n : Nat} (before : m < n) : start m + length m ≤ start n := by
  induction n with
  | zero => exact absurd before (Nat.not_lt_zero m)
  | succ n ih =>
    have later := follows n
    by_cases last : m = n
    · rw [last]
      omega
    · have earlier := ih (by omega)
      omega

/-- A place is in one of them only. -/
theorem eq_of_same_place {m n x y : Nat} (first : x < length m) (second : y < length n)
    (same : start m + x = start n + y) : m = n := by
  rcases Nat.lt_trichotomy m n with before | equal | behind
  · have apart := end_le_start start length follows before
    omega
  · exact equal
  · have apart := end_le_start start length follows behind
    omega

end Stretches

namespace Date

variable {date other : Date} {year month : Nat}

/-! ## Years and months -/

/-- The days of a year. -/
def yearLength (year : Nat) : Nat := if isLeap year then 366 else 365

/-- The days of a month of a year. -/
def monthLength (year month : Nat) : Nat := ((monthLengths year)[month - 1]?).getD 0

/-- A year begins when the year before it ends. -/
theorem daysBeforeYear_succ (year : Nat) :
    daysBeforeYear (year + 1) = daysBeforeYear year + yearLength year := by
  have fourths : (year + 1 + 3) / 4 = (year + 3) / 4 + if year % 4 = 0 then 1 else 0 := by
    split <;> omega
  have centuries : (year + 1 + 99) / 100 = (year + 99) / 100 + if year % 100 = 0 then 1 else 0 := by
    split <;> omega
  have fourthCenturies :
      (year + 1 + 399) / 400 = (year + 399) / 400 + if year % 400 = 0 then 1 else 0 := by
    split <;> omega
  have few : (year + 99) / 100 ≤ year := by omega
  have ofCentury : year % 100 = 0 → year % 4 = 0 := by omega
  have ofFourthCentury : year % 400 = 0 → year % 100 = 0 := by omega
  unfold daysBeforeYear yearLength isLeap
  rw [fourths, centuries, fourthCenturies]
  generalize (year + 3) / 4 = a, (year + 99) / 100 = b, (year + 399) / 400 = c at few ⊢
  by_cases fourth : year % 4 = 0
  · by_cases century : year % 100 = 0
    · by_cases fourthCentury : year % 400 = 0
      · simp [fourth, century, fourthCentury]
        omega
      · simp [fourth, century, fourthCentury]
        omega
    · have common : year % 400 ≠ 0 := mt ofFourthCentury century
      simp [fourth, century, common]
      omega
  · have common : year % 100 ≠ 0 := mt ofCentury fourth
    have common' : year % 400 ≠ 0 := mt ofFourthCentury common
    simp [fourth, common, common']
    omega

/-- A month begins when the month before it ends. -/
theorem daysBeforeMonth_succ (year : Nat) (first : 1 ≤ month) :
    daysBeforeMonth year (month + 1) = daysBeforeMonth year month + monthLength year month := by
  have place : month + 1 - 1 = month - 1 + 1 := by omega
  rw [daysBeforeMonth, place, List.take_add_one, List.foldl_append, daysBeforeMonth, monthLength]
  cases (monthLengths year)[month - 1]? <;> rfl

/-- The months make up the year. -/
theorem daysBeforeMonth_end (year : Nat) : daysBeforeMonth year 13 = yearLength year := by
  unfold daysBeforeMonth yearLength monthLengths
  cases isLeap year <;> rfl

/-- A date is valid exactly if its month is one, and its day is one of the days of that month. -/
theorem isValid_iff : date.isValid = true ↔
    1 ≤ date.month ∧ 1 ≤ date.day ∧ date.day ≤ monthLength date.year date.month := by
  simp only [isValid, monthLength, Bool.and_eq_true, decide_eq_true_eq, and_assoc]

/-- There is no thirteenth month. -/
theorem monthLength_eq_zero (late : 12 < month) : monthLength year month = 0 := by
  have twelve : (monthLengths year).length ≤ month - 1 := by
    have length : (monthLengths year).length = 12 := rfl
    omega
  rw [monthLength, List.getElem?_eq_none twelve, Option.getD_none]

/-- A month has 28 days or more, and 31 at most. -/
theorem monthLength_bounds (year : Nat) (first : 1 ≤ month) (last : month ≤ 12) :
    28 ≤ monthLength year month ∧ monthLength year month ≤ 31 := by
  have place : month - 1 < 12 := by omega
  unfold monthLength monthLengths
  revert place
  generalize month - 1 = place
  cases isLeap year <;> revert place <;> decide

/-- There are no more than twelve months in a valid date. -/
theorem month_le (valid : date.isValid = true) : date.month ≤ 12 := by
  have ⟨_, first, last⟩ := isValid_iff.mp valid
  by_contra late
  rw [monthLength_eq_zero (by omega)] at last
  omega

/-- The months up to one make up no more than the year. -/
theorem daysBeforeMonth_add_le (year : Nat) (first : 1 ≤ month) (last : month ≤ 12) :
    daysBeforeMonth year month + monthLength year month ≤ yearLength year := by
  have ends := end_le_start (fun place => daysBeforeMonth year (place + 1))
    (fun place => monthLength year (place + 1))
    (fun place => daysBeforeMonth_succ _ (Nat.le_add_left 1 place)) (show month - 1 < 12 by omega)
  simp only [Nat.sub_add_cancel first] at ends
  rwa [daysBeforeMonth_end] at ends

/-! ## Days -/

/-- The day after a date. -/
def next (date : Date) : Date :=
  if date.day < monthLength date.year date.month then { date with day := date.day + 1 }
  else if date.month < 12 then ⟨date.year, date.month + 1, 1⟩
  else ⟨date.year + 1, 1, 1⟩

/-- The calendar has the first day of every month. -/
theorem isValid_first (year : Nat) (first : 1 ≤ month) (last : month ≤ 12) :
    isValid ⟨year, month, 1⟩ = true := by
  have bounds := monthLength_bounds year first last
  exact isValid_iff.mpr ⟨first, Nat.le_refl 1, by dsimp only; omega⟩

/-- The day after a valid date is a valid date. -/
theorem isValid_next (valid : date.isValid = true) : date.next.isValid = true := by
  have ⟨month, day, _⟩ := isValid_iff.mp valid
  unfold next
  split
  · rename_i within
    exact isValid_iff.mpr ⟨month, Nat.le_add_left 1 _, within⟩
  · split
    · rename_i early
      exact isValid_first _ (Nat.le_add_left 1 _) early
    · exact isValid_first _ (Nat.le_refl 1) (by decide)

/-- The day after a date has the next number. -/
theorem dayNumber_next (valid : date.isValid = true) :
    date.next.dayNumber = date.dayNumber + 1 := by
  have ⟨month, day, last⟩ := isValid_iff.mp valid
  unfold next
  split
  · simp only [dayNumber]
    omega
  · have lastDay : date.day = monthLength date.year date.month := by omega
    have follows := daysBeforeMonth_succ date.year month
    split
    · simp only [dayNumber]
      omega
    · have twelve : date.month = 12 := by
        have bound := month_le valid
        omega
      have ends := daysBeforeMonth_end date.year
      have begins := daysBeforeYear_succ date.year
      have january : daysBeforeMonth (date.year + 1) 1 = 0 := rfl
      rw [twelve] at follows lastDay
      rw [follows] at ends
      simp only [dayNumber, twelve, january]
      omega

/-- No two dates have one number. -/
theorem dayNumber_inj (valid : date.isValid = true) (valid' : other.isValid = true)
    (same : date.dayNumber = other.dayNumber) : date = other := by
  have ⟨first, day, last⟩ := isValid_iff.mp valid
  have ⟨first', day', last'⟩ := isValid_iff.mp valid'
  have within := daysBeforeMonth_add_le date.year first (month_le valid)
  have within' := daysBeforeMonth_add_le other.year first' (month_le valid')
  simp only [dayNumber] at same
  -- The two are in one year, then in one month of it, then on one day.
  have year : date.year = other.year := by
    refine eq_of_same_place daysBeforeYear yearLength daysBeforeYear_succ
      (x := daysBeforeMonth date.year date.month + (date.day - 1))
      (y := daysBeforeMonth other.year other.month + (other.day - 1)) ?_ ?_ ?_ <;> omega
  rw [year] at same last
  have month : date.month - 1 = other.month - 1 := by
    refine eq_of_same_place (fun place => daysBeforeMonth other.year (place + 1))
      (fun place => monthLength other.year (place + 1))
      (fun place => daysBeforeMonth_succ _ (Nat.le_add_left 1 place)) (x := date.day - 1)
      (y := other.day - 1) ?_ ?_ ?_
    all_goals
      simp only [Nat.sub_add_cancel first, Nat.sub_add_cancel first']
      omega
  have month : date.month = other.month := by omega
  rw [month] at same
  have day : date.day = other.day := by omega
  cases date
  cases other
  rw [Date.mk.injEq]
  exact ⟨year, month, day⟩

end Date

/-! ## Times -/

/-- A time in UTC to the second. -/
structure UtcTime where
  /-- The date. -/
  date : Date
  /-- The hour. -/
  hour : Nat
  /-- The minute of the hour. -/
  minute : Nat
  /-- The second of the minute. -/
  second : Nat
  deriving DecidableEq

namespace UtcTime

variable {time other : UtcTime} {n : Int}

/-- The calendar and the clock have the time. -/
def IsReal (time : UtcTime) : Prop :=
  time.date.isValid = true ∧ time.hour < 24 ∧ time.minute < 60 ∧ time.second < 60

instance (time : UtcTime) : Decidable time.IsReal := inferInstanceAs (Decidable (_ ∧ _))

/-- The second after a time. -/
def next (time : UtcTime) : UtcTime :=
  if time.second < 59 then { time with second := time.second + 1 }
  else if time.minute < 59 then ⟨time.date, time.hour, time.minute + 1, 0⟩
  else if time.hour < 23 then ⟨time.date, time.hour + 1, 0, 0⟩
  else ⟨time.date.next, 0, 0, 0⟩

/-- The start of 1970. -/
def start : UtcTime := ⟨⟨1970, 1, 1⟩, 0, 0, 0⟩

/-- A time is so many seconds from the start of 1970, counted one after the other. -/
inductive CountsTo : UtcTime → Int → Prop
  /-- The count begins at the start of 1970. -/
  | start : CountsTo start 0
  /-- It goes forwards -/
  | next {time : UtcTime} {n : Int} (counted : CountsTo time n) : CountsTo time.next (n + 1)
  /-- and backwards. -/
  | previous {time : UtcTime} {n : Int} (real : time.IsReal)
      (counted : CountsTo time.next (n + 1)) : CountsTo time n

/-- The seconds of a day before a time. -/
def secondOfDay (time : UtcTime) : Nat := time.hour * 3600 + time.minute * 60 + time.second

/-- The seconds of a time by its days. -/
def seconds (time : UtcTime) : Int := time.date.dayNumber * 86400 + time.secondOfDay

/-- The second after a real time is a real time. -/
theorem isReal_next (real : time.IsReal) : time.next.IsReal := by
  obtain ⟨date, hour, minute, second⟩ := real
  have zero : 0 < 60 := by decide
  unfold next
  split
  · rename_i early
    exact ⟨date, hour, minute, Nat.succ_lt_succ early⟩
  · split
    · rename_i early
      exact ⟨date, hour, Nat.succ_lt_succ early, zero⟩
    · split
      · rename_i early
        exact ⟨date, Nat.succ_lt_succ early, zero, zero⟩
      · exact ⟨Date.isValid_next date, (by decide : 0 < 24), zero, zero⟩

/-- A second later there is one second more. -/
theorem seconds_next (real : time.IsReal) : time.next.seconds = time.seconds + 1 := by
  obtain ⟨date, hour, minute, second⟩ := real
  unfold next
  split
  · simp only [seconds, secondOfDay]
    omega
  · split
    · simp only [seconds, secondOfDay]
      omega
    · split
      · simp only [seconds, secondOfDay]
        omega
      · have later := Date.dayNumber_next date
        simp only [seconds, secondOfDay]
        omega

/-- No two times have one number of seconds. -/
theorem seconds_inj (real : time.IsReal) (real' : other.IsReal)
    (same : time.seconds = other.seconds) : time = other := by
  obtain ⟨date, hour, minute, second⟩ := real
  obtain ⟨date', hour', minute', second'⟩ := real'
  simp only [seconds, secondOfDay] at same
  have days : time.date.dayNumber = other.date.dayNumber := by omega
  have sameDate := Date.dayNumber_inj date date' days
  cases time
  cases other
  rw [UtcTime.mk.injEq]
  dsimp only at *
  exact ⟨sameDate, by omega, by omega, by omega⟩

/-- As many seconds later there are as many seconds more. -/
theorem seconds_iterate (real : time.IsReal) (k : Nat) :
    (next^[k] time).IsReal ∧ (next^[k] time).seconds = time.seconds + k := by
  induction k with
  | zero => exact ⟨real, (Int.add_zero _).symm⟩
  | succ k ih =>
    rw [Function.iterate_succ_apply', seconds_next ih.1, ih.2]
    exact ⟨isReal_next ih.1, by omega⟩

/-- The time from which seconds are counted is real. -/
theorem isReal_start : start.IsReal := by decide

/-- Seconds are counted from zero. -/
theorem seconds_start : start.seconds = 0 := by decide

/-- What is counted is a time and has the seconds of its days. -/
theorem CountsTo.sound (counted : CountsTo time n) : time.IsReal ∧ n = time.seconds := by
  induction counted with
  | start => exact ⟨isReal_start, seconds_start.symm⟩
  | next _ ih => exact ⟨isReal_next ih.1, by rw [seconds_next ih.1, ih.2]⟩
  | previous real _ ih =>
    have later := seconds_next real
    exact ⟨real, by omega⟩

/-- From the start one second after the other is counted one higher each. -/
theorem countsTo_iterate (k : Nat) : CountsTo (next^[k] start) k := by
  induction k with
  | zero => exact .start
  | succ k ih =>
    rw [Function.iterate_succ_apply']
    exact ih.next

/-- The count goes back from a time as far as one likes. -/
theorem countsTo_of_iterate (real : time.IsReal) {k : Nat}
    (counted : CountsTo (next^[k] time) (n + k)) : CountsTo time n := by
  induction k generalizing time n with
  | zero => simpa using counted
  | succ k ih =>
    refine .previous real (ih (isReal_next real) ?_)
    have same : n + 1 + (k : Int) = n + ((k + 1 : Nat) : Int) := by omega
    rw [same]
    exact counted

/-- Every time is counted, and to the seconds of its days. -/
theorem countsTo_iff : CountsTo time n ↔ time.IsReal ∧ n = time.seconds := by
  constructor
  · exact CountsTo.sound
  · rintro ⟨real, rfl⟩
    -- As many steps from the start of 1970, or back to it, lead to a time with the same number.
    by_cases later : 0 ≤ time.seconds
    · have ⟨reached, counted⟩ := seconds_iterate isReal_start time.seconds.toNat
      rw [seconds_start] at counted
      have same := seconds_inj reached real (by omega)
      have forwards := countsTo_iterate time.seconds.toNat
      rwa [same, Int.toNat_of_nonneg later] at forwards
    · have ⟨reached, counted⟩ := seconds_iterate real (-time.seconds).toNat
      have same := seconds_inj reached isReal_start (by rw [seconds_start]; omega)
      refine countsTo_of_iterate (k := (-time.seconds).toNat) real ?_
      have zero : time.seconds + ((-time.seconds).toNat : Int) = 0 := by omega
      rw [same, zero]
      exact .start

end UtcTime

end CableMap
