import CableMap.Text.Decimal
import Mathlib.Data.List.Induction

/-!
# Numbers written in digits

A number written in digits is read back as that number, with a limit or a sign if it has one. No
other text is read as it: what is read is a numeral that writes the number, and the number fits.
-/
namespace CableMap.Text

/-- The text of a number is its decimal digits. -/
theorem toList_toString_nat (n : Nat) : (toString n).toList = Nat.toDigits 10 n := by
  rw [Nat.toString_eq_repr, Nat.toList_repr]

/-- The decimal digits of a number are digits. -/
theorem isDigit_toDigits (n : Nat) : ∀ c ∈ Nat.toDigits 10 n, c.isDigit = true :=
  fun _ inside => Nat.isDigit_of_mem_toDigits (by decide) (by decide) inside

/-- The digits of a number are read back as the number. -/
theorem natural?_toDigits (n : Nat) : natural? (Nat.toDigits 10 n) = some n := by
  have some? : (! (Nat.toDigits 10 n).isEmpty && (Nat.toDigits 10 n).all Char.isDigit) = true := by
    simpa [Nat.toDigits_ne_nil] using isDigit_toDigits n
  rw [natural?, if_pos some?, Nat.ofDigitChars_toDigits (by decide) (by decide)]

/-- No digit is a sign. -/
theorem head?_toDigits_ne (sign : Char) (n : Nat) (other : sign.isDigit = false) :
    (Nat.toDigits 10 n).head? ≠ some sign := by
  intro first
  have digit := isDigit_toDigits n sign (List.mem_of_mem_head? first)
  rw [other] at digit
  exact Bool.noConfusion digit

/-- A number within a limit is read back from its text. -/
theorem unsigned?_toString {limit n : Nat} (small : n ≤ limit) :
    unsigned? limit (toString n).toList = some n := by
  rw [toList_toString_nat, unsigned?, if_neg (head?_toDigits_ne '+' n (by decide)),
    natural?_toDigits]
  simp [small]

/-- A number without a sign is read as an integer. -/
theorem integer?_toDigits (n : Nat) : integer? (Nat.toDigits 10 n) = some (n : Int) := by
  have minus := head?_toDigits_ne '-' n (by decide)
  have plus := head?_toDigits_ne '+' n (by decide)
  have read := natural?_toDigits n
  revert minus plus read
  generalize Nat.toDigits 10 n = digits
  intro minus plus read
  unfold integer?
  split
  · simp at minus
  · simp at plus
  · rw [read]
    rfl

/-- An integer is read back from its text. -/
theorem integer?_toString (n : Int) : integer? (toString n).toList = some n := by
  cases n with
  | ofNat n => exact (congrArg integer? (toList_toString_nat n)).trans (integer?_toDigits n)
  | negSucc n =>
    have written : (toString (Int.negSucc n)).toList = '-' :: Nat.toDigits 10 (n + 1) := by
      rw [← toList_toString_nat]
      show ("-" ++ toString (n + 1)).toList = _
      simp
    rw [written, integer?, natural?_toDigits]
    rfl

/-- An integer is written with digits and perhaps a sign. -/
theorem toString_int_chars (n : Int) : ∀ c ∈ (toString n).toList, c.isDigit = true ∨ c = '-' := by
  cases n with
  | ofNat n =>
    intro c inside
    exact .inl (isDigit_toDigits n c (toList_toString_nat n ▸ inside))
  | negSucc n =>
    intro c inside
    replace inside : c ∈ ("-" ++ toString (n + 1)).toList := inside
    rw [String.toList_append, List.mem_append, toList_toString_nat] at inside
    rcases inside with sign | digit
    · exact .inr (by simpa using sign)
    · exact .inl (isDigit_toDigits _ c digit)

/-! ## Numerals -/

section Numerals

variable {text digits : List Char} {c : Char}

/-- A character is the decimal digit of a value. -/
def IsDigitOf (c : Char) (value : Nat) : Prop := "0123456789".toList[value]? = some c

instance (c : Char) (value : Nat) : Decidable (IsDigitOf c value) :=
  inferInstanceAs (Decidable (_ = _))

/-- The decimal digits are ten characters, and their places in a row of them are their values. -/
theorem isDigitOf_iff {value : Nat} :
    IsDigitOf c value ↔ c.isDigit = true ∧ value = c.toNat - '0'.toNat := by
  constructor
  · intro digit
    have small : value < 10 := (List.getElem?_eq_some_iff.mp digit).1
    have each : ∀ value < 10, ("0123456789".toList[value]?).all fun c =>
        c.isDigit && value == c.toNat - '0'.toNat := by decide +kernel
    have own := each value small
    rw [digit] at own
    simpa using own
  · rintro ⟨digit, rfl⟩
    simp only [Char.isDigit, Bool.and_eq_true, decide_eq_true_eq] at digit
    have low : 48 ≤ c.toNat := by simpa using UInt32.le_iff_toNat_le.mp digit.1
    have high : c.toNat ≤ 57 := by simpa using UInt32.le_iff_toNat_le.mp digit.2
    have each : ∀ n < 58, 48 ≤ n → IsDigitOf (Char.ofNat n) (n - '0'.toNat) := by decide +kernel
    have own := each c.toNat (by omega) low
    rwa [Char.ofNat_toNat] at own

/-- One or more digits write a number: what stands in front of the last digit counts ten times. -/
inductive Numeral : List Char → Nat → Prop
  /-- A digit writes its value. -/
  | one {c : Char} {value : Nat} (digit : IsDigitOf c value) : Numeral [c] value
  /-- Another digit behind a numeral. -/
  | more {digits : List Char} {n : Nat} {c : Char} {value : Nat} (front : Numeral digits n)
      (digit : IsDigitOf c value) : Numeral (digits ++ [c]) (10 * n + value)

/-- A numeral has at least one character, and all are digits. -/
theorem Numeral.isDigit {n : Nat} (numeral : Numeral digits n) :
    digits ≠ [] ∧ ∀ c ∈ digits, c.isDigit = true := by
  induction numeral with
  | one digit => simpa using (isDigitOf_iff.mp digit).1
  | more front digit ih =>
    refine ⟨by simp, fun c inside => ?_⟩
    rcases List.mem_append.mp inside with earlier | last
    · exact ih.2 c earlier
    · rw [List.mem_singleton.mp last]
      exact (isDigitOf_iff.mp digit).1

/-- A numeral writes the number that its digits are counted up to. -/
theorem Numeral.eq_ofDigitChars {n : Nat} (numeral : Numeral digits n) :
    n = Nat.ofDigitChars 10 digits 0 := by
  induction numeral with
  | one digit =>
    rw [Nat.ofDigitChars_cons, Nat.ofDigitChars_nil, ← (isDigitOf_iff.mp digit).2, Nat.mul_zero,
      Nat.zero_add]
  | more front digit ih =>
    rw [Nat.ofDigitChars_append, ← ih, Nat.ofDigitChars_cons, Nat.ofDigitChars_nil,
      ← (isDigitOf_iff.mp digit).2]

/-- Digits write the number that they are counted up to. -/
theorem numeral_ofDigitChars (some : digits ≠ []) (all : ∀ c ∈ digits, c.isDigit = true) :
    Numeral digits (Nat.ofDigitChars 10 digits 0) := by
  induction digits using List.reverseRecOn with
  | nil => exact absurd rfl some
  | append_singleton front c ih =>
    have digit : IsDigitOf c (c.toNat - '0'.toNat) :=
      isDigitOf_iff.mpr ⟨all c (by simp), rfl⟩
    rw [Nat.ofDigitChars_append, Nat.ofDigitChars_cons, Nat.ofDigitChars_nil]
    by_cases alone : front = []
    · subst alone
      simpa [Nat.ofDigitChars_nil] using Numeral.one digit
    · exact .more (ih alone fun c inside => all c (List.mem_append_left _ inside)) digit

/-- A number is read from the numerals that write it and from no other text. -/
theorem natural?_eq_some_iff {n : Nat} : natural? text = some n ↔ Numeral text n := by
  unfold natural?
  constructor
  · intro read
    obtain ⟨written, same⟩ := Option.ite_none_right_eq_some.mp read
    simp only [Bool.and_eq_true, Bool.not_eq_true', List.isEmpty_eq_false_iff,
      List.all_eq_true] at written
    rw [← Option.some.inj same]
    exact numeral_ofDigitChars written.1 written.2
  · intro numeral
    obtain ⟨some, all⟩ := numeral.isDigit
    rw [if_pos (by simpa [some] using all), ← numeral.eq_ofDigitChars]

/-- A numeral with a sign in front of it or none writes an integer. -/
inductive SignedNumeral : List Char → Int → Prop
  | plain {digits : List Char} {n : Nat} (numeral : Numeral digits n) : SignedNumeral digits n
  | plus {digits : List Char} {n : Nat} (numeral : Numeral digits n) :
      SignedNumeral ('+' :: digits) n
  | minus {digits : List Char} {n : Nat} (numeral : Numeral digits n) :
      SignedNumeral ('-' :: digits) (-n)

/-- A numeral begins with a digit. -/
theorem Numeral.first_isDigit {n : Nat} (numeral : Numeral (c :: digits) n) : c.isDigit = true :=
  numeral.isDigit.2 c List.mem_cons_self

/-- An integer is read from its signed numerals and from no other text. -/
theorem integer?_eq_some_iff {n : Int} : integer? text = some n ↔ SignedNumeral text n := by
  constructor
  · intro read
    unfold integer? at read
    split at read
    · obtain ⟨value, written, rfl⟩ : ∃ value, natural? _ = some value ∧ -(value : Int) = n := by
        simpa [Option.bind_eq_some_iff, Option.map_eq_some_iff] using read
      exact .minus (natural?_eq_some_iff.mp written)
    · obtain ⟨value, written, rfl⟩ := Option.map_eq_some_iff.mp read
      exact .plus (natural?_eq_some_iff.mp written)
    · obtain ⟨value, written, rfl⟩ := Option.map_eq_some_iff.mp read
      exact .plain (natural?_eq_some_iff.mp written)
  · rintro (numeral | numeral | numeral)
    · have read := natural?_eq_some_iff.mpr numeral
      unfold integer?
      split
      · exact absurd numeral.first_isDigit (by decide)
      · exact absurd numeral.first_isDigit (by decide)
      · rw [read]
        rfl
    · rw [integer?, natural?_eq_some_iff.mpr numeral]
      rfl
    · rw [integer?, natural?_eq_some_iff.mpr numeral]
      rfl

/-- An integer of 64 bits is read from its signed numerals and from no other text. -/
theorem signed?_eq_some_iff {n : Int} :
    signed? text = some n ↔ SignedNumeral text n ∧ InSixtyFour n := by
  rw [signed?, Option.filter_eq_some_iff, integer?_eq_some_iff, decide_eq_true_iff]

/-- Digits and a sign are all that a signed numeral holds. -/
theorem SignedNumeral.mem {n : Int} (signed : SignedNumeral text n) (inside : c ∈ text) :
    c.isDigit = true ∨ c = '-' ∨ c = '+' := by
  rcases signed with numeral | numeral | numeral
  · exact .inl (numeral.isDigit.2 c inside)
  · rcases List.mem_cons.mp inside with sign | digit
    · exact .inr (.inr sign)
    · exact .inl (numeral.isDigit.2 c digit)
  · rcases List.mem_cons.mp inside with sign | digit
    · exact .inr (.inl sign)
    · exact .inl (numeral.isDigit.2 c digit)

/-- No character but a digit or a sign stands in a signed numeral. -/
theorem SignedNumeral.not_mem {n : Int} (signed : SignedNumeral text n)
    (foreign : c.isDigit = false ∧ c ≠ '-' ∧ c ≠ '+') : c ∉ text := by
  intro inside
  rcases signed.mem inside with digit | minus | plus
  · rw [foreign.1] at digit
    exact Bool.noConfusion digit
  · exact foreign.2.1 minus
  · exact foreign.2.2 plus

/-- A text with a character that no number has writes no number. -/
theorem signed?_eq_none (inside : c ∈ text) (foreign : c.isDigit = false ∧ c ≠ '-' ∧ c ≠ '+') :
    signed? text = none := by
  by_contra read
  obtain ⟨n, found⟩ := Option.ne_none_iff_exists'.mp read
  exact (signed?_eq_some_iff.mp found).1.not_mem foreign inside

/-- The digits of an integer are one of its signed numerals. -/
theorem signedNumeral_toString (n : Int) : SignedNumeral (toString n).toList n :=
  integer?_eq_some_iff.mp (integer?_toString n)

end Numerals

/-! ## Padded numbers -/

/-- The decimal digits of a number with zeros in front of them up to a width. -/
def padded (width n : Nat) : List Char := (Nat.toDigits 10 n).leftpad width '0'

/-- A padded number has no characters but digits. -/
theorem isDigit_padded (width n : Nat) : ∀ c ∈ padded width n, c.isDigit = true := by
  intro c inside
  rcases List.mem_append.mp inside with zero | digit
  · rw [List.eq_of_mem_replicate zero]
    rfl
  · exact isDigit_toDigits n c digit

/-- A number that fits the width fills it. -/
theorem length_padded {width n : Nat} (some : 0 < width) (small : n < Nat.pow 10 width) :
    (padded width n).length = width := by
  have short := (Nat.length_toDigits_le_iff (by decide : 1 < 10) some).mpr small
  rw [padded, List.length_leftpad]
  omega

/-- Zeros in front of a number do not change it. -/
theorem natural?_padded (width n : Nat) : natural? (padded width n) = some n := by
  have some : padded width n ≠ [] := by simp [padded, List.leftpad, Nat.toDigits_ne_nil]
  have digits : (! (padded width n).isEmpty && (padded width n).all Char.isDigit) = true := by
    simpa [some] using isDigit_padded width n
  rw [natural?, if_pos digits, padded, List.leftpad, Nat.ofDigitChars_append,
    Nat.ofDigitChars_replicate_zero, Nat.mul_zero,
    Nat.ofDigitChars_toDigits (by decide) (by decide)]

/-! ## Hexadecimal digits -/

/-- A character is the hexadecimal digit of a value, in either case. -/
def IsHexDigitOf (c : Char) (value : Nat) : Prop :=
  "0123456789abcdef".toList[value]? = some c ∨ "0123456789ABCDEF".toList[value]? = some c

instance (c : Char) (value : Nat) : Decidable (IsHexDigitOf c value) :=
  inferInstanceAs (Decidable (_ ∨ _))

/-- A hexadecimal digit is one of the first 128 characters. -/
theorem toNat_lt_of_hexDigit? {c : Char} {value : Nat} (read : hexDigit? c = some value) :
    c.toNat < 128 := by
  unfold hexDigit? at read
  split at read
  · rename_i digit
    simp only [Char.isDigit, Bool.and_eq_true, decide_eq_true_eq] at digit
    have bound : c.toNat ≤ 57 := by simpa using UInt32.le_iff_toNat_le.mp digit.2
    omega
  · split at read
    · rename_i lower
      have bound : c.toNat ≤ 102 := Char.le_def.mp lower.2
      omega
    · split at read
      · rename_i upper
        have bound : c.toNat ≤ 70 := Char.le_def.mp upper.2
        omega
      · cases read

/-- The digits are read as what they are in a row of them, and no other character is read. -/
theorem hexDigit?_eq_some_iff {c : Char} {value : Nat} :
    hexDigit? c = some value ↔ IsHexDigitOf c value := by
  constructor
  · intro read
    have each : ∀ n < 128, (hexDigit? (Char.ofNat n)).all fun value =>
        decide (IsHexDigitOf (Char.ofNat n) value) := by decide +kernel
    have own := each c.toNat (toNat_lt_of_hexDigit? read)
    rw [Char.ofNat_toNat, read] at own
    simpa using own
  · have each : ∀ value < 16, ("0123456789abcdef".toList[value]?).all (hexDigit? · = some value) ∧
        ("0123456789ABCDEF".toList[value]?).all (hexDigit? · = some value) := by decide +kernel
    rintro (lower | upper)
    · have small : value < 16 := (List.getElem?_eq_some_iff.mp lower).1
      have own := (each value small).1
      rw [lower] at own
      simpa using own
    · have small : value < 16 := (List.getElem?_eq_some_iff.mp upper).1
      have own := (each value small).2
      rw [upper] at own
      simpa using own

/-- A hexadecimal digit has a value below sixteen. -/
theorem IsHexDigitOf.lt {c : Char} {value : Nat} (digit : IsHexDigitOf c value) : value < 16 :=
  digit.elim (fun lower => (List.getElem?_eq_some_iff.mp lower).1)
    (fun upper => (List.getElem?_eq_some_iff.mp upper).1)

end CableMap.Text
