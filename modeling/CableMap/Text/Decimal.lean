/-!
# Decimal and hexadecimal numbers

Readers of numbers written in digits. A decimal may be signed and must fit the range of its
reader, so no value ever wraps.
-/
namespace CableMap.Text

/-- The number written by one or more decimal digits. -/
def natural? (text : List Char) : Option Nat :=
  if ! text.isEmpty && text.all Char.isDigit then some (Nat.ofDigitChars 10 text 0) else none

/-- The number up to a limit written by decimal digits after an optional plus sign. -/
def unsigned? (limit : Nat) (text : List Char) : Option Nat :=
  (natural? (if text.head? = some '+' then text.tail else text)).filter (· ≤ limit)

/-- The integer written by decimal digits after an optional sign. -/
def integer? : List Char → Option Int
  | '-' :: digits => (natural? digits).map fun n => -(n : Int)
  | '+' :: digits => (natural? digits).map Int.ofNat
  | digits => (natural? digits).map Int.ofNat

/-- The integers of 64 bits. -/
def InSixtyFour (n : Int) : Prop := -0x8000000000000000 ≤ n ∧ n < 0x8000000000000000

instance (n : Int) : Decidable (InSixtyFour n) := inferInstanceAs (Decidable (_ ∧ _))

/-- The integer of 64 bits written by decimal digits after an optional sign. -/
def signed? (text : List Char) : Option Int := (integer? text).filter (InSixtyFour ·)

/-- The largest number of 32 bits. -/
def limit32 : Nat := 0xffffffff

/-- The largest number of 64 bits. -/
def limit64 : Nat := 0xffffffffffffffff

/-- The value of a hexadecimal digit of either case. -/
def hexDigit? (c : Char) : Option Nat :=
  if c.isDigit then some (c.toNat - '0'.toNat)
  else if 'a' ≤ c ∧ c ≤ 'f' then some (c.toNat - 'a'.toNat + 10)
  else if 'A' ≤ c ∧ c ≤ 'F' then some (c.toNat - 'A'.toNat + 10)
  else none

/-- A hexadecimal digit of either case. -/
def isHexDigit (c : Char) : Bool := (hexDigit? c).isSome

/-- The number that hexadecimal digits write; other characters count as zeros. -/
def hexValue (digits : List Char) : Nat :=
  digits.foldl (fun value c => 16 * value + (hexDigit? c).getD 0) 0

/-- The hexadecimal digits of a number, in lower case. -/
def hexDigits (n : Nat) : List Char := Nat.toDigits 16 n

/-- The two hexadecimal digits of an octet, in upper case. -/
def hexOctet (octet : UInt8) : List Char :=
  [octet.toNat / 16, octet.toNat % 16].map fun digit => digit.digitChar.toUpper

end CableMap.Text
