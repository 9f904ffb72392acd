import CableMap.Address.Mac
import CableMap.Proofs.Text.Words

/-!
# Octets written in hexadecimal

An octet is written with or without a zero in front of a single digit and in either case. However
it is written, it is read back, and its digits are none of the marks that stand between octets.
-/
namespace CableMap

/-- What can be an octet is not empty and holds only hexadecimal digits. -/
theorem Mac.digits_of_isOctet {piece : List Char} (octet : Mac.isOctet piece = true) :
    piece ≠ [] ∧ ∀ c ∈ piece, Text.isHexDigit c = true := by
  simp only [Mac.isOctet, Bool.and_eq_true, Bool.not_eq_true', List.isEmpty_eq_false_iff,
    List.all_eq_true] at octet
  exact ⟨octet.1.1, octet.2⟩

/-- How an octet is written. -/
structure OctetStyle where
  /-- A single digit has a zero in front. -/
  padded : Bool
  /-- Letters are in upper case. -/
  upper : Bool

namespace OctetStyle

/-- A digit below sixteen. -/
def digit (style : OctetStyle) (n : Nat) : Char :=
  if style.upper then n.digitChar.toUpper else n.digitChar

/-- The digits of an octet. -/
def write (style : OctetStyle) (octet : UInt8) : List Char :=
  if style.padded || 16 ≤ octet.toNat then
    [style.digit (octet.toNat / 16), style.digit (octet.toNat % 16)]
  else [style.digit octet.toNat]

/-- The canonical style. -/
def canonical : OctetStyle := ⟨true, true⟩

/-- The canonical style is that of the canonical text. -/
theorem write_canonical (octet : UInt8) : canonical.write octet = Text.hexOctet octet := rfl

/-- A digit of either case is read back as its value. -/
theorem hexDigit?_digit (style : OctetStyle) (n : Nat) (small : n < 16) :
    Text.hexDigit? (style.digit n) = some n := by
  have read : ∀ n < 16, ∀ upper : Bool,
      Text.hexDigit? (if upper then n.digitChar.toUpper else n.digitChar) = some n := by
    decide +kernel
  exact read n small style.upper

/-- The digits of an octet have its value. -/
theorem hexValue_write (style : OctetStyle) (octet : UInt8) :
    Text.hexValue (style.write octet) = octet.toNat := by
  have bound := octet.toNat_lt
  have high := style.hexDigit?_digit (octet.toNat / 16) (by omega)
  have low := style.hexDigit?_digit (octet.toNat % 16) (by omega)
  rw [write]
  split
  · simp only [Text.hexValue, List.foldl_cons, List.foldl_nil, high, low, Option.getD_some]
    omega
  · rename_i short
    simp only [Bool.or_eq_true, decide_eq_true_eq, not_or, Nat.not_le] at short
    simp [Text.hexValue, style.hexDigit?_digit _ short.2]

/-- Whatever the style, what is written is one or two hexadecimal digits. -/
theorem isOctet_write (style : OctetStyle) (octet : UInt8) :
    Mac.isOctet (style.write octet) = true := by
  have bound := octet.toNat_lt
  have high := style.hexDigit?_digit (octet.toNat / 16) (by omega)
  have low := style.hexDigit?_digit (octet.toNat % 16) (by omega)
  rw [write]
  split
  · simp [Mac.isOctet, Text.isHexDigit, high, low]
  · rename_i short
    simp only [Bool.or_eq_true, decide_eq_true_eq, not_or, Nat.not_le] at short
    simp [Mac.isOctet, Text.isHexDigit, style.hexDigit?_digit _ short.2]

/-- Whatever is written is written with one or two digits. -/
theorem write_digits (style : OctetStyle) (octet : UInt8) :
    style.write octet ≠ [] ∧ ∀ c ∈ style.write octet, Text.isHexDigit c = true :=
  Mac.digits_of_isOctet (style.isOctet_write octet)

end OctetStyle

/-- No hexadecimal digit is a blank. -/
theorem Text.isBlank_of_isHexDigit {c : Char} (hex : Text.isHexDigit c = true) :
    Text.isBlank c = false :=
  Text.isBlank_of_class (by decide) hex

/-- A hexadecimal digit is none of the marks. -/
theorem Text.ne_of_isHexDigit {c mark : Char} (hex : Text.isHexDigit c = true)
    (other : Text.isHexDigit mark = false) : c ≠ mark := by
  rintro rfl
  rw [other] at hex
  exact Bool.noConfusion hex

end CableMap
