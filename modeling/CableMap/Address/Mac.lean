import CableMap.Text.Blank
import CableMap.Text.Decimal
import CableMap.Text.Quoted

/-!
# MAC addresses

Six octets in hexadecimal. A text separates them by colons or by blanks and may drop the zero
in front of a single digit; the canonical text has colons, upper case and both digits, and is
the key under which a port is stored.
-/
namespace CableMap

/-- A MAC address. -/
structure Mac where
  /-- The first octet. -/
  a : UInt8
  /-- The second octet. -/
  b : UInt8
  /-- The third octet. -/
  c : UInt8
  /-- The fourth octet. -/
  d : UInt8
  /-- The fifth octet. -/
  e : UInt8
  /-- The sixth octet. -/
  f : UInt8
  deriving DecidableEq, Inhabited

/-- Why a text is no MAC address. -/
inductive MacError
  /-- Fewer than six octets. -/
  | tooShort
  /-- More than six octets. -/
  | tooLong
  /-- A piece that is not one or two hexadecimal digits. -/
  | invalidOctet (piece : String)
  deriving DecidableEq

/-- The text of the error. -/
def MacError.message : MacError → String
  | .tooShort => "Too few octets"
  | .tooLong => "Too many octets"
  | .invalidOctet piece => "Invalid octet: " ++ Text.quoted piece

namespace Mac

/-- The octets, first to last. -/
def octets (mac : Mac) : List UInt8 := [mac.a, mac.b, mac.c, mac.d, mac.e, mac.f]

/-- The address as a number, its first octet the most significant. -/
def toNat (mac : Mac) : Nat :=
  mac.octets.foldl (fun value octet => 256 * value + octet.toNat) 0

/-- The address of which every octet is zero. -/
def null : Mac := ⟨0, 0, 0, 0, 0, 0⟩

/-- The address is all zeros. -/
def isNull (mac : Mac) : Bool := mac = null

/-- The canonical form. -/
def chars (mac : Mac) : List Char := [':'].intercalate (mac.octets.map Text.hexOctet)

instance : ToString Mac := ⟨fun mac => String.ofList mac.chars⟩

/-- A piece that writes an octet: one or two hexadecimal digits. -/
def isOctet (piece : List Char) : Bool :=
  ! piece.isEmpty && piece.length ≤ 2 && piece.all Text.isHexDigit

/-- The address that six pieces write. The first bad piece among the first six is the error,
then a seventh piece, then too few of them. -/
def ofPieces (pieces : List (List Char)) : Except MacError Mac :=
  match (pieces.take 6).find? (! isOctet ·) with
  | some bad => .error (.invalidOctet (String.ofList bad))
  | none =>
    match pieces.map fun piece => UInt8.ofNat (Text.hexValue piece) with
    | [a, b, c, d, e, f] => .ok ⟨a, b, c, d, e, f⟩
    | octets => .error (if octets.length < 6 then .tooShort else .tooLong)

/-- The address that a text writes with colons, blanks around it aside. -/
def ofColons (text : String) : Except MacError Mac :=
  ofPieces ((Text.trim text.toList).splitOn ':')

/-- The address that a text writes with blanks. -/
def ofBlanks (text : String) : Except MacError Mac := ofPieces (Text.words text.toList)

/-- The address that a text writes: with colons if it has one, otherwise with blanks. -/
def ofString (text : String) : Except MacError Mac :=
  if text.toList.contains ':' then ofColons text else ofBlanks text

/-- The addresses in rising order, each once. -/
def sortDistinct (macs : List Mac) : List Mac :=
  (macs.mergeSort fun left right => left.toNat ≤ right.toNat).eraseReps

end Mac

end CableMap
