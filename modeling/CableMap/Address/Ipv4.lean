import CableMap.Text.Decimal

/-!
# IPv4 addresses

Four octets, written as decimals between dots. Each octet has one written form, so an address
has one.
-/
namespace CableMap

/-- An IPv4 address. -/
structure Ipv4 where
  /-- The first octet. -/
  a : UInt8
  /-- The second octet. -/
  b : UInt8
  /-- The third octet. -/
  c : UInt8
  /-- The fourth octet. -/
  d : UInt8
  deriving DecidableEq, Inhabited

namespace Ipv4

/-- The octets, first to last. -/
def octets (address : Ipv4) : List UInt8 := [address.a, address.b, address.c, address.d]

/-- The address as a number, its first octet the most significant. -/
def toNat (address : Ipv4) : Nat :=
  address.octets.foldl (fun value octet => 256 * value + octet.toNat) 0

/-- The address of a number; numbers that differ by a multiple of 2³² have the same address. -/
def ofNat (n : Nat) : Ipv4 :=
  ⟨.ofNat (n / 0x1000000), .ofNat (n / 0x10000), .ofNat (n / 0x100), .ofNat n⟩

/-- The dotted decimal form. -/
def chars (address : Ipv4) : List Char :=
  ['.'].intercalate (address.octets.map fun octet => Nat.toDigits 10 octet.toNat)

instance : ToString Ipv4 := ⟨fun address => String.ofList address.chars⟩

/-- The octet that a text writes: a number below 256 in its shortest decimal form. -/
def octet? (text : List Char) : Option UInt8 :=
  ((Text.natural? text).filter fun n => n < 256 && Nat.toDigits 10 n == text).map UInt8.ofNat

/-- The address that a text writes in dotted decimal form. -/
def ofChars? (text : List Char) : Option Ipv4 :=
  match (text.splitOn '.').map octet? with
  | [some a, some b, some c, some d] => some ⟨a, b, c, d⟩
  | _ => none

/-- The address that a string writes in dotted decimal form. -/
def ofString? (text : String) : Option Ipv4 := ofChars? text.toList

end Ipv4

end CableMap
