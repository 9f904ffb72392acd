/-!
# UTF-8

Bytes are read as characters by a machine that holds the character it is inside of. A fault
names the bytes before the character it stands in and how many bytes of that character were
read; a text that ends inside a character has no such count.
-/
namespace CableMap.Text

/-- Where bytes stop being UTF-8. -/
structure Utf8Fault where
  /-- The bytes before the faulty character. -/
  validUpTo : Nat
  /-- The bytes of the faulty character; none if the bytes end inside it. -/
  length? : Option Nat
  deriving DecidableEq

namespace Utf8

/-- The range that a byte after the first may lie in, both ends included. -/
abbrev Range := UInt8 × UInt8

/-- Any continuation byte. -/
def continuation : Range := (0x80, 0xbf)

/-- The bits that a first byte gives and the ranges of the bytes that must follow it. The
second byte of some characters is bounded further, so that no character has two encodings and
no surrogate has one. -/
def opening? (byte : UInt8) : Option (Nat × List Range) :=
  let bits := byte.toNat
  if bits < 0x80 then some (bits, [])
  else if bits < 0xc2 then none
  else if bits < 0xe0 then some (bits % 32, [continuation])
  else if bits < 0xf0 then
    let second :=
      if bits = 0xe0 then (0xa0, 0xbf) else if bits = 0xed then (0x80, 0x9f) else continuation
    some (bits % 16, [second, continuation])
  else if bits < 0xf5 then
    let second :=
      if bits = 0xf0 then (0x90, 0xbf) else if bits = 0xf4 then (0x80, 0x8f) else continuation
    some (bits % 8, [second, continuation, continuation])
  else none

/-- The character that is being read: where it starts, its bytes and bits so far, and the
ranges of its bytes to come. Before a first byte no byte is due. -/
structure Pending where
  /-- The bytes before the character. -/
  start : Nat
  /-- The bytes of the character so far. -/
  read : Nat
  /-- The bits of the character so far. -/
  bits : Nat
  /-- The ranges of the bytes that are due. -/
  due : List Range

/-- No byte of the next character has been read. -/
def Pending.fresh (start : Nat) : Pending := ⟨start, 0, 0, []⟩

/-- Read bytes on from a pending character. -/
def decodeFrom (pending : Pending) : List UInt8 → Except Utf8Fault (List Char)
  | [] => if pending.read = 0 then .ok [] else .error ⟨pending.start, none⟩
  | byte :: bytes =>
    match pending.due with
    | [] =>
      match opening? byte with
      | none => .error ⟨pending.start, some 1⟩
      | some (bits, []) =>
        (decodeFrom (.fresh (pending.start + 1)) bytes).map (Char.ofNat bits :: ·)
      | some (bits, due) => decodeFrom ⟨pending.start, 1, bits, due⟩ bytes
    | (low, high) :: due =>
      if low ≤ byte ∧ byte ≤ high then
        let bits := pending.bits * 64 + byte.toNat % 64
        match due with
        | [] =>
          (decodeFrom (.fresh (pending.start + pending.read + 1)) bytes).map
            (Char.ofNat bits :: ·)
        | due => decodeFrom ⟨pending.start, pending.read + 1, bits, due⟩ bytes
      else .error ⟨pending.start, some pending.read⟩

/-- The characters that bytes encode, or the first fault. -/
def decode (bytes : List UInt8) : Except Utf8Fault (List Char) := decodeFrom (.fresh 0) bytes

end Utf8

end CableMap.Text
