import CableMap.Proofs.Address.Spelling

/-!
# MAC addresses written and read back

An address is read back from its octets, in whatever styles they are written and whether colons or
blanks stand between them. Its canonical text is one of these, so no two addresses have one text.
-/
namespace CableMap.Mac

/-- The octets of an address, each written in a style of its own. -/
def pieces (mac : Mac) (styles : Nat → OctetStyle) : List (List Char) :=
  mac.octets.mapIdx fun place octet => (styles place).write octet

/-- The pieces write the octets. -/
theorem written_pieces (mac : Mac) (styles : Nat → OctetStyle) :
    List.Forall₂ Writes (mac.pieces styles) mac.octets := by
  simp [pieces, octets, Writes, OctetStyle.isOctet_write, OctetStyle.hexValue_write]

/-- The pieces are not empty and hold only hexadecimal digits. -/
theorem pieces_digits (mac : Mac) (styles : Nat → OctetStyle) :
    ∀ piece ∈ mac.pieces styles, piece ≠ [] ∧ ∀ c ∈ piece, Text.isHexDigit c = true :=
  digits_of_written (mac.written_pieces styles)

/-- With colons between its octets an address is read back. -/
theorem ofColons_pieces (mac : Mac) (styles : Nat → OctetStyle) :
    ofColons (String.ofList ([':'].intercalate (mac.pieces styles))) = .ok mac := by
  have read := ofColons_of_written (mac.written_pieces styles) (List.forall_mem_nil _)
    (List.forall_mem_nil _)
  rwa [List.nil_append, List.append_nil] at read

/-- With blanks between its octets an address is read back. -/
theorem ofBlanks_pieces (mac : Mac) (styles : Nat → OctetStyle) :
    ofBlanks (String.ofList ([' '].intercalate (mac.pieces styles))) = .ok mac :=
  ofBlanks_of_spaced (mac.written_pieces styles) (Text.spaced_intercalate _)

/-- With colons between its octets an address is told from one with blanks. -/
theorem ofString_pieces (mac : Mac) (styles : Nat → OctetStyle) :
    ofString (String.ofList ([':'].intercalate (mac.pieces styles))) = .ok mac := by
  have read := ofString_of_colons (mac.written_pieces styles) (List.forall_mem_nil _)
    (List.forall_mem_nil _)
  rwa [List.nil_append, List.append_nil] at read

/-- The canonical text is read back as the address that it writes. -/
theorem ofString_toString (mac : Mac) : ofString (toString mac) = .ok mac := by
  have canonical : mac.chars = [':'].intercalate (mac.pieces fun _ => .canonical) := by
    simp [chars, pieces, octets, OctetStyle.write_canonical]
  have read := ofString_pieces mac fun _ => .canonical
  rw [← canonical] at read
  exact read

/-- No two addresses have one canonical text. -/
theorem toString_inj {left right : Mac} : toString left = toString right ↔ left = right := by
  constructor
  · intro same
    have read := ofString_toString left
    rw [same, ofString_toString right] at read
    exact (Except.ok.inj read).symm
  · exact fun same => congrArg _ same

end CableMap.Mac
