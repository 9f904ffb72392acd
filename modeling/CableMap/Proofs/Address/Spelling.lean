import CableMap.Proofs.Address.Octet
import CableMap.Proofs.Text.Blank
import CableMap.Proofs.Text.Words
import Mathlib.Data.List.Forall2

/-!
# The spellings of a MAC address

Each octet is written with one or two digits of either case. Between the octets stand colons, or
blanks as many as one likes, and blanks may stand around the whole. However an address is spelled,
it is read back.
-/
namespace CableMap

namespace Mac

/-- A piece writes an octet: it is one or two hexadecimal digits, and these have its value. -/
def Writes (piece : List Char) (octet : UInt8) : Prop :=
  isOctet piece = true ∧ Text.hexValue piece = octet.toNat

/-- A text spells an address. -/
inductive Spells (mac : Mac) : String → Prop
  /-- With colons between its octets, and blanks around the whole or none. -/
  | colons {pieces : List (List Char)} {lead trail : List Char}
      (written : List.Forall₂ Writes pieces mac.octets)
      (front : ∀ c ∈ lead, Text.isBlank c = true) (back : ∀ c ∈ trail, Text.isBlank c = true) :
      Spells mac (String.ofList (lead ++ [':'].intercalate pieces ++ trail))
  /-- With blanks between its octets, and around the whole or none. -/
  | blanks {pieces : List (List Char)} {text : List Char}
      (written : List.Forall₂ Writes pieces mac.octets) (spaced : Text.Spaced pieces text) :
      Spells mac (String.ofList text)

variable {mac : Mac} {pieces : List (List Char)}

/-- The pieces that write the octets of an address are read back as the address. -/
theorem ofPieces_of_written (written : List.Forall₂ Writes pieces mac.octets) :
    ofPieces pieces = .ok mac := by
  obtain ⟨good, valued⟩ := (List.forall₂_and_left _ _).mp written
  have unspoilt : (pieces.take 6).find? (! isOctet ·) = none := by
    rw [List.find?_eq_none]
    intro piece inside
    simp [good piece (List.mem_of_mem_take inside)]
  have values : pieces.map (fun piece => UInt8.ofNat (Text.hexValue piece)) = mac.octets := by
    rw [← List.forall₂_eq_eq_eq, List.forall₂_map_left_iff]
    refine valued.imp fun piece octet value => ?_
    rw [value, UInt8.ofNat_toNat]
  simp only [ofPieces, unspoilt, values]
  rfl

/-- What writes an octet is not empty and holds only hexadecimal digits. -/
theorem digits_of_written (written : List.Forall₂ Writes pieces mac.octets) :
    ∀ piece ∈ pieces, piece ≠ [] ∧ ∀ c ∈ piece, Text.isHexDigit c = true := by
  obtain ⟨good, _⟩ := (List.forall₂_and_left _ _).mp written
  exact fun piece inside => digits_of_isOctet (good piece inside)

/-- With colons between its octets, and blanks around the whole or none, an address is read
back. -/
theorem ofColons_of_written {lead trail : List Char} (written : List.Forall₂ Writes pieces mac.octets)
    (front : ∀ c ∈ lead, Text.isBlank c = true) (back : ∀ c ∈ trail, Text.isBlank c = true) :
    ofColons (String.ofList (lead ++ [':'].intercalate pieces ++ trail)) = .ok mac := by
  have digits := digits_of_written written
  have some : pieces ≠ [] := by
    rintro rfl
    cases written
  have solid : ∀ c ∈ [':'].intercalate pieces, Text.isBlank c = false := by
    intro c inside
    rcases Text.mem_of_mem_intercalate inside with mark | ⟨piece, among, found⟩
    · rw [List.mem_singleton.mp mark]
      decide
    · exact Text.isBlank_of_isHexDigit ((digits piece among).2 c found)
  have trimmed : Text.trim (lead ++ [':'].intercalate pieces ++ trail) =
      [':'].intercalate pieces := by
    rw [Text.trim, Text.stripBoth_append _ _ (List.all_eq_true.mpr front)
      (List.all_eq_true.mpr back), Text.stripBoth_eq_self_of_solid solid]
  have cut : ([':'].intercalate pieces).splitOn ':' = pieces := by
    refine List.splitOn_intercalate ':' (fun piece inside found => ?_) some
    exact Text.ne_of_isHexDigit ((digits piece inside).2 ':' found) (by decide) rfl
  rw [ofColons, String.toList_ofList, trimmed, cut]
  exact ofPieces_of_written written

/-- A text with colons between the octets of an address is told by them. -/
theorem ofString_of_colons {lead trail : List Char} (written : List.Forall₂ Writes pieces mac.octets)
    (front : ∀ c ∈ lead, Text.isBlank c = true) (back : ∀ c ∈ trail, Text.isBlank c = true) :
    ofString (String.ofList (lead ++ [':'].intercalate pieces ++ trail)) = .ok mac := by
  have colon : (lead ++ [':'].intercalate pieces ++ trail).contains ':' = true := by
    have six : pieces.length = 6 := written.length_eq
    cases pieces with
    | nil => cases six
    | cons first others =>
      cases others with
      | nil => cases six
      | cons second others => simp
  rw [ofString, String.toList_ofList, if_pos colon]
  exact ofColons_of_written written front back

/-- With blanks between its octets, and around the whole or none, an address is read back. -/
theorem ofBlanks_of_spaced {text : List Char} (written : List.Forall₂ Writes pieces mac.octets)
    (spaced : Text.Spaced pieces text) : ofBlanks (String.ofList text) = .ok mac := by
  have words : Text.words text = pieces := spaced.words_eq fun piece among =>
    (digits_of_written written piece among).imp_right fun hex c found =>
      Text.isBlank_of_isHexDigit (hex c found)
  rw [ofBlanks, String.toList_ofList, words]
  exact ofPieces_of_written written

/-- A text with blanks between the octets of an address is told by having no colon. -/
theorem ofString_of_blanks {text : List Char} (written : List.Forall₂ Writes pieces mac.octets)
    (spaced : Text.Spaced pieces text) : ofString (String.ofList text) = .ok mac := by
  have noColon : ¬ text.contains ':' = true := by
    rw [List.contains_iff_mem]
    intro inside
    rcases spaced.mem inside with blank | ⟨piece, among, found⟩
    · exact absurd blank (by decide)
    · have digit := (digits_of_written written piece among).2 ':' found
      exact Text.ne_of_isHexDigit digit (by decide) rfl
  rw [ofString, String.toList_ofList, if_neg noColon]
  exact ofBlanks_of_spaced written spaced

/-- However an address is spelled, it is read back. -/
theorem Spells.ofString_eq {text : String} (spells : mac.Spells text) :
    ofString text = .ok mac := by
  cases spells with
  | colons written front back => exact ofString_of_colons written front back
  | blanks written spaced => exact ofString_of_blanks written spaced

end Mac

end CableMap
