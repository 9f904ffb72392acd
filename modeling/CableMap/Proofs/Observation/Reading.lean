import CableMap.Proofs.Binding.Enumeration
import CableMap.Proofs.Observation.Description

/-!
# Printed values are read back

Every printed value but a name is free of dots and line ends, so its line can only belong to its
own identifier, and without the marks around it it is read as what it prints.
-/
namespace CableMap

namespace Text

/-- A decimal digit is a hexadecimal one. -/
theorem isHexDigit_of_isDigit {c : Char} (digit : c.isDigit = true) : isHexDigit c = true := by
  simp [isHexDigit, hexDigit?, digit]

end Text

namespace Binding

/-- A character of a printed value other than a name or a separator. -/
structure Solid (c : Char) : Prop where
  unblank : Text.isBlank c = false
  undotted : c ≠ '.'
  unmarked : isMark c = false

/-- A hexadecimal digit is solid. -/
theorem Solid.of_isHexDigit {c : Char} (hex : Text.isHexDigit c = true) : Solid c where
  unblank := Text.isBlank_of_isHexDigit hex
  undotted := Text.ne_of_isHexDigit hex (by decide)
  unmarked := by
    have colon : c ≠ ':' := Text.ne_of_isHexDigit hex (by decide)
    have blank : c ≠ ' ' := Text.ne_of_isHexDigit hex (by decide)
    have quote : c ≠ '"' := Text.ne_of_isHexDigit hex (by decide)
    simp [isMark, colon, blank, quote]

/-- The text of an integer is solid. -/
theorem solid_toString (n : Int) : ∀ c ∈ (toString n).toList, Solid c := by
  intro c inside
  rcases Text.toString_int_chars n c inside with digit | rfl
  · exact .of_isHexDigit (Text.isHexDigit_of_isDigit digit)
  · exact ⟨by decide, by decide, by decide⟩

/-- A number with its label is solid. -/
theorem solid_labelled (label? : Option Label) (n : Int) :
    ∀ c ∈ (labelled label? n).toList, Solid c := by
  intro c inside
  cases label? with
  | none => exact solid_toString n c inside
  | some label =>
    simp only [labelled, String.toList_append, List.mem_append] at inside
    rcases inside with ((inLabel | opening) | inNumber) | closing
    · obtain ⟨blank, dot, colon, quote, -⟩ := label.plain c inLabel
      refine ⟨blank, dot, ?_⟩
      have space : c ≠ ' ' := by
        rintro rfl
        exact absurd blank (by decide)
      simp [isMark, colon, space, quote]
    · obtain rfl : c = '(' := by simpa using opening
      exact ⟨by decide, by decide, by decide⟩
    · exact solid_toString n c inNumber
    · obtain rfl : c = ')' := by simpa using closing
      exact ⟨by decide, by decide, by decide⟩

/-! ## Values without dots -/

/-- A value has neither dots nor line ends. -/
def Quiet (value : List Char) : Prop := ∀ c ∈ value, c ≠ '.' ∧ c ≠ '\n' ∧ c ≠ '\r'

/-- No solid character is a dot or ends a line. -/
theorem Solid.quiet {c : Char} (solid : Solid c) : c ≠ '.' ∧ c ≠ '\n' ∧ c ≠ '\r' := by
  refine ⟨solid.undotted, ?_, ?_⟩
  · rintro rfl
    exact absurd solid.unblank (by decide)
  · rintro rfl
    exact absurd solid.unblank (by decide)

/-- A quiet value stays in its line. -/
theorem Quiet.oneLine {value : List Char} (quiet : Quiet value) : OneLine value where
  noNewline found := (quiet _ found).2.1 rfl
  noReturn last := (quiet _ (List.mem_of_getLast? last)).2.2 rfl

/-- Without dots no identifier is mentioned. -/
theorem Quiet.unmentioned {value : List Char} (quiet : Quiet value) {oid : Oid}
    (numeric : oid.IsNumeric) : oid.mention? value = none := by
  have absent : '.' ∉ value := fun found => (quiet _ found).1 rfl
  have passed : Oid.mentionFrom oid.toList 0 (value ++ []) = Oid.mentionFrom oid.toList 0 [] :=
    Oid.mentionFrom_append_of_not_mem numeric.1 absent
  rw [List.append_nil] at passed
  exact passed

/-- The pieces of octets hold nothing but hexadecimal digits. -/
def AreOctets (pieces : List (List Char)) : Prop :=
  ∀ piece ∈ pieces, piece ≠ [] ∧ ∀ c ∈ piece, Text.isHexDigit c = true

/-- What masks are printed of are octets. -/
theorem areOctets_mask (mask : MaskOctets) : AreOctets mask.pieces := by
  intro piece inside
  simp only [MaskOctets.pieces, List.mem_cons, List.not_mem_nil, or_false] at inside
  rcases inside with rfl | rfl
  · exact (mask.octets 0).write_digits mask.first
  · exact (mask.octets 1).write_digits mask.second

/-- Nothing of octets is stripped. -/
theorem AreOctets.solid {pieces : List (List Char)} (octets : AreOctets pieces) :
    ∀ piece ∈ pieces, piece ≠ [] ∧ ∀ c ∈ piece, isMark c = false :=
  fun piece inside => (octets piece inside).imp_right fun digits c found =>
    (Solid.of_isHexDigit (digits c found)).unmarked

/-- Octets with a quiet separator are quiet. -/
theorem AreOctets.quiet {pieces : List (List Char)} (octets : AreOctets pieces) {sep : Char}
    (apart : sep ≠ '.' ∧ sep ≠ '\n' ∧ sep ≠ '\r') : Quiet ([sep].intercalate pieces) := by
  intro c inside
  rcases Text.mem_of_mem_intercalate inside with between | ⟨piece, among, found⟩
  · rw [List.mem_singleton.mp between]
    exact apart
  · exact (Solid.of_isHexDigit ((octets piece among).2 c found)).quiet

/-- Octets with blanks between and behind them are quiet. -/
theorem quiet_blankSeparated {pieces : List (List Char)} (octets : AreOctets pieces)
    (blankBehind : Bool) : Quiet (blankSeparated pieces blankBehind) := by
  intro c inside
  rcases List.mem_append.mp inside with among | behind
  · exact octets.quiet (by decide) c among
  · cases blankBehind with
    | false => simp at behind
    | true =>
      rw [List.mem_singleton.mp behind]
      decide

/-- A MAC address is quiet, however it is printed. -/
theorem quiet_print (style : MacStyle) (mac : Mac) : Quiet (style.print mac) := by
  have octets : AreOctets (mac.pieces style.octets) := mac.pieces_digits style.octets
  unfold MacStyle.print MacStyle.core
  split
  · exact quiet_blankSeparated octets _
  · have colons : Quiet ([':'].intercalate (mac.pieces style.octets)) := octets.quiet (by decide)
    split
    · intro c inside
      simp only [inQuotes, List.cons_append, List.mem_cons, List.mem_append, List.not_mem_nil,
        or_false] at inside
      rcases inside with rfl | among | rfl
      · decide
      · exact colons c among
      · decide
    · exact colons

/-! ## Values without the marks around them -/

/-- Of a solid value nothing is stripped. -/
theorem stripBoth_of_solid {value : List Char} (solid : ∀ c ∈ value, Solid c) :
    Text.stripBoth isMark value = value :=
  Text.stripBoth_eq_self_of_solid fun c inside => (solid c inside).unmarked

/-- Quotes around a value are stripped with what else is. -/
theorem stripBoth_inQuotes (value : List Char) :
    Text.stripBoth isMark (inQuotes value) = Text.stripBoth isMark value :=
  Text.stripBoth_append ['"'] ['"'] (by decide) (by decide) value

/-- Of octets with blanks between and behind them the blank behind is stripped. -/
theorem stripBoth_blankSeparated {pieces : List (List Char)} (octets : AreOctets pieces)
    (blankBehind : Bool) :
    Text.stripBoth isMark (blankSeparated pieces blankBehind) = [' '].intercalate pieces := by
  have behind : (if blankBehind then [' '] else []).all isMark = true := by
    cases blankBehind <;> decide
  have around := Text.stripBoth_append [] _ rfl behind ([' '].intercalate pieces)
  rw [List.nil_append, Text.stripBoth_intercalate octets.solid] at around
  exact around

/-- Of a printed MAC address what stands around its octets is stripped. -/
theorem stripBoth_print (style : MacStyle) (mac : Mac) :
    Text.stripBoth isMark (style.print mac) = style.core mac := by
  have octets : AreOctets (mac.pieces style.octets) := mac.pieces_digits style.octets
  unfold MacStyle.print MacStyle.core
  split
  · exact stripBoth_blankSeparated octets _
  · split
    · rw [stripBoth_inQuotes, Text.stripBoth_intercalate octets.solid]
    · exact Text.stripBoth_intercalate octets.solid

/-! ## What the values are read as -/

/-- A number is read with or without its label. -/
theorem enumerated?_labelled (label? : Option Label) {n : Int} (fits : Text.InSixtyFour n) :
    enumerated? (labelled label? n) = some n := by
  have written : Text.IsInteger (toString n).toList n := ⟨Text.signedNumeral_toString n, fits⟩
  have none : ∀ c ∈ ([] : List Char), Text.isBlank c = true := List.forall_mem_nil _
  cases label? with
  | none =>
    have read := enumerated?_of_bare none written none
    rwa [List.nil_append, List.append_nil, String.ofList_toList] at read
  | some label =>
    have whole : labelled (some label) n = String.ofList
        (label.text.toList ++ '(' :: ([] ++ (toString n).toList ++ [] ++ ')' :: [])) := by
      rw [← String.toList_inj]
      simp [labelled]
    have opening : '(' ∉ label.text.toList := fun found => (label.plain _ found).2.2.2.2 rfl
    rw [whole]
    exact enumerated?_of_labelled opening none written none

/-- The first of two octets is read as the mask. -/
theorem hexMask?_pieces (mask : MaskOctets) :
    hexMask? ([' '].intercalate mask.pieces) = some (mask.first.toNat : Int) := by
  obtain ⟨some, digits⟩ := (mask.octets 0).write_digits mask.first
  have value := (mask.octets 0).hexValue_write mask.first
  have whole : [' '].intercalate mask.pieces =
      (mask.octets 0).write mask.first ++ ' ' :: (mask.octets 1).write mask.second := by
    simp [MaskOctets.pieces]
  rw [whole]
  revert some digits value
  generalize (mask.octets 0).write mask.first = piece
  generalize (mask.octets 1).write mask.second = rest
  intro some digits value
  have stripped : Text.stripStart Text.isBlank (piece ++ ' ' :: rest) = piece ++ ' ' :: rest := by
    refine Text.stripStart_eq_self fun c first => ?_
    rw [List.head?_append_of_ne_nil _ some] at first
    exact Text.isBlank_of_isHexDigit (digits c (List.mem_of_mem_head? first))
  -- The character after the first is a digit or the blank, so there is no mark of base.
  have unmarked (base : Char) (foreign : Text.isHexDigit base = false ∧ base ≠ ' ') :
      Text.afterStart? ['0', base] (piece ++ ' ' :: rest) = none := by
    refine Text.afterStart?_eq_none.mpr fun begins => ?_
    obtain ⟨c, piece, rfl⟩ := List.exists_cons_of_ne_nil some
    have second := (List.cons_prefix_cons.mp begins).2
    cases piece with
    | nil => exact foreign.2 (List.cons_prefix_cons.mp second).1
    | cons d piece =>
      have digit := digits d (by simp)
      rw [← (List.cons_prefix_cons.mp second).1, foreign.1] at digit
      exact Bool.noConfusion digit
  have taken : (piece ++ ' ' :: rest).takeWhile Text.isHexDigit = piece := by
    rw [List.takeWhile_append_of_pos digits, List.takeWhile_cons_of_neg (by decide),
      List.append_nil]
  have bound := mask.first.toNat_lt
  have fits : Text.InSixtyFour mask.first.toNat := ⟨by omega, by omega⟩
  simp only [hexMask?, stripped, unmarked 'x' (by decide), unmarked 'X' (by decide), taken, value,
    Option.orElse_eq_orElse, Option.orElse_none, Option.getD_none]
  simp [some, fits]

/-- A printed address is read back, whichever texts are allowed to write one. -/
theorem value_mac? {binding : Binding} (style : MacStyle) {mac : Mac}
    (type : binding.type = style.type) (value : binding.value = String.ofList (style.core mac))
    (known : mac.isNull = false) (written : MacText) (log : Log.Logger) :
    (binding.mac? written log).value = some mac := by
  unfold mac?
  rw [type, value]
  unfold MacStyle.type MacStyle.core
  cases style.form with
  | blanks blankBehind =>
    simp [Mac.ofBlanks_pieces, known]
  | colons isQuoted =>
    cases written with
    | colons => simp [Mac.ofColons_pieces, known]
    | either => simp [Mac.ofString_pieces, known]

/-- A printed speed is read back. -/
theorem unsigned?_speed (speed : UInt32) :
    Text.unsigned? Text.limit32 (Text.trim (toString speed.toNat).toList) = some speed.toNat := by
  have solid : Text.trim (toString speed.toNat).toList = (toString speed.toNat).toList :=
    Text.stripBoth_eq_self_of_solid fun c inside =>
      (solid_toString (speed.toNat : Int) c inside).unblank
  have small : speed.toNat ≤ Text.limit32 := Nat.le_of_lt_succ speed.toNat_lt
  rw [solid, Text.unsigned?_toString small]

/-! ## What is logged on the way makes no difference -/

/-- Capabilities of the right type are the mask that their value writes. -/
theorem value_capabilities? {binding : Binding} (type : binding.type = .hexString)
    (log : Log.Logger) :
    (binding.capabilities? log).value = hexMask? binding.value.toList := by
  unfold capabilities?
  rw [type]
  dsimp only
  split
  · rfl
  · rfl

/-- A status of the right type is the number that its value writes. -/
theorem value_status? {binding : Binding} (type : binding.type = .integer) (interface : Int)
    (log : Log.Logger) :
    (binding.status? interface log).value = enumerated? binding.value := by
  unfold status?
  rw [if_pos type]
  dsimp only
  split
  · rfl
  · rfl

/-- A speed of the right type is the number of 32 bits that its value writes. -/
theorem value_speed? {binding : Binding} (type : binding.type = .gauge32) (interface : Int)
    (log : Log.Logger) :
    (binding.speed? interface log).value =
      (Text.unsigned? Text.limit32 (Text.trim binding.value.toList)).map UInt32.ofNat := by
  unfold speed?
  rw [if_pos type]
  dsimp only
  split
  · rfl
  · rfl

/-- A name of the right type is its value. -/
theorem value_name? {binding : Binding} (type : binding.type = .string) (log : Log.Logger) :
    (binding.name? log).value = some binding.value := by
  rw [name?, if_pos type]
  rfl

/-- An attribute is read from the binding that is found for its row. -/
theorem value_attribute? {α : Type} {bindings : List Binding} {binding : Binding} {oid : Oid}
    {row : String} (found : lookup? bindings oid row = some binding) (log : Log.Logger)
    (read? : Binding → Traced (Option α)) :
    (attribute? bindings oid row log read?).value = (read? binding).value := by
  rw [attribute?, found]

end Binding

end CableMap
