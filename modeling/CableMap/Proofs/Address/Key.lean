import CableMap.Proofs.Address.Mac
import CableMap.Proofs.Address.Pieces
import CableMap.Proofs.Order
import CableMap.Proofs.Text.Utf8

/-!
# The canonical text of a MAC address as a key

The spellings of an address are read as it and no other text is, so to read a text and write it
anew gives one text for each address. Since each octet has two digits in the canonical text, and
the bytes of the digits rise with their values, the texts stand in the order of the addresses.
Hence to sort addresses and to sort their texts give the same, each once.
-/
namespace CableMap

/-! ## Texts in the order of their bytes -/

namespace Text

/-- A text stands before another in the order of their bytes. -/
def Before (left right : String) : Prop :=
  Utf8.encode left.toList < Utf8.encode right.toList

/-- A text stands before another or is the same. -/
def atMost (left right : String) : Bool :=
  Utf8.encode left.toList ≤ Utf8.encode right.toList

/-- The texts in the order of their bytes, each once. -/
def sortDistinct (texts : List String) : List String :=
  (texts.mergeSort atMost).eraseReps

instance : Std.Asymm Before := ⟨fun _ _ => List.lt_asymm⟩

/-- One text is at most another exactly if its bytes are. -/
theorem atMost_iff {left right : String} :
    atMost left right = true ↔ Utf8.encode left.toList ≤ Utf8.encode right.toList :=
  decide_eq_true_iff

/-- Texts can be sorted by their bytes: the order is total, and no two texts have the same bytes. -/
theorem sorts_atMost : Sorts atMost where
  trans := by
    intro a b c
    rw [atMost_iff, atMost_iff, atMost_iff]
    exact List.le_trans
  total := by
    intro a b
    rw [Bool.or_eq_true, atMost_iff, atMost_iff]
    exact List.le_total _ _
  antisymm := by
    intro a b
    rw [atMost_iff, atMost_iff]
    intro forth back
    exact String.toList_inj.mp (Utf8.encode_inj.mp (List.le_antisymm forth back))

/-- A text stands before another if it is at most that and not the same. -/
theorem before_of_atMost {left right : String} (below : atMost left right = true)
    (other : left ≠ right) : Before left right := by
  rw [atMost_iff] at below
  refine Classical.byContradiction fun back => other ?_
  have same := List.le_antisymm below (List.not_lt.mp back)
  exact String.toList_inj.mp (Utf8.encode_inj.mp same)

/-- Texts are sorted into the order of their bytes. -/
theorem arranged_sortDistinct (texts : List String) :
    Arranged Before texts (sortDistinct texts) := by
  obtain ⟨rising, members⟩ := sorts_atMost.arranged_mergeSort texts
  exact ⟨rising.imp fun steps => before_of_atMost steps.1 steps.2, members⟩

/-! ## The bytes of octets -/

/-- The digit of a value below sixteen has one byte. -/
theorem length_encode_digit : ∀ n < 16, (Utf8.encode [n.digitChar.toUpper]).length = 1 := by
  decide +kernel

/-- The byte of a digit rises with its value. -/
theorem encode_digit_lt_iff : ∀ m < 16, ∀ n < 16,
    (Utf8.encode [m.digitChar.toUpper] < Utf8.encode [n.digitChar.toUpper] ↔ m < n) ∧
      (Utf8.encode [m.digitChar.toUpper] = Utf8.encode [n.digitChar.toUpper] ↔ m = n) := by
  decide +kernel

/-- The bytes of an octet are those of its digits. -/
theorem encode_hexOctet (octet : UInt8) :
    Utf8.encode (hexOctet octet) = Utf8.encode [(octet.toNat / 16).digitChar.toUpper] ++
      Utf8.encode [(octet.toNat % 16).digitChar.toUpper] :=
  Utf8.encode_append [_] [_]

/-- An octet has two bytes. -/
theorem length_encode_hexOctet (octet : UInt8) : (Utf8.encode (hexOctet octet)).length = 2 := by
  have bound := octet.toNat_lt
  rw [encode_hexOctet, List.length_append, length_encode_digit _ (by omega),
    length_encode_digit _ (by omega)]

/-- The bytes of an octet rise with the octet. -/
theorem encode_hexOctet_lt_iff {left right : UInt8} :
    Utf8.encode (hexOctet left) < Utf8.encode (hexOctet right) ↔ left < right := by
  have leftBound := left.toNat_lt
  have rightBound := right.toNat_lt
  have width := (length_encode_digit (left.toNat / 16) (by omega)).trans
    (length_encode_digit (right.toNat / 16) (by omega)).symm
  obtain ⟨high, same⟩ :=
    encode_digit_lt_iff (left.toNat / 16) (by omega) (right.toNat / 16) (by omega)
  obtain ⟨low, _⟩ := encode_digit_lt_iff (left.toNat % 16) (by omega) (right.toNat % 16) (by omega)
  rw [encode_hexOctet, encode_hexOctet, append_lt_append_iff width, high, same, low,
    UInt8.lt_iff_toNat_lt]
  omega

/-- No two octets have the same bytes. -/
theorem encode_hexOctet_inj {left right : UInt8} :
    Utf8.encode (hexOctet left) = Utf8.encode (hexOctet right) ↔ left = right := by
  refine ⟨fun same => ?_, fun same => by rw [same]⟩
  have values := congrArg hexValue (Utf8.encode_inj.mp same)
  rw [← OctetStyle.write_canonical, ← OctetStyle.write_canonical, OctetStyle.hexValue_write,
    OctetStyle.hexValue_write] at values
  exact UInt8.toNat_inj.mp values

/-- The bytes of octets with colons between them rise with the octets. -/
theorem encode_octets_lt_iff {left right : List UInt8} (length : left.length = right.length) :
    Utf8.encode ([':'].intercalate (left.map hexOctet)) <
      Utf8.encode ([':'].intercalate (right.map hexOctet)) ↔ left < right := by
  induction left generalizing right with
  | nil =>
    obtain rfl := List.length_eq_zero_iff.mp length.symm
    simp [List.lt_irrefl]
  | cons x left ih =>
    cases right with
    | nil => cases length
    | cons y right =>
      have width := (length_encode_hexOctet x).trans (length_encode_hexOctet y).symm
      rw [List.cons_lt_cons_iff, ← encode_hexOctet_lt_iff, ← encode_hexOctet_inj]
      cases left with
      | nil =>
        obtain rfl := List.length_eq_zero_iff.mp (Nat.succ.inj length).symm
        simp [List.intercalate_singleton, List.lt_irrefl]
      | cons x' left =>
        cases right with
        | nil => cases length
        | cons y' right =>
          -- Behind the first octet the colon is the same, and the others decide.
          have later := ih (Nat.succ.inj length)
          simp only [List.map_cons, List.intercalate_cons_cons, List.append_assoc,
            Utf8.encode_append, append_lt_append_iff width] at later ⊢
          rw [append_lt_append_iff rfl, later]
          simp [List.lt_irrefl]

end Text

/-! ## Addresses in the order of their octets -/

namespace Mac

/-- Addresses are in the order of their octets, the first that differ deciding. -/
instance : LT Mac := ⟨fun left right => left.octets < right.octets⟩

instance : Std.Asymm (α := Mac) (· < ·) := ⟨fun _ _ => List.lt_asymm⟩

/-- One address is less than another exactly if its octets are. -/
theorem lt_iff {left right : Mac} : left < right ↔ left.octets < right.octets := Iff.rfl

/-- No two addresses have the same octets. -/
theorem octets_inj {left right : Mac} : left.octets = right.octets ↔ left = right := by
  cases left
  cases right
  simp [octets]

/-- The numbers that octets write behind numbers rise with these and then with the octets. -/
theorem foldl_lt_iff {left right : List UInt8} (length : left.length = right.length) (x y : Nat) :
    left.foldl (fun value octet => 256 * value + octet.toNat) x <
      right.foldl (fun value octet => 256 * value + octet.toNat) y ↔
    x < y ∨ x = y ∧ left < right := by
  induction left generalizing right x y with
  | nil =>
    obtain rfl := List.length_eq_zero_iff.mp length.symm
    simp [List.lt_irrefl]
  | cons a left ih =>
    cases right with
    | nil => cases length
    | cons b right =>
      have aBound := a.toNat_lt
      have bBound := b.toNat_lt
      rw [List.foldl_cons, List.foldl_cons, ih (Nat.succ.inj length), List.cons_lt_cons_iff,
        UInt8.lt_iff_toNat_lt, ← UInt8.toNat_inj]
      by_cases less : left < right
      · simp only [less, and_true]
        omega
      · simp only [less, and_false, or_false]
        omega

/-- The numbers of addresses rise with the addresses. -/
theorem toNat_lt_iff {left right : Mac} : left.toNat < right.toNat ↔ left < right := by
  have six : left.octets.length = right.octets.length := rfl
  rw [toNat, toNat, foldl_lt_iff six, lt_iff]
  simp

/-- No two addresses have the same number. -/
theorem toNat_inj {left right : Mac} : left.toNat = right.toNat ↔ left = right := by
  refine ⟨fun same => ?_, congrArg toNat⟩
  have forth : ¬ left.octets < right.octets := by
    rw [← lt_iff, ← toNat_lt_iff]
    omega
  have back : ¬ right.octets < left.octets := by
    rw [← lt_iff, ← toNat_lt_iff]
    omega
  exact octets_inj.mp (List.le_antisymm (List.not_lt.mp back) (List.not_lt.mp forth))

/-- Addresses are sorted into their order. -/
theorem arranged_sortDistinct (macs : List Mac) : Arranged (· < ·) macs (sortDistinct macs) := by
  have sorts : Sorts fun left right : Mac => left.toNat ≤ right.toNat :=
    { trans := fun a b c => by simpa using Nat.le_trans
      total := fun a b => by simpa using Nat.le_total a.toNat b.toNat
      antisymm := fun a b forth back =>
        toNat_inj.mp (Nat.le_antisymm (of_decide_eq_true forth) (of_decide_eq_true back)) }
  obtain ⟨rising, members⟩ := sorts.arranged_mergeSort macs
  refine ⟨rising.imp fun {a b} steps => ?_, members⟩
  have other : a.toNat ≠ b.toNat := mt toNat_inj.mp steps.2
  exact toNat_lt_iff.mp (Nat.lt_of_le_of_ne (of_decide_eq_true steps.1) other)

/-- The canonical text is the octets with a colon between each two. -/
theorem toList_toString (mac : Mac) :
    (toString mac).toList = [':'].intercalate (mac.octets.map Text.hexOctet) :=
  String.toList_ofList

/-- The texts of addresses are in the order of the addresses. -/
theorem before_toString_iff {left right : Mac} :
    Text.Before (toString left) (toString right) ↔ left < right := by
  have six : left.octets.length = right.octets.length := rfl
  rw [Text.Before, toList_toString, toList_toString, Text.encode_octets_lt_iff six, lt_iff]

/-- The texts of the sorted addresses are sorted. -/
theorem arranged_keys (macs : List Mac) :
    Arranged Text.Before (macs.map toString) ((sortDistinct macs).map toString) := by
  obtain ⟨rising, members⟩ := arranged_sortDistinct macs
  refine ⟨List.pairwise_map.mpr (rising.imp before_toString_iff.mpr), fun text => ?_⟩
  simp only [List.mem_map, members]

/-! ## The text as a key -/

variable {text : String} {mac : Mac}

/-- A text is read as an address if it spells the address, and not otherwise. -/
theorem ofString_eq_ok_iff : ofString text = .ok mac ↔ mac.Spells text := by
  refine ⟨fun read => ?_, Spells.ofString_eq⟩
  rw [ofString_eq, ofPieces_eq_iff] at read
  obtain ⟨written⟩ := read
  have each : List.Forall₂ Writes (cut text.toList) mac.octets :=
    (List.forall₂_map_right_iff.mp written).imp fun piece octet => writes_iff.mpr
  rw [← String.ofList_toList (s := text)]
  have falls := fallsInto_iff.mpr (Eq.refl (cut text.toList))
  generalize text.toList = chars at each falls ⊢
  generalize cut chars = pieces at each falls
  cases falls with
  | colons front back bare colon some uncut whole =>
    rw [whole]
    exact .colons each front back
  | blanks noColon spaced uncut => exact .blanks each spaced

/-- The canonical text has colons. -/
theorem ofColons_toString (mac : Mac) : ofColons (toString mac) = .ok mac := by
  have colon : (toString mac).toList.contains ':' = true := by
    rw [toList_toString]
    simp [octets]
  have read := ofString_toString mac
  rwa [ofString, if_pos colon] at read

/-- A text of each address is a faithful key of it. -/
structure IsKey (key : Mac → String) : Prop where
  /-- The key of an address is read back as the address, also where colons are expected. -/
  reads_back : ∀ mac, ofString (key mac) = .ok mac ∧ ofColons (key mac) = .ok mac
  /-- In a spelling each octet is written with one or two digits of either case. -/
  writes_iff : ∀ piece octet, Writes piece octet ↔ WritesOctet piece octet.toNat
  /-- The spellings of an address are read as the address, and no other text is. -/
  read_iff : ∀ mac text, ofString text = .ok mac ↔ mac.Spells text
  /-- Whatever spelling of an address is read, it is written anew as the key. -/
  rewritten : ∀ mac text, mac.Spells text → (ofString text).map key = .ok (key mac)
  /-- Addresses are the same if and only if their keys are. -/
  eq_iff : ∀ left right, left = right ↔ key left = key right
  /-- One address is less than another if and only if its key is. -/
  lt_iff : ∀ left right : Mac, left < right ↔ Text.Before (key left) (key right)
  /-- Sorted addresses are the same addresses, each once and rising. -/
  sorted : ∀ macs, Arranged (· < ·) macs (sortDistinct macs)
  /-- To sort the keys of addresses is to sort the addresses. -/
  sorted_keys : ∀ macs, Text.sortDistinct (macs.map key) = (sortDistinct macs).map key
  /-- Whatever else sorts the keys of addresses has the same result. -/
  arranged_iff : ∀ macs keys, Arranged Text.Before (macs.map key) keys ↔
    keys = (sortDistinct macs).map key

/-- The canonical text of an address is a faithful key of it. -/
theorem canonical_text_isKey : IsKey toString where
  reads_back := fun mac => ⟨ofString_toString mac, ofColons_toString mac⟩
  writes_iff := fun piece octet => Mac.writes_iff
  read_iff := fun mac text => ofString_eq_ok_iff
  rewritten := by
    intro mac text spells
    rw [spells.ofString_eq]
    rfl
  eq_iff := fun left right => toString_inj.symm
  lt_iff := fun left right => before_toString_iff.symm
  sorted := arranged_sortDistinct
  sorted_keys := fun macs => (Text.arranged_sortDistinct _).eq (arranged_keys macs)
  arranged_iff := by
    intro macs keys
    constructor
    · exact fun arranged => arranged.eq (arranged_keys macs)
    · rintro rfl
      exact arranged_keys macs

example : (ofString " 0:1b:21:A:b:0c\n").map toString = .ok "00:1B:21:0A:0B:0C" := by decide

end Mac

end CableMap
