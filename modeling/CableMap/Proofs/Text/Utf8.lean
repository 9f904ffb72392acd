import CableMap.Text.Utf8
import Mathlib.Data.List.Forall2

/-!
# Bytes that encode characters

The machine that reads bytes as characters undoes the encoding of characters as bytes: it reads a
text exactly from the bytes that encode it, and finds a fault in all other bytes. Where a character
begins, its first byte and those behind it are compared with the encoding by the numbers that they
stand for; from there a text is read character by character.
-/
namespace CableMap.Text.Utf8

/-- The bytes that encode a text. -/
def encode (text : List Char) : List UInt8 := text.flatMap String.utf8EncodeChar

/-- The bytes of two texts stand one behind the other. -/
theorem encode_append (left right : List Char) :
    encode (left ++ right) = encode left ++ encode right :=
  List.flatMap_append

/-- A byte lies in a range. -/
def Within (byte : UInt8) (range : Range) : Prop := range.1 ≤ byte ∧ byte ≤ range.2

/-- The bits of a character after further bytes of it. -/
def bitsOf (bits : Nat) (tail : List UInt8) : Nat :=
  tail.foldl (fun bits byte => bits * 64 + byte.toNat % 64) bits

/-- A first byte and the bytes behind it are read as a character. -/
inductive Forms (byte : UInt8) (tail : List UInt8) (c : Char) : Prop
  | intro {bits : Nat} {due : List Range} (opens : opening? byte = some (bits, due))
      (follow : List.Forall₂ Within tail due) (value : c = Char.ofNat (bitsOf bits tail))

variable {byte : UInt8} {bytes tail : List UInt8} {c : Char} {text : List Char}

/-! ## Reading one character after the other -/

/-- A character is put in front of what was read, and of nothing where nothing was. -/
theorem map_cons_eq_ok_iff {read : Except Utf8Fault (List Char)} :
    read.map (c :: ·) = .ok text ↔ ∃ later, text = c :: later ∧ read = .ok later := by
  cases read with
  | error fault => simp [Except.map]
  | ok later => simp [Except.map, eq_comm]

/-- The first byte is the first of those that are due, and the others are behind it. -/
theorem exists_follow_cons {range : Range} {due : List Range}
    {holds : List UInt8 → List UInt8 → Prop} :
    (∃ tail rest, byte :: bytes = tail ++ rest ∧ List.Forall₂ Within tail (range :: due) ∧
      holds tail rest) ↔
    Within byte range ∧ ∃ tail rest, bytes = tail ++ rest ∧ List.Forall₂ Within tail due ∧
      holds (byte :: tail) rest := by
  constructor
  · rintro ⟨tail, rest, whole, follow, holds⟩
    obtain ⟨first, others, here, behind, rfl⟩ := List.forall₂_cons_right_iff.mp follow
    obtain ⟨rfl, rfl⟩ := List.cons.inj whole
    exact ⟨here, others, rest, rfl, behind, holds⟩
  · rintro ⟨here, tail, rest, rfl, follow, holds⟩
    exact ⟨byte :: tail, rest, rfl, .cons here follow, holds⟩

/-- Where bytes of a character are due, they come, and the text goes on behind them. -/
theorem decodeFrom_due {start read bits : Nat} (begun : 0 < read) {due : List Range}
    (more : due ≠ []) :
    decodeFrom ⟨start, read, bits, due⟩ bytes = .ok text ↔ ∃ tail rest,
      bytes = tail ++ rest ∧ List.Forall₂ Within tail due ∧ ∃ later,
        text = Char.ofNat (bitsOf bits tail) :: later ∧
          decodeFrom (.fresh (start + read + due.length)) rest = .ok later := by
  obtain ⟨range, others, rfl⟩ := List.exists_cons_of_ne_nil more
  -- Each byte that comes in its range leaves one fewer due.
  induction bytes generalizing read bits range others with
  | nil =>
    have unread : decodeFrom ⟨start, read, bits, range :: others⟩ [] = .error ⟨start, none⟩ := by
      rw [decodeFrom, if_neg (Nat.ne_of_gt begun)]
    rw [unread]
    constructor
    · rintro ⟨⟩
    · rintro ⟨tail, rest, ends, follow, _⟩
      obtain ⟨rfl, rfl⟩ := List.append_eq_nil_iff.mp ends.symm
      cases follow
  | cons byte bytes ih =>
    rw [exists_follow_cons, decodeFrom]
    dsimp only
    by_cases inside : range.1 ≤ byte ∧ byte ≤ range.2
    · have here : Within byte range := inside
      rw [if_pos inside, and_iff_right here]
      cases others with
      | nil =>
        dsimp only
        rw [map_cons_eq_ok_iff]
        simp [bitsOf]
      | cons next others =>
        have places : start + (read + 1) + (next :: others).length =
            start + read + (range :: next :: others).length := by
          simp only [List.length_cons]
          omega
        dsimp only
        rw [ih (Nat.succ_pos read) next others (List.cons_ne_nil next others), places]
        rfl
    · rw [if_neg inside]
      constructor
      · rintro ⟨⟩
      · rintro ⟨here, _⟩
        exact absurd here inside

/-- A text is read from a first byte on if that byte and some behind it are read as its first
character, and the rest is read as the rest. -/
theorem decodeFrom_fresh_cons {start : Nat} :
    decodeFrom (.fresh start) (byte :: bytes) = .ok text ↔ ∃ tail rest c later,
      bytes = tail ++ rest ∧ Forms byte tail c ∧ text = c :: later ∧
        decodeFrom (.fresh (start + tail.length + 1)) rest = .ok later := by
  rw [decodeFrom]
  cases opens : opening? byte with
  | none =>
    simp only [Pending.fresh]
    constructor
    · rintro ⟨⟩
    · rintro ⟨_, _, _, _, _, ⟨other, _, _⟩, _⟩
      rw [opens] at other
      cases other
  | some opened =>
    obtain ⟨bits, due⟩ := opened
    cases due with
    | nil =>
      simp only [Pending.fresh]
      rw [map_cons_eq_ok_iff]
      constructor
      · rintro ⟨later, rfl, goesOn⟩
        exact ⟨[], bytes, _, later, rfl, ⟨opens, .nil, rfl⟩, rfl, goesOn⟩
      · rintro ⟨tail, rest, c, later, rfl, ⟨own, follow, rfl⟩, rfl, goesOn⟩
        rw [opens] at own
        cases own
        cases follow
        exact ⟨later, rfl, goesOn⟩
    | cons next others =>
      simp only [Pending.fresh]
      rw [decodeFrom_due Nat.one_pos (List.cons_ne_nil next others)]
      constructor
      · rintro ⟨tail, rest, rfl, follow, later, rfl, goesOn⟩
        have length := follow.length_eq
        refine ⟨tail, rest, _, later, rfl, ⟨opens, follow, rfl⟩, rfl, ?_⟩
        rwa [length, Nat.add_right_comm]
      · rintro ⟨tail, rest, c, later, rfl, ⟨own, follow, rfl⟩, rfl, goesOn⟩
        rw [opens] at own
        cases own
        have length := follow.length_eq
        refine ⟨tail, rest, rfl, follow, later, rfl, ?_⟩
        rwa [length, Nat.add_right_comm] at goesOn

/-! ## First bytes and the ranges behind them -/

/-- The range of the second byte of three. -/
def secondOfThree (first : Nat) : Range :=
  if first = 0xe0 then (0xa0, 0xbf) else if first = 0xed then (0x80, 0x9f) else continuation

/-- The range of the second byte of four. -/
def secondOfFour (first : Nat) : Range :=
  if first = 0xf0 then (0x90, 0xbf) else if first = 0xf4 then (0x80, 0x8f) else continuation

/-- A byte below 128 is a character by itself. -/
theorem opening?_one (high : byte.toNat < 0x80) : opening? byte = some (byte.toNat, []) := by
  rw [opening?, if_pos high]

/-- After a first byte of two, one byte is due. -/
theorem opening?_two (low : 0xc2 ≤ byte.toNat) (high : byte.toNat < 0xe0) :
    opening? byte = some (byte.toNat % 32, [continuation]) := by
  rw [opening?, if_neg (by omega), if_neg (by omega), if_pos high]

/-- After a first byte of three, two bytes are due, the first of them in a range of its own. -/
theorem opening?_three (low : 0xe0 ≤ byte.toNat) (high : byte.toNat < 0xf0) :
    opening? byte = some (byte.toNat % 16, [secondOfThree byte.toNat, continuation]) := by
  rw [opening?, if_neg (by omega), if_neg (by omega), if_neg (by omega), if_pos high]
  rfl

/-- After a first byte of four, three bytes are due, the first of them in a range of its own. -/
theorem opening?_four (low : 0xf0 ≤ byte.toNat) (high : byte.toNat < 0xf5) :
    opening? byte = some (byte.toNat % 8, [secondOfFour byte.toNat, continuation, continuation]) := by
  rw [opening?, if_neg (by omega), if_neg (by omega), if_neg (by omega), if_neg (by omega),
    if_pos high]
  rfl

/-- All other bytes begin no character. -/
theorem opening?_eq_none (one : ¬ byte.toNat < 0x80)
    (two : ¬ (0xc2 ≤ byte.toNat ∧ byte.toNat < 0xe0))
    (three : ¬ (0xe0 ≤ byte.toNat ∧ byte.toNat < 0xf0))
    (four : ¬ (0xf0 ≤ byte.toNat ∧ byte.toNat < 0xf5)) : opening? byte = none := by
  unfold opening?
  by_cases low : byte.toNat < 0xc2
  · rw [if_neg one, if_pos low]
  · rw [if_neg one, if_neg low, if_neg (by omega), if_neg (by omega), if_neg (by omega)]

/-- The bytes that continue a character are those from 128 to 191. -/
theorem within_continuation :
    Within byte continuation ↔ 0x80 ≤ byte.toNat ∧ byte.toNat < 0xc0 := by
  simp only [Within, continuation, UInt8.le_iff_toNat_le, UInt8.reduceToNat]
  omega

/-- The second byte of three is one that continues, but for those of shorter forms and of
surrogates. -/
theorem within_secondOfThree {first : Nat} :
    Within byte (secondOfThree first) ↔ 0x80 ≤ byte.toNat ∧ byte.toNat < 0xc0 ∧
      (first = 0xe0 → 0xa0 ≤ byte.toNat) ∧ (first = 0xed → byte.toNat < 0xa0) := by
  unfold secondOfThree
  split_ifs <;> simp only [Within, continuation, UInt8.le_iff_toNat_le, UInt8.reduceToNat] <;> omega

/-- The second byte of four is one that continues, but for those of shorter forms and of no
character. -/
theorem within_secondOfFour {first : Nat} :
    Within byte (secondOfFour first) ↔ 0x80 ≤ byte.toNat ∧ byte.toNat < 0xc0 ∧
      (first = 0xf0 → 0x90 ≤ byte.toNat) ∧ (first = 0xf4 → byte.toNat < 0x90) := by
  unfold secondOfFour
  split_ifs <;> simp only [Within, continuation, UInt8.le_iff_toNat_le, UInt8.reduceToNat] <;> omega

/-! ## The bytes of one character -/

/-- A number below 256 is that of its byte. -/
theorem toNat_ofNat_of_small {n : Nat} (small : n < 256) : (UInt8.ofNat n).toNat = n := by
  rw [UInt8.toNat_ofNat', Nat.mod_eq_of_lt small]

/-- A byte is that of its number. -/
theorem ofNat_eq_of_toNat (byte : UInt8) {n : Nat} (same : byte.toNat = n) :
    UInt8.ofNat n = byte := by
  rw [← same, UInt8.ofNat_toNat]

/-- A number below the surrogates, or above them and among the code points, is that of its
character. -/
theorem val_ofNat {n : Nat} (valid : n < 0xd800 ∨ 0xdfff < n ∧ n < 0x110000) :
    (Char.ofNat n).val.toNat = n := by
  rw [Char.ofNat, dif_pos valid]
  rfl

/-- The bytes that encode a character are read as it. -/
theorem forms_of_encoded (encoded : String.utf8EncodeChar c = byte :: tail) :
    Forms byte tail c := by
  have valid : c.toNat < 0xd800 ∨ 0xdfff < c.toNat ∧ c.toNat < 0x110000 := c.valid
  have same : c = Char.ofNat c.toNat := (Char.ofNat_toNat c).symm
  have whole : c.val.toNat = c.toNat := rfl
  simp only [String.utf8EncodeChar, whole] at encoded
  generalize c.toNat = n at *
  split_ifs at encoded with one two three
  · obtain ⟨rfl, rfl⟩ := List.cons.inj encoded
    have first := toNat_ofNat_of_small (n := n) (by omega)
    refine ⟨opening?_one (by omega), .nil, ?_⟩
    rw [first]
    exact same
  · obtain ⟨rfl, rfl⟩ := List.cons.inj encoded
    have first := toNat_ofNat_of_small (n := n / 64 % 32 + 0xc0) (by omega)
    have second := toNat_ofNat_of_small (n := n % 64 + 0x80) (by omega)
    refine ⟨opening?_two (by omega) (by omega), .cons ?_ .nil, ?_⟩
    · rw [within_continuation]
      omega
    · simp only [bitsOf, List.foldl_cons, List.foldl_nil, first, second]
      rw [same]
      congr 1
      omega
  · obtain ⟨rfl, rfl⟩ := List.cons.inj encoded
    have first := toNat_ofNat_of_small (n := n / 4096 % 16 + 0xe0) (by omega)
    have second := toNat_ofNat_of_small (n := n / 64 % 64 + 0x80) (by omega)
    have third := toNat_ofNat_of_small (n := n % 64 + 0x80) (by omega)
    refine ⟨opening?_three (by omega) (by omega), .cons ?_ (.cons ?_ .nil), ?_⟩
    · rw [within_secondOfThree]
      omega
    · rw [within_continuation]
      omega
    · simp only [bitsOf, List.foldl_cons, List.foldl_nil, first, second, third]
      rw [same]
      congr 1
      omega
  · obtain ⟨rfl, rfl⟩ := List.cons.inj encoded
    have first := toNat_ofNat_of_small (n := n / 262144 % 8 + 0xf0) (by omega)
    have second := toNat_ofNat_of_small (n := n / 4096 % 64 + 0x80) (by omega)
    have third := toNat_ofNat_of_small (n := n / 64 % 64 + 0x80) (by omega)
    have fourth := toNat_ofNat_of_small (n := n % 64 + 0x80) (by omega)
    refine ⟨opening?_four (by omega) (by omega), .cons ?_ (.cons ?_ (.cons ?_ .nil)), ?_⟩
    · rw [within_secondOfFour]
      omega
    · rw [within_continuation]
      omega
    · rw [within_continuation]
      omega
    · simp only [bitsOf, List.foldl_cons, List.foldl_nil, first, second, third, fourth]
      rw [same]
      congr 1
      omega

/-- The bytes that are read as a character encode it: the ranges leave no second encoding and no
surrogate. -/
theorem Forms.encoded (forms : Forms byte tail c) : String.utf8EncodeChar c = byte :: tail := by
  obtain ⟨opens, follow, rfl⟩ := forms
  -- The first byte says how many follow, and the range of the second that fewer would not do.
  by_cases one : byte.toNat < 0x80
  · rw [opening?_one one] at opens
    cases opens
    cases follow
    have whole := val_ofNat (n := byte.toNat) (by omega)
    simp only [String.utf8EncodeChar, bitsOf, List.foldl_nil, whole]
    rw [if_pos (by omega), UInt8.ofNat_toNat]
  by_cases two : 0xc2 ≤ byte.toNat ∧ byte.toNat < 0xe0
  · rw [opening?_two two.1 two.2] at opens
    cases opens
    obtain ⟨x, none, second, last, rfl⟩ := List.forall₂_cons_right_iff.mp follow
    cases last
    rw [within_continuation] at second
    have whole := val_ofNat (n := byte.toNat % 32 * 64 + x.toNat % 64) (by omega)
    simp only [String.utf8EncodeChar, bitsOf, List.foldl_cons, List.foldl_nil, whole]
    rw [if_neg (by omega), if_pos (by omega), ofNat_eq_of_toNat byte (by omega),
      ofNat_eq_of_toNat x (by omega)]
  by_cases three : 0xe0 ≤ byte.toNat ∧ byte.toNat < 0xf0
  · rw [opening?_three three.1 three.2] at opens
    cases opens
    obtain ⟨x, others, second, more, rfl⟩ := List.forall₂_cons_right_iff.mp follow
    obtain ⟨y, none, third, last, rfl⟩ := List.forall₂_cons_right_iff.mp more
    cases last
    rw [within_secondOfThree] at second
    rw [within_continuation] at third
    have whole := val_ofNat
      (n := (byte.toNat % 16 * 64 + x.toNat % 64) * 64 + y.toNat % 64) (by omega)
    simp only [String.utf8EncodeChar, bitsOf, List.foldl_cons, List.foldl_nil, whole]
    rw [if_neg (by omega), if_neg (by omega), if_pos (by omega),
      ofNat_eq_of_toNat byte (by omega), ofNat_eq_of_toNat x (by omega),
      ofNat_eq_of_toNat y (by omega)]
  by_cases four : 0xf0 ≤ byte.toNat ∧ byte.toNat < 0xf5
  · rw [opening?_four four.1 four.2] at opens
    cases opens
    obtain ⟨x, others, second, more, rfl⟩ := List.forall₂_cons_right_iff.mp follow
    obtain ⟨y, rest, third, most, rfl⟩ := List.forall₂_cons_right_iff.mp more
    obtain ⟨z, none, fourth, last, rfl⟩ := List.forall₂_cons_right_iff.mp most
    cases last
    rw [within_secondOfFour] at second
    rw [within_continuation] at third fourth
    have whole := val_ofNat
      (n := ((byte.toNat % 8 * 64 + x.toNat % 64) * 64 + y.toNat % 64) * 64 + z.toNat % 64)
      (by omega)
    simp only [String.utf8EncodeChar, bitsOf, List.foldl_cons, List.foldl_nil, whole]
    rw [if_neg (by omega), if_neg (by omega), if_neg (by omega),
      ofNat_eq_of_toNat byte (by omega), ofNat_eq_of_toNat x (by omega),
      ofNat_eq_of_toNat y (by omega), ofNat_eq_of_toNat z (by omega)]
  · rw [opening?_eq_none one two three four] at opens
    cases opens

/-- Bytes are read as a character exactly if they encode it. -/
theorem forms_iff : Forms byte tail c ↔ String.utf8EncodeChar c = byte :: tail :=
  ⟨Forms.encoded, forms_of_encoded⟩

/-! ## Texts -/

/-- The bytes of a first character are followed by those of the others. -/
theorem encode_cons_eq_iff :
    encode (c :: text) = byte :: bytes ↔
      ∃ tail rest, bytes = tail ++ rest ∧ Forms byte tail c ∧ encode text = rest := by
  simp only [forms_iff]
  have some : String.utf8EncodeChar c ≠ [] := by simp
  obtain ⟨first, tail, own⟩ := List.exists_cons_of_ne_nil some
  have whole : encode (c :: text) = first :: (tail ++ encode text) := by
    rw [encode, List.flatMap_cons, own]
    rfl
  rw [whole, own]
  constructor
  · intro same
    obtain ⟨rfl, rfl⟩ := List.cons.inj same
    exact ⟨tail, _, rfl, rfl, rfl⟩
  · rintro ⟨_, _, rfl, same, rfl⟩
    obtain ⟨rfl, rfl⟩ := List.cons.inj same
    rfl

/-- Wherever bytes start, a text is read from the bytes that encode it and from no others. -/
theorem decodeFrom_fresh_eq_ok_iff {start : Nat} :
    decodeFrom (.fresh start) bytes = .ok text ↔ encode text = bytes := by
  induction text generalizing start bytes with
  | nil =>
    cases bytes with
    | nil => exact ⟨fun _ => rfl, fun _ => rfl⟩
    | cons byte bytes =>
      rw [decodeFrom_fresh_cons]
      constructor
      · rintro ⟨_, _, _, _, _, _, ⟨⟩, _⟩
      · rintro ⟨⟩
  | cons c text ih =>
    cases bytes with
    | nil =>
      constructor
      · rintro ⟨⟩
      · intro none
        have empty : String.utf8EncodeChar c = [] := (List.append_eq_nil_iff.mp none).1
        simp at empty
    | cons byte bytes =>
      rw [decodeFrom_fresh_cons, encode_cons_eq_iff]
      constructor
      · rintro ⟨tail, rest, _, _, whole, forms, ⟨⟩, goesOn⟩
        exact ⟨tail, rest, whole, forms, ih.mp goesOn⟩
      · rintro ⟨tail, rest, whole, forms, goesOn⟩
        exact ⟨tail, rest, c, text, whole, forms, rfl, ih.mpr goesOn⟩

/-- A text is read from the bytes that encode it and from no others. -/
theorem decode_eq_ok_iff : decode bytes = .ok text ↔ encode text = bytes :=
  decodeFrom_fresh_eq_ok_iff

/-- No two texts have the same bytes. -/
theorem encode_inj {left right : List Char} : encode left = encode right ↔ left = right := by
  refine ⟨fun same => ?_, congrArg encode⟩
  have read := decode_eq_ok_iff.mpr same
  rw [decode_eq_ok_iff.mpr rfl] at read
  exact (Except.ok.inj read).symm

/-- Bytes that encode no text have a fault. -/
theorem exists_fault (broken : ∀ text, encode text ≠ bytes) :
    ∃ fault, decode bytes = .error fault := by
  cases read : decode bytes with
  | error fault => exact ⟨fault, rfl⟩
  | ok text => exact absurd (decode_eq_ok_iff.mp read) (broken text)

end CableMap.Text.Utf8
