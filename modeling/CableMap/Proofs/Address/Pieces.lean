import CableMap.Proofs.Address.Spelling
import CableMap.Proofs.Text.Decimal

/-!
# Which texts are MAC addresses

A text falls into pieces, at its colons if it has one and at its blanks otherwise. Six pieces of
one or two hexadecimal digits are an address. Of any other pieces the first bad one among the first
six is the error, then that there are too many, then that there are too few.
-/
namespace CableMap.Mac

variable {text piece : List Char} {pieces : List (List Char)} {mac : Mac}

/-! ## The octet of a piece -/

/-- A piece is one or two hexadecimal digits, and these have a value. -/
inductive WritesOctet : List Char → Nat → Prop
  /-- One digit has its own value. -/
  | one {c : Char} {x : Nat} (digit : Text.IsHexDigitOf c x) : WritesOctet [c] x
  /-- Of two digits the first counts sixteen times. -/
  | two {c d : Char} {x y : Nat} (high : Text.IsHexDigitOf c x) (low : Text.IsHexDigitOf d y) :
      WritesOctet [c, d] (16 * x + y)

/-- A piece is one or two hexadecimal digits. -/
def IsPair (piece : List Char) : Prop := ∃ value, WritesOctet piece value

/-- The pieces that write an octet are those that the reader lets pass, with the value that it gives
them. -/
theorem writesOctet_iff {value : Nat} :
    WritesOctet piece value ↔ isOctet piece = true ∧ Text.hexValue piece = value := by
  constructor
  · rintro (⟨digit⟩ | ⟨high, low⟩)
    · have read := Text.hexDigit?_eq_some_iff.mpr digit
      simp [isOctet, Text.isHexDigit, Text.hexValue, read]
    · have first := Text.hexDigit?_eq_some_iff.mpr high
      have second := Text.hexDigit?_eq_some_iff.mpr low
      simp [isOctet, Text.isHexDigit, Text.hexValue, first, second]
  · rintro ⟨octet, rfl⟩
    obtain ⟨some, hex⟩ := digits_of_isOctet octet
    have short : piece.length ≤ 2 := by
      simp only [isOctet, Bool.and_eq_true, decide_eq_true_eq] at octet
      exact octet.1.2
    have read : ∀ c ∈ piece, ∃ value, Text.hexDigit? c = .some value := fun c inside =>
      Option.isSome_iff_exists.mp (hex c inside)
    rcases piece with - | ⟨c, - | ⟨d, - | ⟨third, more⟩⟩⟩
    · exact absurd rfl some
    · obtain ⟨x, first⟩ := read c (by simp)
      have value : Text.hexValue [c] = x := by simp [Text.hexValue, first]
      rw [value]
      exact .one (Text.hexDigit?_eq_some_iff.mp first)
    · obtain ⟨x, first⟩ := read c (by simp)
      obtain ⟨y, second⟩ := read d (by simp)
      have value : Text.hexValue [c, d] = 16 * x + y := by simp [Text.hexValue, first, second]
      rw [value]
      exact .two (Text.hexDigit?_eq_some_iff.mp first) (Text.hexDigit?_eq_some_iff.mp second)
    · simp at short

/-- The reader lets exactly the pieces of one or two hexadecimal digits pass. -/
theorem isOctet_iff : isOctet piece = true ↔ IsPair piece := by
  simp only [IsPair, writesOctet_iff]
  exact ⟨fun octet => ⟨_, octet, rfl⟩, fun ⟨_, octet, _⟩ => octet⟩

/-- Two hexadecimal digits write no more than an octet holds. -/
theorem WritesOctet.lt {value : Nat} (written : WritesOctet piece value) : value < 256 := by
  cases written with
  | one digit =>
    have bound := digit.lt
    omega
  | two high low =>
    have first := high.lt
    have second := low.lt
    omega

/-- A piece writes the octet of its value. -/
theorem writes_iff {octet : UInt8} : Writes piece octet ↔ WritesOctet piece octet.toNat :=
  writesOctet_iff.symm

/-! ## The pieces of a text -/

/-- A text falls into pieces. -/
inductive FallsInto : List Char → List (List Char) → Prop
  /-- A text with a colon falls into what stands between its colons, blanks around the whole
  aside. -/
  | colons {lead core trail : List Char} {pieces : List (List Char)}
      (front : ∀ c ∈ lead, Text.isBlank c = true) (back : ∀ c ∈ trail, Text.isBlank c = true)
      (bare : Text.Bare Text.isBlank core) (colon : ':' ∈ core) (some : pieces ≠ [])
      (uncut : ∀ piece ∈ pieces, ':' ∉ piece) (whole : core = [':'].intercalate pieces) :
      FallsInto (lead ++ core ++ trail) pieces
  /-- A text without a colon falls into what stands between its blanks. -/
  | blanks {text : List Char} {pieces : List (List Char)} (noColon : ':' ∉ text)
      (spaced : Text.Spaced pieces text) (uncut : ∀ piece ∈ pieces, Text.IsWord piece) :
      FallsInto text pieces

/-- The pieces that are looked at. -/
def cut (text : List Char) : List (List Char) :=
  if text.contains ':' then (Text.trim text).splitOn ':' else Text.words text

/-- A text is read by its pieces. -/
theorem ofString_eq (text : String) : ofString text = ofPieces (cut text.toList) := by
  unfold ofString cut
  split <;> rfl

/-- The blanks around a text are no colons. -/
theorem colon_mem_iff {lead core trail : List Char} (front : ∀ c ∈ lead, Text.isBlank c = true)
    (back : ∀ c ∈ trail, Text.isBlank c = true) : ':' ∈ lead ++ core ++ trail ↔ ':' ∈ core := by
  have other : Text.isBlank ':' ≠ true := by decide
  have before : ':' ∉ lead := fun inside => other (front ':' inside)
  have behind : ':' ∉ trail := fun inside => other (back ':' inside)
  simp [before, behind]

/-- The pieces that are looked at are the only ones that the text falls into. -/
theorem fallsInto_iff : FallsInto text pieces ↔ pieces = cut text := by
  constructor
  · intro falls
    cases falls with
    | @colons lead core trail _ front back bare colon some uncut whole =>
      have marked : ':' ∈ lead ++ core ++ trail := (colon_mem_iff front back).mpr colon
      have trimmed : Text.trim (lead ++ core ++ trail) = core :=
        Text.stripBoth_eq_iff.mpr ⟨lead, trail, rfl, front, back, bare⟩
      rw [cut, if_pos (List.contains_iff_mem.mpr marked), trimmed]
      exact (Text.splitOn_eq_iff.mpr ⟨some, uncut, whole⟩).symm
    | blanks noColon spaced uncut =>
      rw [cut, if_neg (mt List.contains_iff_mem.mp noColon)]
      exact (Text.words_eq_iff.mpr ⟨spaced, uncut⟩).symm
  · rintro rfl
    by_cases colon : ':' ∈ text
    · obtain ⟨lead, trail, whole, front, back, bare⟩ := Text.exists_stripBoth Text.isBlank text
      have same : (Text.trim text).splitOn ':' = (Text.trim text).splitOn ':' := rfl
      obtain ⟨some, uncut, joined⟩ := Text.splitOn_eq_iff.mp same
      have inside : ':' ∈ Text.trim text := by
        rw [whole] at colon
        exact (colon_mem_iff front back).mp colon
      have falls := FallsInto.colons front back bare inside some uncut joined
      rw [← whole] at falls
      rwa [cut, if_pos (List.contains_iff_mem.mpr colon)]
    · have ⟨spaced, uncut⟩ := Text.spaced_words text
      rw [cut, if_neg (mt List.contains_iff_mem.mp colon)]
      exact .blanks colon spaced uncut

/-! ## The verdict -/

/-- What is made of pieces. -/
inductive Verdict (pieces : List (List Char)) : Except MacError Mac → Prop
  /-- Six good pieces are the address of their values in order. -/
  | address {mac : Mac} (written : List.Forall₂ WritesOctet pieces (mac.octets.map UInt8.toNat)) :
      Verdict pieces (.ok mac)
  /-- A bad piece among the first six is the error if those before it are good. -/
  | invalidOctet {before behind : List (List Char)} {bad : String}
      (whole : pieces = before ++ bad.toList :: behind) (early : before.length < 6)
      (good : ∀ piece ∈ before, IsPair piece) (isBad : ¬ IsPair bad.toList) :
      Verdict pieces (.error (.invalidOctet bad))
  /-- Behind six good pieces any piece is too many. -/
  | tooLong (long : 6 < pieces.length) (good : ∀ piece ∈ pieces.take 6, IsPair piece) :
      Verdict pieces (.error .tooLong)
  /-- Fewer than six pieces are too few if they are all good. -/
  | tooShort (short : pieces.length < 6) (good : ∀ piece ∈ pieces, IsPair piece) :
      Verdict pieces (.error .tooShort)

/-- Six good pieces are the octets of an address. -/
theorem exists_written (six : pieces.length = 6) (good : ∀ piece ∈ pieces, IsPair piece) :
    ∃ mac : Mac, List.Forall₂ WritesOctet pieces (mac.octets.map UInt8.toNat) := by
  have read : ∀ piece ∈ pieces, WritesOctet piece (UInt8.ofNat (Text.hexValue piece)).toNat := by
    intro piece inside
    obtain ⟨value, written⟩ := good piece inside
    have same : Text.hexValue piece = value := (writesOctet_iff.mp written).2
    rwa [same, UInt8.toNat_ofNat', Nat.mod_eq_of_lt written.lt]
  match pieces, six with
  | [a, b, c, d, e, f], _ =>
    refine ⟨⟨.ofNat (Text.hexValue a), .ofNat (Text.hexValue b), .ofNat (Text.hexValue c),
      .ofNat (Text.hexValue d), .ofNat (Text.hexValue e), .ofNat (Text.hexValue f)⟩, ?_⟩
    simpa [octets] using read

/-- Good pieces are an address if they are six, and too many or too few otherwise. -/
theorem ofPieces_of_good (good : ∀ piece ∈ pieces.take 6, IsPair piece)
    (other : pieces.length ≠ 6) :
    ofPieces pieces = .error (if pieces.length < 6 then .tooShort else .tooLong) := by
  have unspoilt : (pieces.take 6).find? (! isOctet ·) = none := by
    rw [List.find?_eq_none]
    intro piece inside
    simp [isOctet_iff.mpr (good piece inside)]
  simp only [ofPieces, unspoilt]
  split
  · rename_i six
    have length := congrArg List.length six
    rw [List.length_map] at length
    exact absurd length other
  · rw [List.length_map]

/-- The verdict is what is made of the pieces. -/
theorem Verdict.eq {result : Except MacError Mac} (verdict : Verdict pieces result) :
    ofPieces pieces = result := by
  cases verdict with
  | address written =>
    refine ofPieces_of_written ((List.forall₂_map_right_iff.mp written).imp ?_)
    exact fun piece octet => writes_iff.mpr
  | @invalidOctet before behind bad whole early good isBad =>
    have found : (pieces.take 6).find? (! isOctet ·) = some bad.toList := by
      -- The bad piece is among the first six, so these are cut behind it.
      have taken : (before ++ bad.toList :: behind).take 6 =
          before ++ bad.toList :: behind.take (5 - before.length) := by
        rw [List.take_append, List.take_of_length_le (by omega),
          show 6 - before.length = 5 - before.length + 1 by omega, List.take_succ_cons]
      have spoilt : isOctet bad.toList = false := Bool.eq_false_iff.mpr (mt isOctet_iff.mp isBad)
      rw [whole, taken, List.find?_eq_some_iff_append]
      refine ⟨by simp [spoilt], before, _, rfl, fun piece inside => ?_⟩
      simp [isOctet_iff.mpr (good piece inside)]
    simp only [ofPieces, found, String.ofList_toList]
  | tooLong long good => rw [ofPieces_of_good good (by omega), if_neg (by omega)]
  | tooShort short good =>
    rw [ofPieces_of_good (fun piece inside => good piece (List.mem_of_mem_take inside)) (by omega),
      if_pos short]

/-- The first bad piece among the first six is the error. -/
theorem exists_invalidOctet (spoilt : ¬ ∀ piece ∈ pieces.take 6, IsPair piece) :
    ∃ bad, Verdict pieces (.error (.invalidOctet bad)) := by
  have some : ((pieces.take 6).find? (! isOctet ·)).isSome = true := by
    rw [List.find?_isSome]
    simpa [← isOctet_iff] using spoilt
  obtain ⟨bad, found⟩ := Option.isSome_iff_exists.mp some
  obtain ⟨isFirst, before, behind, taken, clean⟩ := List.find?_eq_some_iff_append.mp found
  have whole : pieces = before ++ (String.ofList bad).toList :: (behind ++ pieces.drop 6) := by
    rw [String.toList_ofList, ← List.cons_append, ← List.append_assoc, ← taken,
      List.take_append_drop]
  have early : before.length < 6 := by
    have length := congrArg List.length taken
    rw [List.length_take, List.length_append, List.length_cons] at length
    omega
  have isBad : ¬ IsPair (String.ofList bad).toList := by
    rw [String.toList_ofList, ← isOctet_iff]
    simpa using isFirst
  have goodBefore : ∀ piece ∈ before, IsPair piece := fun piece inside =>
    isOctet_iff.mp (by simpa using clean piece inside)
  exact ⟨_, .invalidOctet whole early goodBefore isBad⟩

/-- There is a verdict on any pieces. -/
theorem exists_verdict (pieces : List (List Char)) : ∃ result, Verdict pieces result := by
  by_cases good : ∀ piece ∈ pieces.take 6, IsPair piece
  · rcases Nat.lt_trichotomy pieces.length 6 with short | six | long
    · rw [List.take_of_length_le (by omega)] at good
      exact ⟨_, .tooShort short good⟩
    · rw [List.take_of_length_le (by omega)] at good
      obtain ⟨mac, written⟩ := exists_written six good
      exact ⟨_, .address written⟩
    · exact ⟨_, .tooLong long good⟩
  · obtain ⟨bad, verdict⟩ := exists_invalidOctet good
    exact ⟨_, verdict⟩

/-- The verdict on some pieces is what the reader makes of them and nothing else. -/
theorem ofPieces_eq_iff {result : Except MacError Mac} :
    ofPieces pieces = result ↔ Verdict pieces result := by
  constructor
  · rintro rfl
    obtain ⟨result, verdict⟩ := exists_verdict pieces
    rwa [verdict.eq]
  · exact Verdict.eq

/-- How a text is judged by its pieces. -/
structure Judged (pieces : List (List Char)) (result : Except MacError Mac) : Prop where
  /-- An address is six pieces of one or two hexadecimal digits. -/
  accepted_iff : (∃ mac, result = .ok mac) ↔ pieces.length = 6 ∧ ∀ piece ∈ pieces, IsPair piece
  /-- What is made of it is the verdict on its pieces and nothing else. -/
  verdict_iff : ∀ other, result = other ↔ Verdict pieces other

/-- Every text falls into pieces in one way, and is an address or an error by them. -/
theorem ofString_judged (text : String) :
    ∃ pieces, (∀ other, FallsInto text.toList other ↔ other = pieces) ∧
      Judged pieces (ofString text) := by
  refine ⟨cut text.toList, fun other => fallsInto_iff, ?_, fun other => ?_⟩
  · simp only [ofString_eq, ofPieces_eq_iff]
    constructor
    · rintro ⟨mac, ⟨written⟩⟩
      refine ⟨written.length_eq, fun piece inside => ?_⟩
      obtain ⟨place, bound, rfl⟩ := List.getElem_of_mem inside
      exact ⟨_, written.get bound (written.length_eq ▸ bound)⟩
    · rintro ⟨six, good⟩
      obtain ⟨mac, written⟩ := exists_written six good
      exact ⟨mac, .address written⟩
  · rw [ofString_eq]
    exact ofPieces_eq_iff

end CableMap.Mac
