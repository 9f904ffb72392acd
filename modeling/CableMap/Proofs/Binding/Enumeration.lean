import CableMap.Binding
import CableMap.Proofs.Text.Blank
import CableMap.Proofs.Text.Decimal
import CableMap.Proofs.Text.Words

/-!
# Enumerations

An integer of 64 bits is printed as it is, or in parentheses behind a label. Both are read back,
whatever blanks stand around the number and whatever stands behind the parentheses. A value that
is neither of the two is read as nothing, and so is a number that 64 bits do not hold.
-/
namespace CableMap

/-- A text writes an integer of 64 bits: it is a signed numeral, and the integer fits. -/
def Text.IsInteger (text : List Char) (n : Int) : Prop := SignedNumeral text n ∧ InSixtyFour n

/-- A value writes an integer of 64 bits as one of an enumeration. -/
inductive Enumerates : List Char → Int → Prop
  /-- The integer as it is, with blanks around it or none. -/
  | bare {lead number trail : List Char} {n : Int} (front : ∀ c ∈ lead, Text.isBlank c = true)
      (written : Text.IsInteger number n) (back : ∀ c ∈ trail, Text.isBlank c = true) :
      Enumerates (lead ++ number ++ trail) n
  /-- A label and the integer in parentheses, with blanks around it or none. The label holds no
  opening parenthesis, and what follows the closing one is no matter. -/
  | labelled {label lead number trail further : List Char} {n : Int} (label_plain : '(' ∉ label)
      (front : ∀ c ∈ lead, Text.isBlank c = true) (written : Text.IsInteger number n)
      (back : ∀ c ∈ trail, Text.isBlank c = true) :
      Enumerates (label ++ '(' :: (lead ++ number ++ trail ++ ')' :: further)) n

variable {lead number trail label further : List Char} {n : Int}

/-- Blanks around an integer are stripped, and nothing of it is. -/
theorem Text.IsInteger.trim_eq (written : Text.IsInteger number n)
    (front : ∀ c ∈ lead, Text.isBlank c = true) (back : ∀ c ∈ trail, Text.isBlank c = true) :
    Text.trim (lead ++ number ++ trail) = number := by
  have solid : ∀ c ∈ number, Text.isBlank c = false := by
    intro c inside
    rcases written.1.mem inside with digit | rfl | rfl
    · exact Text.isBlank_of_class (by decide) digit
    · decide
    · decide
  rw [Text.trim, Text.stripBoth_append lead trail (List.all_eq_true.mpr front)
    (List.all_eq_true.mpr back), Text.stripBoth_eq_self_of_solid solid]

/-- An integer is read as it is. -/
theorem enumerated?_of_bare (front : ∀ c ∈ lead, Text.isBlank c = true)
    (written : Text.IsInteger number n) (back : ∀ c ∈ trail, Text.isBlank c = true) :
    enumerated? (String.ofList (lead ++ number ++ trail)) = some n := by
  have read : Text.signed? number = some n := Text.signed?_eq_some_iff.mpr written
  rw [enumerated?, String.toList_ofList, written.trim_eq front back]
  simp only [read]

/-- Of a value with parentheses only what stands in front of them and behind them is stripped. -/
theorem trim_labelled (label inner further : List Char) :
    Text.trim (label ++ '(' :: (inner ++ ')' :: further)) =
      Text.stripStart Text.isBlank label ++
        '(' :: (inner ++ ')' :: Text.stripEnd Text.isBlank further) := by
  have opening : Text.isBlank '(' = false := by decide
  have closing : Text.isBlank ')' = false := by decide
  rw [Text.trim, Text.stripBoth, Text.stripStart_append_cons label opening,
    Text.stripEnd_append_cons _ opening, Text.stripEnd_append_cons inner closing]

/-- An integer is read from between the parentheses behind a label. -/
theorem enumerated?_of_labelled (label_plain : '(' ∉ label)
    (front : ∀ c ∈ lead, Text.isBlank c = true) (written : Text.IsInteger number n)
    (back : ∀ c ∈ trail, Text.isBlank c = true) :
    enumerated? (String.ofList (label ++ '(' :: (lead ++ number ++ trail ++ ')' :: further))) =
      some n := by
  have unread (label further : List Char) :
      Text.signed? (label ++ '(' :: (lead ++ number ++ trail ++ ')' :: further)) = none :=
    Text.signed?_eq_none (c := '(') (by simp) (by decide)
  have still_plain : '(' ∉ Text.stripStart Text.isBlank label := fun inside =>
    label_plain ((List.dropWhile_suffix _).subset inside)
  have unclosed : ')' ∉ lead ++ number ++ trail := by
    have other : ¬ Text.isBlank ')' = true := by decide
    have inNumber : ')' ∉ number := written.1.not_mem (by decide)
    simp only [List.mem_append, not_or]
    exact ⟨⟨fun inside => other (front _ inside), inNumber⟩, fun inside => other (back _ inside)⟩
  have read : Text.signed? number = some n := Text.signed?_eq_some_iff.mpr written
  rw [enumerated?, String.toList_ofList, trim_labelled]
  simp only [unread, Text.cutAt?_append still_plain, Option.bind_eq_bind, Option.bind_some,
    List.tail_cons]
  rw [Text.cutAt?_append unclosed]
  simp only [Option.bind_some, written.trim_eq front back, read]

/-- Whatever is read is written in one of the two forms. -/
theorem enumerates_of_enumerated? {value : String} (read : enumerated? value = some n) :
    Enumerates value.toList n := by
  obtain ⟨lead, trail, whole, front, back, _⟩ := Text.exists_stripBoth Text.isBlank value.toList
  rw [← Text.trim] at whole
  rw [enumerated?] at read
  cases own : Text.signed? (Text.trim value.toList) with
  | some number =>
    simp only [own] at read
    obtain rfl := Option.some.inj read
    rw [whole]
    exact .bare front (Text.signed?_eq_some_iff.mp own) back
  | none =>
    simp only [own, Option.bind_eq_bind, Option.bind_eq_some_iff] at read
    obtain ⟨⟨label, opened⟩, opening, ⟨inner, closed⟩, closing, read⟩ := read
    obtain ⟨labelled, label_plain, marked⟩ := Text.cutAt?_eq_some.mp opening
    obtain ⟨rest, rfl⟩ := List.head?_eq_some_iff.mp marked
    obtain ⟨parted, _, ended⟩ := Text.cutAt?_eq_some.mp closing
    obtain ⟨further, rfl⟩ := List.head?_eq_some_iff.mp ended
    obtain ⟨before, behind, within, clear, still, _⟩ := Text.exists_stripBoth Text.isBlank inner
    have plain : '(' ∉ lead ++ label := by
      have other : ¬ Text.isBlank '(' = true := by decide
      simp only [List.mem_append, not_or]
      exact ⟨fun inside => other (front _ inside), label_plain⟩
    have value_eq : value.toList = (lead ++ label) ++
        '(' :: (before ++ Text.trim inner ++ behind ++ ')' :: (further ++ trail)) := by
      rw [List.tail_cons] at parted
      rw [whole, labelled, parted]
      nth_rewrite 1 [within]
      simp [Text.trim]
    rw [value_eq]
    exact .labelled plain clear (Text.signed?_eq_some_iff.mp read) still

/-- An integer is read from a value exactly if the value writes it. -/
theorem enumerated?_eq_some_iff {value : String} :
    enumerated? value = some n ↔ Enumerates value.toList n := by
  refine ⟨enumerates_of_enumerated?, fun written => ?_⟩
  rw [← String.ofList_toList (s := value)]
  generalize value.toList = text at written
  cases written with
  | bare front written back => exact enumerated?_of_bare front written back
  | labelled label_plain front written back =>
    exact enumerated?_of_labelled label_plain front written back

/-- An integer is read back from both of its printed forms, and from nothing that does not write
it. -/
structure Enumerated (n : Int) : Prop where
  /-- The integer as it is, with blanks around it or none. -/
  bare : ∀ lead trail : List Char, Text.InSixtyFour n → (∀ c ∈ lead, Text.isBlank c = true) →
    (∀ c ∈ trail, Text.isBlank c = true) →
      enumerated? (String.ofList (lead ++ (toString n).toList ++ trail)) = some n
  /-- Any label without an opening parenthesis, the integer in parentheses with blanks around it or
  none, and any text behind them. -/
  labelled : ∀ label lead trail further : List Char, Text.InSixtyFour n → '(' ∉ label →
    (∀ c ∈ lead, Text.isBlank c = true) → (∀ c ∈ trail, Text.isBlank c = true) →
      enumerated? (String.ofList
        (label ++ '(' :: (lead ++ (toString n).toList ++ trail ++ ')' :: further))) = some n
  /-- Whatever is read as the integer is one of its numerals, bare or in parentheses, and the
  integer has 64 bits. -/
  only : ∀ value : String, enumerated? value = some n ↔ Enumerates value.toList n

/-- Every integer is read back from its printed forms. -/
theorem enumerations_read_back (n : Int) : Enumerated n where
  bare _ _ fits front back :=
    enumerated?_of_bare front ⟨Text.signedNumeral_toString n, fits⟩ back
  labelled _ _ _ _ fits label_plain front back :=
    enumerated?_of_labelled label_plain front ⟨Text.signedNumeral_toString n, fits⟩ back
  only _ := enumerated?_eq_some_iff

/-- The least integer of 64 bits is read, and the one below it is not. -/
example : enumerated? "low ) (\t-9223372036854775808 ) (1)" = some (-9223372036854775808) ∧
    enumerated? "low(-9223372036854775809)" = none := by
  decide +kernel

end CableMap
