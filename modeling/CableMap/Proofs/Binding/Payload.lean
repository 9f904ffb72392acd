import CableMap.Proofs.Binding.Grammar
import CableMap.Proofs.Binding.Line
import Mathlib.Data.Bool.AllAny

/-!
# What decides where a line is filed

A value is free text, chosen by whoever names the equipment. As long as it mentions no identifier
that stands in front of the line's own in the catalog, it has no say in where its line is filed: the
identifier, the row and the type are settled by what stands in front of the colon. A value that does
mention such an identifier takes the line over, and so may one behind a tag that mentions it.
-/
namespace CableMap

/-- A catalog of numeric identifiers of which no row completes one that stands in front. -/
structure Catalog.Unconfused (catalog : Catalog) : Prop extends catalog.Searchable where
  numeric : ∀ oid ∈ catalog, oid.IsNumeric
  apart : ∀ oid ∈ catalog, ∀ other ∈ catalog.before oid, Oid.Apart 3 other oid

namespace Catalog

/-- No row completes an identifier of the full catalog to one that stands in front of it. -/
theorem full_unconfused : full.Unconfused where
  toSearchable := full_searchable
  numeric := full_isNumeric
  apart := full_apart

/-- No row completes an identifier of the catalog of tables to one that stands in front of it. -/
theorem tables_unconfused : tables.Unconfused where
  toSearchable := tables_searchable
  numeric oid among := full_isNumeric oid (tables_sublist.subset among)
  apart oid among other earlier :=
    full_apart oid (tables_sublist.subset among) other (full_before_of_tables among earlier)

/-- A line that mentions an identifier belongs to one that it mentions. -/
theorem Searchable.exists_filed {catalog : Catalog} (searchable : catalog.Searchable)
    {line : List Char} {oid : Oid} (among : oid ∈ catalog) (mentioned : oid.Mentioned line) :
    ∃ first, Binding.Filed catalog line first ∧ first.Mentioned line := by
  cases found : catalog.mentions line with
  | nil => exact absurd mentioned (searchable.mentions_eq_nil.mp found oid among)
  | cons mention others =>
    obtain ⟨filed, leftmost, -⟩ := Binding.filed_of_mentions searchable found
    exact ⟨mention.1, filed, _, leftmost.occurs⟩

end Catalog

namespace Binding

variable {catalog : Catalog} {oid other : Oid} {host : Ipv4} {log : Log.Logger}

/-! ## What stands in front of the colon -/

/-- A text belongs to an identifier, and an equals sign parts what follows the identifier into an
index and a type without a colon. -/
structure Heading (catalog : Catalog) (start : List Char) (oid : Oid) (index type : List Char) :
    Prop where
  filed : Filed catalog start oid
  leftmost : oid.Leftmost start (index ++ '=' :: type)
  equals : '=' ∉ index
  colon : ':' ∉ type

/-- A heading settles everything but the value, if the value mentions no identifier that stands in
front of the one that the heading belongs to. -/
theorem Heading.value_ofLine? {start index type value : List Char}
    (heading : Heading catalog start oid index type) (unconfused : catalog.Unconfused)
    (unmentioned : ∀ other ∈ catalog.before oid, ¬ other.Mentioned value) :
    (ofLine? catalog host log (start ++ ':' :: ' ' :: value)).value =
      some (ofParts oid index ('=' :: type) (':' :: ' ' :: value)) := by
  have foreign {oid : Oid} (among : oid ∈ catalog) : ':' ∉ oid.toList :=
    (unconfused.numeric oid among).not_mem (by decide)
  have first : ∀ other ∈ catalog.before oid,
      ¬ other.Mentioned (start ++ ':' :: ' ' :: value) := by
    intro other earlier mentioned
    have among := Catalog.mem_of_mem_before earlier
    rcases (Oid.mentioned_append_cons (foreign among) (by decide)).mp mentioned with
      inStart | inValue
    · exact heading.filed.first other earlier inStart
    · exact unmentioned other earlier
        ((Oid.mentioned_cons_blank (unconfused.numeric other among).1).mp inValue)
  have among := heading.filed.among
  have gives : Gives catalog host log (start ++ ':' :: ' ' :: value)
      (some (ofParts oid index ('=' :: type) (':' :: ' ' :: value))) _ :=
    .binding ⟨among, first⟩
      (heading.leftmost.append_cons (foreign among) (by decide) (' ' :: value)) {
      whole := List.append_assoc index ('=' :: type) (':' :: ' ' :: value)
      index := heading.equals
      equals := rfl
      type := by simpa using heading.colon
      colon := rfl }
  exact congrArg Prod.fst ((gives_iff unconfused.toSearchable).mp gives)

/-! ## Lines with a plain row -/

/-- The line that a walk prints for a value of a table. -/
def tableLine (oid : Oid) (index tag value : String) : String := s!"{oid}.{index} = {tag}: {value}"

/-- A line up to the colon: an identifier with a row, and a tag. -/
def lineStart (oid : Oid) (index tag : String) : List Char :=
  oid.toList ++ '.' :: index.toList ++ [' '] ++ '=' :: ' ' :: tag.toList

section Started

variable {index tag : String}

/-- The line of a table is its start, a colon and a space, and the value. -/
theorem tableLine_eq (oid : Oid) (index tag value : String) : tableLine oid index tag value =
    String.ofList (lineStart oid index tag ++ ':' :: ' ' :: value.toList) := by
  rw [← String.toList_inj]
  simp [tableLine, lineStart, toString]

/-- A row with the dot in front has at most three dots. -/
theorem PlainRow.count_cons {row : List Char} (plain : PlainRow row) :
    ('.' :: row).count '.' ≤ 3 := by
  rw [List.count_cons_self]
  exact Nat.succ_le_succ plain.few

/-- The start of a line mentions its own identifier at its head. -/
theorem leftmost_lineStart (oid : Oid) (index tag : String) :
    oid.Leftmost (lineStart oid index tag)
      ('.' :: index.toList ++ [' '] ++ '=' :: ' ' :: tag.toList) := by
  have whole : lineStart oid index tag =
      oid.toList ++ ('.' :: index.toList ++ [' '] ++ '=' :: ' ' :: tag.toList) := by
    simp [lineStart]
  rw [whole]
  exact Oid.leftmost_of_begins rfl

/-- Of the identifiers in front of its own the start of a line mentions those that its tag does. -/
theorem mentioned_lineStart (apart : Oid.Apart 3 other oid) (numeric : other.IsNumeric)
    (row : PlainRow index.toList) :
    other.Mentioned (lineStart oid index tag) ↔ other.Mentioned tag.toList := by
  unfold lineStart
  rw [Oid.mentioned_append_cons (numeric.not_mem (by decide)) (by decide),
    Oid.mentioned_cons_blank numeric.1]
  exact or_iff_right (apart.unmentioned numeric row.count_cons)

/-- What a tag mentions, and neither identifier nor row, is mentioned by the start of the line at
the same place. -/
theorem leftmost_lineStart_of_tag (apart : Oid.Apart 3 other oid) (numeric : other.IsNumeric)
    (row : PlainRow index.toList) {rest : List Char} (leftmost : other.Leftmost tag.toList rest) :
    other.Leftmost (lineStart oid index tag) rest :=
  (leftmost.cons_blank numeric.1).behind_mark (numeric.not_mem (by decide)) (by decide)
    (apart.unmentioned numeric row.count_cons)

/-- The start of a line that belongs to its own identifier is a heading of that. -/
theorem heading_own (row : PlainRow index.toList) (colon : ':' ∉ tag.toList)
    (filed : Filed catalog (lineStart oid index tag) oid) :
    Heading catalog (lineStart oid index tag) oid ('.' :: index.toList ++ [' '])
      (' ' :: tag.toList) where
  filed := filed
  leftmost := leftmost_lineStart oid index tag
  equals := by
    have plain : '=' ∉ index.toList := row.not_mem (by decide)
    simpa using plain
  colon := by simpa using colon

/-- The start of a line that belongs to an identifier in front of its own is a heading of that if an
equals sign stands behind the mention in the tag. -/
theorem exists_heading_of_tag (unconfused : catalog.Unconfused) (among : oid ∈ catalog)
    (row : PlainRow index.toList) (colon : ':' ∉ tag.toList) (earlier : other ∈ catalog.before oid)
    (filed : Filed catalog (lineStart oid index tag) other) (mentioned : other.Mentioned tag.toList)
    (equals : ∀ rest, Filed catalog tag.toList other → other.Leftmost tag.toList rest →
      '=' ∈ rest) :
    ∃ before type, Heading catalog (lineStart oid index tag) other before type := by
  have filedInTag : Filed catalog tag.toList other := by
    refine ⟨filed.among, fun first inFront inTag => filed.first first inFront ?_⟩
    have numeric := unconfused.numeric first (Catalog.mem_of_mem_before inFront)
    have apart := unconfused.apart oid among first (Catalog.before_trans inFront earlier)
    exact (mentioned_lineStart apart numeric row).mpr inTag
  obtain ⟨rest, leftmost⟩ := (unconfused.unhidden other filed.among).exists_leftmost
    (unconfused.named other filed.among) mentioned
  obtain ⟨before, type, rfl, absent⟩ :=
    List.eq_append_cons_of_mem (equals _ filedInTag leftmost)
  have within := ((List.suffix_append _ _).trans leftmost.occurs.stands).subset
  exact ⟨before, type, {
    filed := filed
    leftmost := leftmost_lineStart_of_tag (unconfused.apart oid among other earlier)
      (unconfused.numeric other filed.among) row leftmost
    equals := absent
    colon := fun inside => colon (within (by simp [inside])) }⟩

/-- The start of a line is a heading of its own identifier, or of one in front of that in the
catalog that the tag mentions. -/
theorem exists_heading (unconfused : catalog.Unconfused) (among : oid ∈ catalog)
    (row : PlainRow index.toList) (colon : ':' ∉ tag.toList)
    (equals : ∀ other ∈ catalog.before oid, ∀ rest,
      Filed catalog tag.toList other → other.Leftmost tag.toList rest → '=' ∈ rest) :
    ∃ first before type, Heading catalog (lineStart oid index tag) first before type ∧
      (first = oid ∧ before = '.' :: index.toList ++ [' '] ∧ type = ' ' :: tag.toList ∨
        first ∈ catalog.before oid ∧ first.Mentioned tag.toList) := by
  have own : oid.Mentioned (lineStart oid index tag) := ⟨_, (leftmost_lineStart _ _ _).occurs⟩
  obtain ⟨first, filed, mentioned⟩ := unconfused.exists_filed among own
  by_cases same : first = oid
  · subst same
    exact ⟨first, _, _, heading_own row colon filed, .inl ⟨rfl, rfl, rfl⟩⟩
  · have earlier : first ∈ catalog.before oid :=
      (Catalog.mem_before_or filed.among among same).resolve_right fun behind =>
        filed.first oid behind own
    have inTag := (mentioned_lineStart (unconfused.apart oid among first earlier)
      (unconfused.numeric first filed.among) row).mp mentioned
    obtain ⟨before, type, heading⟩ := exists_heading_of_tag unconfused among row colon earlier filed
      inTag (equals first earlier)
    exact ⟨first, before, type, heading, .inr ⟨earlier, inTag⟩⟩

/-! ## Values that have no say -/

/-- The binding of an own heading. -/
theorem ofParts_own (row : PlainRow index.toList) (value : List Char) :
    ofParts oid ('.' :: index.toList ++ [' ']) ('=' :: ' ' :: tag.toList) value =
      ⟨oid, index, .ofTag (String.ofList (Text.stripBoth isTypeMark tag.toList)),
        String.ofList (Text.stripBoth isMark value)⟩ := by
  have stripped : Text.stripBoth isRowMark ('.' :: index.toList ++ [' ']) = index.toList :=
    (Text.stripBoth_append ['.'] [' '] (by decide) (by decide) _).trans row.bare.stripBoth_eq
  have typed : Text.stripBoth isTypeMark (['=', ' '] ++ tag.toList ++ []) = _ :=
    Text.stripBoth_append _ _ (by decide) (by simp) _
  rw [List.append_nil] at typed
  exact congrArg₂ (fun index type => (⟨oid, index, .ofTag type, _⟩ : Binding))
    ((congrArg String.ofList stripped).trans String.ofList_toList) (congrArg String.ofList typed)

/-- A text without a newline is one line. -/
theorem readAll_line {line : List Char} (some : line ≠ []) (whole : '\n' ∉ line) :
    (readAll catalog host log (String.ofList line)).value =
      (ofLine? catalog host log line).value.toList := by
  have one : Text.lines line = [line] := by
    simp [Text.lines, Text.linesOf, List.splitOn_eq_singleton whole, some]
  rw [value_readAll_eq, String.toList_ofList, one, List.filterMap_cons]
  cases (ofLine? catalog host log line).value <;> rfl

/-- The row and the tag of a line settle its identifier, its row and its type for all values that
mention no identifier in front of its own in the catalog. They are its own unless the tag mentions
such an identifier. -/
theorem heading_settles_all_but_value (known : catalog = .full ∨ catalog = .tables)
    (among : oid ∈ catalog) (row : PlainRow index.toList) (oneLine : '\n' ∉ tag.toList)
    (colon : ':' ∉ tag.toList)
    (equals : ∀ other ∈ catalog.before oid, ∀ rest,
      Filed catalog tag.toList other → other.Leftmost tag.toList rest → '=' ∈ rest)
    (host : Ipv4) (log : Log.Logger) :
    ∃ heading : Binding,
      ((∀ other ∈ catalog.before oid, ¬ other.Mentioned tag.toList) → heading =
        ⟨oid, index, .ofTag (String.ofList (Text.stripBoth isTypeMark tag.toList)), ""⟩) ∧
      ∀ value : String, '\n' ∉ value.toList →
        (∀ other ∈ catalog.before oid, ¬ other.Mentioned value.toList) →
        (readAll catalog host log (tableLine oid index tag value)).value =
          [{ heading with value := String.ofList (Text.stripBoth isMark value.toList) }] := by
  have unconfused : catalog.Unconfused := by
    rcases known with rfl | rfl
    · exact Catalog.full_unconfused
    · exact Catalog.tables_unconfused
  obtain ⟨first, before, type, heading, which⟩ := exists_heading unconfused among row colon equals
  refine ⟨ofParts first before ('=' :: type) [], fun unmentioned => ?_,
    fun value whole silent => ?_⟩
  · rcases which with ⟨rfl, rfl, rfl⟩ | ⟨earlier, mentioned⟩
    · exact ofParts_own row []
    · exact absurd mentioned (unmentioned first earlier)
  · have solid : '\n' ∉ lineStart oid index tag ++ ':' :: ' ' :: value.toList := by
      have inOid : '\n' ∉ oid.toList := (unconfused.numeric oid among).not_mem (by decide)
      have inIndex : '\n' ∉ index.toList := row.not_mem (by decide)
      simp [lineStart, inOid, inIndex, oneLine, whole]
    have quiet : ∀ other ∈ catalog.before first, ¬ other.Mentioned value.toList := by
      rcases which with ⟨rfl, -, -⟩ | ⟨earlier, -⟩
      · exact silent
      · exact fun other inFront => silent other (Catalog.before_trans inFront earlier)
    have valued : Text.stripBoth isMark ([':', ' '] ++ value.toList ++ []) = _ :=
      Text.stripBoth_append _ _ (by decide) (by simp) _
    rw [List.append_nil] at valued
    rw [tableLine_eq, readAll_line (by simp) solid, heading.value_ofLine? unconfused quiet]
    exact congrArg (fun text => [{ ofParts first before ('=' :: type) [] with
      value := String.ofList text }]) valued

/-- A name that looks like a line of an identifier that stands behind stays a name. -/
theorem misleadingName_stays_value :
    (readAll .full ⟨10, 0, 0, 1⟩ .root (tableLine Oid.interfaceName "5" "STRING"
      "to .1.0.8802.1.1.2.1.4.1.1.9.1 = STRING: x")).value =
        [⟨Oid.interfaceName, "5", .string, "to .1.0.8802.1.1.2.1.4.1.1.9.1 = STRING: x"⟩] := by
  have row : PlainRow "5".toList :=
    ⟨List.all_iff_forall_prop.mp (by decide), by decide, by decide, by decide⟩
  have among : Oid.interfaceName ∈ Catalog.full := by decide +kernel
  have tag : '\n' ∉ "STRING".toList ∧ ':' ∉ "STRING".toList := by decide +kernel
  have untagged : ∀ other ∈ Catalog.full.before Oid.interfaceName,
      ¬ other.Mentioned "STRING".toList := by decide +kernel
  obtain ⟨heading, own, read⟩ := heading_settles_all_but_value (.inl rfl) among row tag.1 tag.2
    (fun other earlier rest _ leftmost => absurd ⟨rest, leftmost.occurs⟩ (untagged other earlier))
    ⟨10, 0, 0, 1⟩ .root
  rw [read _ (by decide +kernel) (by decide +kernel), own untagged]
  decide +kernel

/-! ## Values that take a line over -/

/-- A line whose value mentions an identifier in front of its own in the catalog is not filed under
its own. -/
theorem oid_ne_of_mentioned (searchable : catalog.Searchable) (earlier : other ∈ catalog.before oid)
    {value : String} (mentioned : other.Mentioned value.toList) :
    ∀ binding ∈ (ofLine? catalog host log (tableLine oid index tag value).toList).value,
      binding.oid ≠ oid := by
  rintro binding read rfl
  have inLine : other.Mentioned (tableLine binding.oid index tag value).toList := by
    obtain ⟨rest, stands, complete⟩ := mentioned
    rw [tableLine_eq, String.toList_ofList]
    refine ⟨rest, stands.trans ?_, complete⟩
    exact (List.suffix_append [':', ' '] _).trans (List.suffix_append _ _)
  obtain ⟨_, gives⟩ : ∃ warnings, Gives catalog host log
      (tableLine binding.oid index tag value).toList (some binding) warnings :=
    ⟨_, (gives_iff searchable).mpr (Prod.ext read rfl)⟩
  generalize (tableLine binding.oid index tag value).toList = line at gives inLine
  cases gives with
  | binding filed _ _ => exact filed.first other earlier inLine

/-- The bindings of the line of an interface's name. -/
def readName (tag value : String) : List Binding :=
  (readAll .full ⟨10, 0, 0, 1⟩ .root (tableLine Oid.interfaceName "5" tag value)).value

/-- A name that mentions an identifier of the system is filed as the system's. A tag that does so
leaves the row to the value, and one that breaks the line leaves all of it. -/
theorem values_decide_filing :
    (readName "STRING" "up" = [⟨Oid.interfaceName, "5", .string, "up"⟩] ∧
      readName "STRING" "see .1.0.8802.1.1.2.1.3.3 = STRING: core" =
        [⟨Oid.localSystemName, "", .string, "core"⟩]) ∧
    (readName "see .1.0.8802.1.1.2.1.3.3.0" "a=b: c" =
        [⟨Oid.localSystemName, "0: a", .other "b", "c"⟩] ∧
      readName "see .1.0.8802.1.1.2.1.3.3.0" "d=b: c" =
        [⟨Oid.localSystemName, "0: d", .other "b", "c"⟩]) ∧
    (readName "a\nb" ".1.3.6.1.2.1.31.1.1.1.1.7 = STRING: x" =
        [⟨Oid.interfaceName, "7", .string, "x"⟩] ∧
      readName "a\nb" ".1.3.6.1.2.1.31.1.1.1.1.8 = STRING: x" =
        [⟨Oid.interfaceName, "8", .string, "x"⟩]) := by
  decide +kernel

end Started

end Binding

end CableMap
