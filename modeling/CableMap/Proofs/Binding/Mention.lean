import CableMap.Binding.Reader
import CableMap.Proofs.Text.Blank
import Mathlib.Data.List.Infix
import Mathlib.Data.List.TakeWhile

/-!
# Where a line mentions an identifier

A line that begins with an identifier of the catalog mentions it there. It could mention another
one too: inside the identifier and the row together, or in the value. The first cannot happen,
because no two identifiers of the catalog overlap in such a way that the row could complete the
other. In a value it takes a dot, which only names have.
-/
namespace CableMap

namespace Oid

variable {oid : List Char}

/-- A text that begins with an identifier mentions it there, if the identifier is complete. -/
theorem mention?_self {oid : Oid} {rest : List Char} (named : oid.toList ≠ [])
    (complete : isComplete rest = true) : oid.mention? (oid.toList ++ rest) = some rest := by
  have found : Text.afterStart? oid.toList (oid.toList ++ rest) = some rest :=
    Text.afterStart?_eq_some.mpr rfl
  revert found
  unfold mention?
  obtain ⟨c, tail, whole⟩ := List.exists_cons_of_ne_nil named
  rw [whole]
  intro found
  rw [List.cons_append] at found ⊢
  rw [mentionFrom, found]
  exact if_pos complete

/-- What stands before the first place where an identifier may begin makes no difference. -/
theorem mentionFrom_append {head rest : List Char}
    (absent : ∀ part, part ≠ [] → part <:+ head → ¬ oid <+: part ++ rest) :
    mentionFrom oid 0 (head ++ rest) = mentionFrom oid 0 rest := by
  induction head with
  | nil => rfl
  | cons c head ih =>
    have here : Text.afterStart? oid (c :: (head ++ rest)) = none :=
      Text.afterStart?_eq_none.mpr (absent (c :: head) (by simp) (List.suffix_refl _))
    rw [List.cons_append, mentionFrom, here]
    exact ih fun part some within => absent part some (within.trans (List.suffix_cons c head))

/-- Text without dots makes no difference. -/
theorem mentionFrom_append_of_not_mem {head rest : List Char} (dotted : oid.head? = some '.')
    (absent : '.' ∉ head) : mentionFrom oid 0 (head ++ rest) = mentionFrom oid 0 rest := by
  refine mentionFrom_append fun part some within begins => absent ?_
  obtain ⟨c, part, rfl⟩ := List.exists_cons_of_ne_nil some
  obtain ⟨tail, rfl⟩ : ∃ tail, oid = '.' :: tail := by
    cases oid with
    | nil => simp at dotted
    | cons first tail => exact ⟨tail, by simpa using dotted⟩
  rw [List.cons_append, List.cons_prefix_cons] at begins
  exact within.subset (begins.1 ▸ List.mem_cons_self)

/-- A mark that no identifier holds cuts a text in two: what is mentioned is mentioned in front of
the mark or behind it. -/
theorem mentionFrom_append_cons {mark : Char} (foreign : mark ∉ oid)
    (closed : mark ≠ '.' ∧ mark ≠ ' ') {skip : Nat} {text : List Char} (within : skip ≤ text.length)
    (behind : List Char) : mentionFrom oid skip (text ++ mark :: behind) =
      ((mentionFrom oid skip text).map (· ++ mark :: behind)).or (mentionFrom oid 0 behind) := by
  have complete (rest : List Char) : isComplete (rest ++ mark :: behind) = isComplete rest := by
    cases rest with
    | nil => simp [isComplete, closed]
    | cons c rest => rfl
  have begins (text : List Char) : Text.afterStart? oid (text ++ mark :: behind) =
      (Text.afterStart? oid text).map (· ++ mark :: behind) := by
    cases found : Text.afterStart? oid text with
    | some rest =>
      refine Text.afterStart?_eq_some.mpr ?_
      rw [Text.afterStart?_eq_some.mp found, List.append_assoc]
    | none =>
      refine Text.afterStart?_eq_none.mpr fun longer => ?_
      have short := Text.afterStart?_eq_none.mp found
      rcases List.prefix_or_prefix_of_prefix longer (List.prefix_append text _) with
        inside | ⟨left, whole⟩
      · exact short inside
      · rw [← whole, List.prefix_append_right_inj] at longer
        cases left with
        | nil => exact short (by rw [← whole, List.append_nil])
        | cons c left =>
          rw [List.cons_prefix_cons] at longer
          exact foreign (by rw [← whole, longer.1]; simp)
  induction text generalizing skip with
  | nil =>
    obtain rfl : skip = 0 := Nat.le_zero.mp within
    have alone := begins []
    have nothing : mentionFrom oid 0 [] = none := rfl
    rw [List.nil_append] at alone ⊢
    rw [nothing, mentionFrom, alone]
    cases found : Text.afterStart? oid [] with
    | none => rfl
    | some rest =>
      obtain ⟨empty, rfl⟩ := List.append_eq_nil_iff.mp (Text.afterStart?_eq_some.mp found).symm
      simp [isComplete, closed, empty]
  | cons c text ih =>
    cases skip with
    | succ skip => exact ih (Nat.le_of_succ_le_succ within)
    | zero =>
      have here := begins (c :: text)
      rw [List.cons_append] at here ⊢
      rw [mentionFrom, mentionFrom, here]
      cases found : Text.afterStart? oid (c :: text) with
      | none => exact ih (Nat.zero_le _)
      | some rest =>
        -- The occurrence ends in front of the mark, so looking on from its end is within the text.
        have whole := congrArg List.length (Text.afterStart?_eq_some.mp found)
        rw [List.length_append, List.length_cons] at whole
        simp only [Option.map_some, complete]
        split
        · rfl
        · exact ih (by omega)

/-! ## Identifiers that do not overlap -/

/-- An identifier in numeric form has a dot in front and only digits and dots. -/
def IsNumeric (oid : Oid) : Prop :=
  oid.toList.head? = some '.' ∧ ∀ c ∈ oid.toList, c = '.' ∨ c.isDigit = true

instance (oid : Oid) : Decidable oid.IsNumeric :=
  decidable_of_iff (oid.toList.head? = some '.' ∧ oid.toList.all fun c => c = '.' || c.isDigit)
    (by simp [IsNumeric])

/-- An identifier that begins inside another or behind it, followed by a row, does not end before
it has passed more dots of the row than the row may have. -/
def Apart (dots : Nat) (other oid : Oid) : Prop :=
  ∀ tail ∈ oid.toList.tails, ¬ other.toList <+: tail ∧
    (tail <+: other.toList → dots < (other.toList.drop tail.length).count '.')

instance (dots : Nat) (other oid : Oid) : Decidable (Apart dots other oid) :=
  inferInstanceAs (Decidable (∀ tail ∈ oid.toList.tails, _))

/-- A character that no number has is none of an identifier's. -/
theorem IsNumeric.not_mem {oid : Oid} (numeric : oid.IsNumeric) {mark : Char}
    (foreign : mark ≠ '.' ∧ mark.isDigit = false) : mark ∉ oid.toList := by
  intro inside
  rcases numeric.2 mark inside with dot | digit
  · exact foreign.1 dot
  · rw [foreign.2] at digit
    exact Bool.noConfusion digit

/-- An identifier apart from another does not begin where that one and its row stand. -/
theorem Apart.not_begun {dots : Nat} {other oid : Oid} (apart : Apart dots other oid)
    (numeric : other.IsNumeric) {row : List Char} (few : row.count '.' ≤ dots)
    {part rest : List Char} (within : part <:+ oid.toList ++ row) :
    ¬ other.toList <+: part ++ ' ' :: rest := by
  intro begins
  -- What stands from the place on is the end of the identifier and the end of the row.
  obtain ⟨tail, more, atEnd, ofRow, rfl⟩ : ∃ tail more, tail <:+ oid.toList ∧ more <:+ row ∧
      part = tail ++ more := by
    rcases List.suffix_or_suffix_of_suffix within (List.suffix_append _ row) with
      inRow | ⟨tail, rfl⟩
    · exact ⟨[], part, List.nil_suffix, inRow, rfl⟩
    · obtain ⟨before, whole⟩ := within
      rw [← List.append_assoc] at whole
      exact ⟨tail, row, ⟨before, List.append_cancel_right whole⟩, List.suffix_refl row, rfl⟩
  obtain ⟨longer, dotted⟩ := apart tail ((List.mem_tails _ _).mpr atEnd)
  rw [List.append_assoc] at begins
  have starts : tail <+: other.toList :=
    (List.prefix_or_prefix_of_prefix begins (List.prefix_append tail _)).resolve_left longer
  obtain ⟨left, whole⟩ := starts
  rw [← whole, List.prefix_append_right_inj] at begins
  have blank : ' ' ∉ left := fun found =>
    numeric.not_mem (by decide) (whole ▸ List.mem_append_right tail found)
  have inRow : left <+: more := by
    rcases List.prefix_or_prefix_of_prefix begins (List.prefix_append more _) with
      short | ⟨extra, long⟩
    · exact short
    · rw [← long, List.prefix_append_right_inj] at begins
      cases extra with
      | nil => exact ⟨[], by simpa using long.symm⟩
      | cons c extra =>
        rw [List.cons_prefix_cons] at begins
        exact absurd (long ▸ by simp [begins.1]) blank
  have more := dotted ⟨left, whole⟩
  rw [← whole, List.drop_left] at more
  have fewer := inRow.sublist.count_le '.'
  have fewest := ofRow.sublist.count_le '.'
  omega

end Oid

namespace Catalog

/-- Every identifier of the catalog is in numeric form. -/
theorem full_isNumeric : ∀ oid ∈ full, oid.IsNumeric := by
  decide +kernel

/-- No identifier stands twice in the full catalog. -/
theorem full_nodup : full.Nodup := by
  decide +kernel

/-- The tables are part of the full catalog, in the same order. -/
theorem tables_sublist : tables.Sublist full :=
  (List.sublist_append_right system interfaces).append_right neighbours

/-- No identifier stands twice in the catalog of tables. -/
theorem tables_nodup : tables.Nodup := full_nodup.sublist tables_sublist

/-- The identifiers that stand before one in a catalog. -/
def before (catalog : Catalog) (oid : Oid) : Catalog := catalog.takeWhile (· ≠ oid)

/-- The identifiers that observations are made of. -/
def observed : Catalog :=
  [Oid.localSystemName, Oid.localCapabilitiesSupported, Oid.localCapabilitiesEnabled,
    Oid.interfaceIndex, Oid.interfaceSpeed, Oid.interfaceMac, Oid.interfaceStatus,
    Oid.interfaceName, Oid.remoteChassisSubtype, Oid.remoteChassis]

/-- All that an observation is made of is walked. -/
theorem observed_subset : ∀ oid ∈ observed, oid ∈ full := by
  decide +kernel

/-- An identifier that stands before another in the catalog is apart from it by more than the three
dots that a row has at most. -/
theorem full_apart : ∀ oid ∈ full, ∀ other ∈ full.before oid, Oid.Apart 3 other oid := by
  decide +kernel

/-- No row of up to three numbers makes an identifier of an observation one that stands before it.
-/
theorem observed_apart : ∀ oid ∈ observed, ∀ other ∈ full.before oid, Oid.Apart 3 other oid :=
  fun oid inside => full_apart oid (observed_subset oid inside)

/-- What stands before an identifier among the tables does so in the whole catalog. -/
theorem full_before_of_tables {oid other : Oid} (among : oid ∈ tables)
    (earlier : other ∈ tables.before oid) : other ∈ full.before oid := by
  have whole : full = system ++ tables := List.append_assoc _ _ _
  have apart : ∀ head ∈ system, decide (head ≠ oid) = true := fun head inside =>
    decide_eq_true ((List.nodup_append.mp (whole ▸ full_nodup)).2.2 head inside oid among)
  rw [whole, before, List.takeWhile_append_of_pos apart]
  exact List.mem_append_right _ earlier

/-- What stands before an identifier in a catalog is in the catalog. -/
theorem mem_of_mem_before {catalog : Catalog} {oid other : Oid}
    (earlier : other ∈ catalog.before oid) : other ∈ catalog :=
  List.takeWhile_subset _ earlier

/-- What stands before an identifier that stands before another does so too. -/
theorem before_trans {catalog : Catalog} {first second third : Oid}
    (left : first ∈ catalog.before second) (right : second ∈ catalog.before third) :
    first ∈ catalog.before third := by
  induction catalog with
  | nil => simp [before] at right
  | cons head catalog ih =>
    unfold before at left right ⊢
    by_cases isThird : head = third
    · simp [isThird] at right
    · by_cases isSecond : head = second
      · simp [isSecond] at left
      · simp only [List.takeWhile_cons, ne_eq, isThird, isSecond, not_false_eq_true, decide_true,
          if_true, List.mem_cons, Ne.symm isSecond, false_or] at left right ⊢
        exact left.imp_right fun left => ih left right

/-- Of two identifiers of a catalog one stands before the other. -/
theorem mem_before_or {catalog : Catalog} {oid other : Oid} (among : oid ∈ catalog)
    (otherAmong : other ∈ catalog) (apart : oid ≠ other) :
    oid ∈ catalog.before other ∨ other ∈ catalog.before oid := by
  induction catalog with
  | nil => simp at among
  | cons head catalog ih =>
    by_cases isOid : head = oid
    · exact .inl (by simp [before, isOid, apart])
    · by_cases isOther : head = other
      · exact .inr (by simp [before, isOther, Ne.symm apart])
      · have rest := ih ((List.mem_cons.mp among).resolve_left (Ne.symm isOid))
          ((List.mem_cons.mp otherAmong).resolve_left (Ne.symm isOther))
        simpa [before, isOid, isOther, apart, Ne.symm apart, Ne.symm isOid, Ne.symm isOther]
          using rest

/-- A line belongs to an identifier that it mentions if it mentions none that stands before. -/
theorem mentions_eq {catalog : Catalog} {oid : Oid} {line rest : List Char}
    (among : oid ∈ catalog) (found : oid.mention? line = some rest)
    (unmentioned : ∀ other ∈ catalog.before oid, other.mention? line = none) :
    ∃ others, catalog.mentions line = (oid, rest) :: others := by
  induction catalog with
  | nil => simp at among
  | cons head catalog ih =>
    by_cases same : head = oid
    · subst same
      exact ⟨mentions catalog line, by simp [mentions, found]⟩
    · have here : head.mention? line = none := unmentioned head (by simp [before, same])
      have later : ∀ other ∈ before catalog oid, other.mention? line = none := by
        intro other earlier
        have passed : before (head :: catalog) oid = head :: before catalog oid := by
          simp [before, same]
        exact unmentioned other (passed ▸ List.mem_cons_of_mem head earlier)
      obtain ⟨others, first⟩ := ih ((List.mem_cons.mp among).resolve_left (Ne.symm same)) later
      refine ⟨others, ?_⟩
      rw [← first, mentions, List.filterMap_cons, here]
      rfl

end Catalog

end CableMap
