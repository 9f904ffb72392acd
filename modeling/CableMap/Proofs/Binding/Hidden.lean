import CableMap.Proofs.Binding.Occurrence

/-!
# Which identifiers hide their own mentions

The reader looks for one occurrence of an identifier behind the end of the other. An identifier that
ends as it begins, but for its last component breaking off, may overlap itself so that the second of
two occurrences is complete and the first is not: the reader passes the second by. It finds every
mention of an identifier that does not break off in this way, and of no other identifier does it find
every one. Whatever it finds is a mention.
-/
namespace CableMap.Oid

variable {oid : Oid} {text rest : List Char} {component : List Char}
  {components : List (List Char)}

/-! ## Identifiers by their components -/

/-- A component of an identifier is written with one or more decimal digits. -/
def IsComponent (component : List Char) : Prop :=
  component ≠ [] ∧ ∀ c ∈ component, c.isDigit = true

instance (component : List Char) : Decidable (IsComponent component) :=
  decidable_of_iff (component ≠ [] ∧ component.all Char.isDigit = true) <| by
    simp only [IsComponent, List.all_eq_true]

/-- Components as they are written: a dot in front of each. -/
def written (components : List (List Char)) : List Char :=
  components.flatMap fun component => '.' :: component

/-- An identifier is made of one or more components. -/
structure IsMadeOf (oid : Oid) (components : List (List Char)) : Prop where
  nonempty : components ≠ []
  digits : ∀ component ∈ components, IsComponent component
  written_eq : oid.toList = written components

/-- The components end as they begin, but the last of them breaks off: where they begin, more digits
follow. -/
def BreaksOff (components : List (List Char)) : Prop :=
  ∃ shared last more, more ≠ [] ∧ shared ++ [last ++ more] <+: components ∧
    shared ++ [last] <:+ components

/-- The first component is written in front of the others. -/
theorem written_cons (component : List Char) (components : List (List Char)) :
    written (component :: components) = '.' :: (component ++ written components) :=
  List.flatMap_cons

/-- Components are written one list behind the other. -/
theorem written_append (left right : List (List Char)) :
    written (left ++ right) = written left ++ written right :=
  List.flatMap_append

/-- Behind the digits of a component comes a dot, or nothing. -/
theorem takeWhile_digits (digits : ∀ c ∈ component, c.isDigit = true)
    (components : List (List Char)) :
    (component ++ written components).takeWhile Char.isDigit = component := by
  have stops : (written components).takeWhile Char.isDigit = [] := by
    cases components with
    | nil => rfl
    | cons next components =>
      rw [written_cons]
      exact List.takeWhile_cons_of_neg (by decide)
  rw [List.takeWhile_append_of_pos digits, stops, List.append_nil]

/-- What ends an identifier and begins with a dot ends it by whole components. -/
theorem exists_components_of_suffix {tail : List Char}
    (digits : ∀ component ∈ components, IsComponent component) (dotted : tail.head? = some '.')
    (atEnd : tail <:+ written components) :
    ∃ own, own <:+ components ∧ tail = written own := by
  induction components with
  | nil =>
    have empty : tail = [] := List.suffix_nil.mp atEnd
    rw [empty] at dotted
    cases dotted
  | cons component components ih =>
    have ⟨isComponent, others⟩ := List.forall_mem_cons.mp digits
    rw [written_cons] at atEnd
    rcases List.suffix_cons_iff.mp atEnd with whole | inside
    · exact ⟨component :: components, List.suffix_refl _, whole.trans (written_cons _ _).symm⟩
    · have behind : tail <:+ written components := by
        rcases List.suffix_or_suffix_of_suffix inside (List.suffix_append _ _) with
          behind | ⟨part, whole⟩
        · exact behind
        · -- No component has a dot, so nothing of this one is taken.
          cases part with
          | nil => exact ⟨[], whole.symm⟩
          | cons c part =>
            rw [← whole] at dotted
            obtain rfl : c = '.' := Option.some.inj dotted
            rw [← whole, List.suffix_append_self_iff] at inside
            exact absurd (isComponent.2 '.' (inside.subset List.mem_cons_self)) (by decide)
      obtain ⟨own, ofComponents, same⟩ := ih others behind
      exact ⟨own, ofComponents.trans (List.suffix_cons _ _), same⟩

/-- The first component of what is written is what stands in front of the next dot. -/
theorem first_component {other behind : List Char} (isComponent : IsComponent component)
    (isOther : IsComponent other) (stops : behind.takeWhile Char.isDigit = [])
    (same : component ++ written components = other ++ behind) :
    component = other ∧ written components = behind := by
  have front : component = other := by
    have taken := congrArg (List.takeWhile Char.isDigit) same
    rwa [takeWhile_digits isComponent.2, List.takeWhile_append_of_pos isOther.2, stops,
      List.append_nil] at taken
  subst front
  exact ⟨rfl, List.append_cancel_left same⟩

/-- Components that are written at the beginning of an identifier begin it, but for the last of them
breaking off. -/
theorem exists_more_of_prefix {shared : List (List Char)} {last : List Char}
    (digits : ∀ component ∈ components, IsComponent component)
    (own : ∀ component ∈ shared ++ [last], IsComponent component)
    (begins : written (shared ++ [last]) <+: written components) :
    ∃ more others, components = shared ++ (last ++ more) :: others := by
  induction shared generalizing components with
  | nil =>
    obtain ⟨behind, whole⟩ := begins
    cases components with
    | nil => cases whole
    | cons component components =>
      have isComponent := digits component List.mem_cons_self
      have isLast := own last (List.mem_singleton_self _)
      have same : component ++ written components = last ++ behind := by
        rw [written_cons] at whole
        simpa [written] using (List.cons.inj whole).2.symm
      have taken := congrArg (List.takeWhile Char.isDigit) same
      rw [takeWhile_digits isComponent.2, List.takeWhile_append_of_pos isLast.2] at taken
      exact ⟨_, components, congrArg (· :: components) taken⟩
  | cons first shared ih =>
    obtain ⟨behind, whole⟩ := begins
    cases components with
    | nil => cases whole
    | cons component components =>
      have ⟨isComponent, others⟩ := List.forall_mem_cons.mp digits
      have ⟨isFirst, ownOthers⟩ := List.forall_mem_cons.mp own
      have same : component ++ written components =
          first ++ (written (shared ++ [last]) ++ behind) := by
        rw [List.cons_append, written_cons, written_cons, List.cons_append, List.append_assoc]
          at whole
        exact (List.cons.inj whole).2.symm
      have stops : (written (shared ++ [last]) ++ behind).takeWhile Char.isDigit = [] := by
        cases shared with
        | nil => exact List.takeWhile_cons_of_neg (by decide)
        | cons next shared => exact List.takeWhile_cons_of_neg (by decide)
      obtain ⟨rfl, left⟩ := first_component isComponent isFirst stops same
      obtain ⟨more, behind, rfl⟩ := ih others ownOthers ⟨behind, left.symm⟩
      exact ⟨more, behind, rfl⟩

/-- An identifier is complete wherever it overlaps itself exactly if its components do not break
off. -/
theorem IsMadeOf.unhidden_iff (made : oid.IsMadeOf components) :
    oid.Unhidden ↔ ¬ BreaksOff components := by
  constructor
  · rintro unhidden ⟨shared, last, more, some, ⟨others, begins⟩, ⟨front, ends⟩⟩
    have name : oid.toList = written (shared ++ [last]) ++ (more ++ written others) := by
      rw [made.written_eq, ← begins]
      simp [written]
    have atEnd : written (shared ++ [last]) <:+ oid.toList :=
      ⟨written front, by rw [made.written_eq, ← ends, ← written_append]⟩
    have dotted : written (shared ++ [last]) ≠ [] := by simp [written]
    have proper : written (shared ++ [last]) ≠ oid.toList := by
      intro same
      rw [name, List.self_eq_append_right, List.append_eq_nil_iff] at same
      exact some same.1
    have complete := unhidden _ ((List.mem_tails _ _).mpr atEnd) dotted proper ⟨_, name.symm⟩
    obtain ⟨c, more, rfl⟩ := List.exists_cons_of_ne_nil some
    rw [name, List.drop_left, List.cons_append, isComplete] at complete
    have inside : last ++ c :: more ∈ components := by simp [← begins]
    have digit : c.isDigit = true := (made.digits _ inside).2 c (by simp)
    simp only [Bool.or_eq_true, decide_eq_true_eq] at complete
    rcases complete with rfl | rfl
    · exact absurd digit (by decide)
    · exact absurd digit (by decide)
  · intro whole tail inTails named proper border
    by_contra incomplete
    refine whole ?_
    have dotted : tail.head? = some '.' := by
      obtain ⟨c, tail, rfl⟩ := List.exists_cons_of_ne_nil named
      obtain ⟨first, components, rfl⟩ := List.exists_cons_of_ne_nil made.nonempty
      rw [made.written_eq, written_cons, List.cons_prefix_cons] at border
      exact congrArg some border.1
    obtain ⟨own, ends, rfl⟩ := exists_components_of_suffix made.digits dotted
      (made.written_eq ▸ (List.mem_tails _ _).mp inTails)
    have filled : own ≠ [] := by
      rintro rfl
      exact named rfl
    obtain ⟨shared, last, rfl⟩ : ∃ shared last, own = shared ++ [last] :=
      ⟨_, _, (List.dropLast_append_getLast filled).symm⟩
    obtain ⟨more, others, begins⟩ := exists_more_of_prefix made.digits
      (fun component inside => made.digits component (ends.subset inside))
      (made.written_eq ▸ border)
    refine ⟨shared, last, more, ?_, ⟨others, by simp [begins]⟩, ends⟩
    rintro rfl
    have name : oid.toList = written (shared ++ [last]) ++ written others := by
      rw [made.written_eq, begins, ← written_append]
      simp
    rw [name, List.drop_left] at incomplete
    cases others with
    | nil => exact proper (by simpa [written] using name.symm)
    | cons next others => exact incomplete rfl

/-! ## What the reader finds -/

/-- Whatever the reader finds stands complete in the text. -/
theorem occurs_of_mentionFrom {skip : Nat} (found : mentionFrom oid.toList skip text = some rest) :
    oid.Occurs text rest := by
  induction text generalizing skip with
  | nil => cases skip <;> cases found
  | cons c text ih =>
    cases skip with
    | succ skip => exact occurs_cons.mpr (.inr (ih found))
    | zero =>
      rw [mentionFrom] at found
      split at found
      · rename_i behind begins
        split at found
        · rename_i complete
          obtain rfl := Option.some.inj found
          exact occurs_cons.mpr (.inl ⟨(Text.afterStart?_eq_some.mp begins).symm, complete⟩)
        · exact occurs_cons.mpr (.inr (ih found))
      · exact occurs_cons.mpr (.inr (ih found))

/-- An identifier that overlaps itself where it is not complete has a mention that is passed by: the
second of two occurrences that overlap there, at the end of a text. -/
theorem exists_hidden_of_not_unhidden (named : oid.toList ≠ []) (hidden : ¬ oid.Unhidden) :
    ∃ text, oid.Mentioned text ∧ oid.mention? text = none := by
  obtain ⟨part, inTails, some, proper, ⟨left, name⟩, incomplete⟩ : ∃ part ∈ oid.toList.tails,
      part ≠ [] ∧ part ≠ oid.toList ∧ part <+: oid.toList ∧
        ¬ isComplete (oid.toList.drop part.length) = true := by
    simpa [Unhidden] using hidden
  obtain ⟨before, ends⟩ := (List.mem_tails _ _).mp inTails
  rw [← name, List.drop_left] at incomplete
  refine ⟨oid.toList ++ (left ++ [' ']), ⟨[' '], ⟨before, ?_⟩, .inr rfl⟩, ?_⟩
  · calc
      before ++ (oid.toList ++ [' ']) = before ++ (part ++ left ++ [' ']) := by rw [name]
      _ = before ++ part ++ (left ++ [' ']) := by simp
      _ = oid.toList ++ (left ++ [' ']) := by rw [ends]
  · -- What is left behind the first occurrence is too short for another.
    have short : mentionFrom oid.toList 0 (left ++ [' ']) = none := by
      refine Option.eq_none_iff_forall_ne_some.mpr fun rest found => ?_
      have occurs := occurs_of_mentionFrom found
      have fits := occurs.stands.length_le
      have filled := List.length_pos_iff.mpr some
      have length := congrArg List.length name
      have more : rest ≠ [] := by
        rintro rfl
        simpa using occurs.complete
      have one := List.length_pos_iff.mpr more
      simp only [List.length_append, List.length_singleton] at fits length
      omega
    have unfinished : ¬ isComplete (left ++ [' ']) = true := by
      cases left with
      | nil => exact absurd (by simpa using name) proper
      | cons c left => exact incomplete
    obtain ⟨c, tail, whole⟩ := List.exists_cons_of_ne_nil named
    have begins : Text.afterStart? oid.toList (oid.toList ++ (left ++ [' '])) =
        .some (left ++ [' ']) := Text.afterStart?_eq_some.mpr rfl
    have length : oid.toList.length - 1 = tail.length := by simp [whole]
    have split : oid.toList ++ (left ++ [' ']) = c :: (tail ++ (left ++ [' '])) := by
      rw [whole, List.cons_append]
    rw [split] at begins
    rw [mention?, split, mentionFrom, begins]
    simp only [if_neg unfinished]
    rw [length, mentionFrom_passed, short]

/-- Every mention of an identifier is found exactly if the identifier is complete wherever it
overlaps itself. -/
theorem finds_all_iff_unhidden (named : oid.toList ≠ []) :
    (∀ text : String, oid.Mentioned text.toList → oid.isMentionedIn text = true) ↔
      oid.Unhidden := by
  constructor
  · intro all
    by_contra hidden
    obtain ⟨text, mentioned, missed⟩ := exists_hidden_of_not_unhidden named hidden
    have found := all (String.ofList text) (by rwa [String.toList_ofList])
    rw [isMentionedIn, String.toList_ofList, missed] at found
    cases found
  · rintro unhidden text ⟨rest, occurs⟩
    exact unhidden.isSome_mention? named occurs

/-- Of an identifier made of components only mentions are found, and all of them exactly if the
components do not break off. -/
theorem mentions_found_unless_brokenOff (made : oid.IsMadeOf components) :
    (∀ text : String, oid.isMentionedIn text = true → oid.Mentioned text.toList) ∧
      ((∀ text : String, oid.Mentioned text.toList → oid.isMentionedIn text = true) ↔
        ¬ BreaksOff components) := by
  have named : oid.toList ≠ [] := by
    obtain ⟨component, components, rfl⟩ := List.exists_cons_of_ne_nil made.nonempty
    rw [made.written_eq, written_cons]
    exact List.cons_ne_nil _ _
  refine ⟨fun text found => ?_, (finds_all_iff_unhidden named).trans made.unhidden_iff⟩
  obtain ⟨rest, found⟩ := Option.isSome_iff_exists.mp found
  exact ⟨rest, occurs_of_mentionFrom found⟩

/-- The identifier `.1.3.1` overlaps itself, and is found where it does. -/
theorem overlapping_mention_found :
    IsMadeOf ".1.3.1" ["1".toList, "3".toList, "1".toList] ∧
      ¬ BreaksOff ["1".toList, "3".toList, "1".toList] ∧
        isMentionedIn ".1.3.1" ".1.3.12 .1.3.1.3.1 = x" = true := by
  have made : IsMadeOf ".1.3.1" ["1".toList, "3".toList, "1".toList] :=
    ⟨by decide, by decide, by decide⟩
  have whole : ¬ BreaksOff ["1".toList, "3".toList, "1".toList] :=
    made.unhidden_iff.mp (by decide +kernel)
  exact ⟨made, whole, (mentions_found_unless_brokenOff made).2.mpr whole _ (by decide +kernel)⟩

/-- Where the identifier `.12.1` begins inside itself it is passed by. -/
theorem hidden_mention_missed :
    IsMadeOf ".12.1" ["12".toList, "1".toList] ∧ Mentioned ".12.1" ".12.12.1 = x".toList ∧
      isMentionedIn ".12.1" ".12.12.1 = x" = false :=
  ⟨⟨by decide, by decide, by decide⟩, by decide +kernel, by decide +kernel⟩

end CableMap.Oid
