import CableMap.Proofs.Binding.Mention

/-!
# Every mention is found

A text mentions an identifier wherever the identifier stands in it with a dot or a space behind it,
whatever else that place overlaps. The reader looks for one occurrence behind the other, so it could
miss a mention that begins inside an occurrence that is not complete. It misses none of an
identifier that is complete wherever it overlaps itself, and every identifier of the catalog is one
of these. Where such a line falls at a mark that identifiers do not have, it mentions what its two
parts mention.
-/
namespace CableMap

namespace Oid

/-- An identifier stands complete in a text, and this is what follows it. -/
structure Occurs (oid : Oid) (text rest : List Char) : Prop where
  stands : oid.toList ++ rest <:+ text
  complete : rest.head? = some '.' ∨ rest.head? = some ' '

/-- The leftmost complete occurrence of an identifier: more follows it than any other. -/
structure Leftmost (oid : Oid) (text rest : List Char) : Prop where
  occurs : oid.Occurs text rest
  first : ∀ other, oid.Occurs text other → other.length ≤ rest.length

/-- An identifier stands complete somewhere in a text. -/
def Mentioned (oid : Oid) (text : List Char) : Prop := ∃ rest, oid.Occurs text rest

variable {oid : Oid} {text rest : List Char}

instance (oid : Oid) (text : List Char) : Decidable (oid.Mentioned text) :=
  decidable_of_iff (∃ part ∈ text.tails, oid.toList <+: part ∧
      ((part.drop oid.toList.length).head? = some '.' ∨
        (part.drop oid.toList.length).head? = some ' ')) <| by
    constructor
    · rintro ⟨_, within, ⟨rest, rfl⟩, complete⟩
      rw [List.drop_left] at complete
      exact ⟨rest, (List.mem_tails _ _).mp within, complete⟩
    · rintro ⟨rest, stands, complete⟩
      refine ⟨oid.toList ++ rest, (List.mem_tails _ _).mpr stands, List.prefix_append _ _, ?_⟩
      rwa [List.drop_left]

/-- An identifier is complete where a dot or a space follows. -/
theorem isComplete_iff :
    isComplete rest = true ↔ rest.head? = some '.' ∨ rest.head? = some ' ' := by
  cases rest <;> simp [isComplete]

/-- What follows the leftmost occurrence is determined by the text. -/
theorem Leftmost.unique {other : List Char} (leftmost : oid.Leftmost text rest)
    (otherLeftmost : oid.Leftmost text other) : rest = other := by
  have short := otherLeftmost.first rest leftmost.occurs
  have long := leftmost.first other otherLeftmost.occurs
  have within : rest <:+ text := (List.suffix_append _ _).trans leftmost.occurs.stands
  have otherWithin : other <:+ text := (List.suffix_append _ _).trans otherLeftmost.occurs.stands
  exact (List.suffix_of_suffix_length_le within otherWithin short).eq_of_length (by omega)

/-- An occurrence begins with a text or stands behind its first character. -/
theorem occurs_cons {c : Char} : oid.Occurs (c :: text) rest ↔
    (oid.toList ++ rest = c :: text ∧ isComplete rest = true) ∨ oid.Occurs text rest := by
  rw [isComplete_iff]
  constructor
  · rintro ⟨stands, complete⟩
    rcases List.suffix_cons_iff.mp stands with whole | within
    · exact .inl ⟨whole, complete⟩
    · exact .inr ⟨within, complete⟩
  · rintro (⟨whole, complete⟩ | ⟨within, complete⟩)
    · exact ⟨whole ▸ List.suffix_refl _, complete⟩
    · exact ⟨within.trans (List.suffix_cons _ _), complete⟩

/-- An occurrence with which a text begins is the leftmost. -/
theorem leftmost_of_begins (complete : isComplete rest = true) :
    oid.Leftmost (oid.toList ++ rest) rest where
  occurs := ⟨List.suffix_refl _, isComplete_iff.mp complete⟩
  first other occurs := by
    have short := occurs.stands.length_le
    simp only [List.length_append] at short
    omega

/-! ## Identifiers that overlap themselves -/

/-- Wherever an identifier overlaps itself, its first occurrence is complete. -/
def Unhidden (oid : Oid) : Prop :=
  ∀ tail ∈ oid.toList.tails, tail ≠ [] → tail ≠ oid.toList → tail <+: oid.toList →
    isComplete (oid.toList.drop tail.length) = true

instance (oid : Oid) : Decidable oid.Unhidden :=
  inferInstanceAs (Decidable (∀ tail ∈ oid.toList.tails, _))

/-- No occurrence begins inside one that is not complete. -/
theorem Unhidden.not_begun (unhidden : oid.Unhidden) (incomplete : ¬ isComplete rest = true)
    {part : List Char} (some : part ≠ []) (proper : part ≠ oid.toList)
    (within : part <:+ oid.toList) : ¬ oid.toList <+: part ++ rest := by
  intro begins
  have border : part <+: oid.toList := by
    rcases List.prefix_or_prefix_of_prefix begins (List.prefix_append part rest) with long | short
    · exact absurd (within.eq_of_length_le long.length_le) proper
    · exact short
  have dotted := unhidden part ((List.mem_tails _ _).mpr within) some proper border
  obtain ⟨left, whole⟩ := border
  rw [← whole, List.prefix_append_right_inj] at begins
  rw [← whole, List.drop_left] at dotted
  obtain ⟨more, rfl⟩ := begins
  cases left with
  | nil => exact Bool.noConfusion dotted
  | cons c left => exact incomplete dotted

/-- To pass over some characters is to leave them out. -/
theorem mentionFrom_passed (oid passed rest : List Char) :
    mentionFrom oid passed.length (passed ++ rest) = mentionFrom oid 0 rest := by
  induction passed with
  | nil => rfl
  | cons c passed ih => exact ih

/-- To pass over an occurrence that is not complete is to pass over its first character: no mention
begins inside it. -/
theorem Unhidden.mentionFrom_behind (unhidden : oid.Unhidden)
    (incomplete : ¬ isComplete rest = true) {c : Char} {tail : List Char}
    (name : oid.toList = c :: tail) :
    mentionFrom oid.toList (oid.toList.length - 1) (tail ++ rest) =
      mentionFrom oid.toList 0 (tail ++ rest) := by
  have length : oid.toList.length - 1 = tail.length := by simp [name]
  have within : tail <:+ oid.toList := name ▸ List.suffix_cons _ _
  rw [length, mentionFrom_passed]
  refine (mentionFrom_append fun part some inTail =>
    unhidden.not_begun incomplete some ?_ (inTail.trans within)).symm
  intro whole
  have shorter := inTail.length_le
  rw [whole, name, List.length_cons] at shorter
  omega

/-- The reader finds the occurrence that a text begins with, or the one that it finds behind the
first character. -/
theorem Unhidden.mentionFrom_cons (unhidden : oid.Unhidden) (named : oid.toList ≠ []) (c : Char)
    (text : List Char) : mentionFrom oid.toList 0 (c :: text) =
      match Text.afterStart? oid.toList (c :: text) with
      | some rest => if isComplete rest then some rest else mentionFrom oid.toList 0 text
      | none => mentionFrom oid.toList 0 text := by
  rw [mentionFrom]
  cases found : Text.afterStart? oid.toList (c :: text) with
  | none => rfl
  | some rest =>
    by_cases complete : isComplete rest = true
    · simp only [if_pos complete]
    · simp only [if_neg complete]
      obtain ⟨first, tail, name⟩ := List.exists_cons_of_ne_nil named
      have whole := Text.afterStart?_eq_some.mp found
      rw [name, List.cons_append] at whole
      rw [(List.cons.inj whole).2]
      exact unhidden.mentionFrom_behind complete name

/-- Where a text begins with no complete occurrence, the leftmost is the one behind its first
character. -/
theorem Leftmost.behind {c : Char} (leftmost : oid.Leftmost text rest)
    (absent : ∀ rest, oid.toList ++ rest = c :: text → ¬ isComplete rest = true) :
    oid.Leftmost (c :: text) rest where
  occurs := occurs_cons.mpr (.inr leftmost.occurs)
  first other occurs := by
    rcases occurs_cons.mp occurs with ⟨whole, complete⟩ | behind
    · exact absurd complete (absent other whole)
    · exact leftmost.first other behind

/-- What the reader finds is the leftmost complete occurrence. -/
theorem Unhidden.leftmost (unhidden : oid.Unhidden) (named : oid.toList ≠ [])
    (found : oid.mention? text = some rest) : oid.Leftmost text rest := by
  unfold mention? at found
  induction text with
  | nil => simp [mentionFrom] at found
  | cons c text ih =>
    rw [unhidden.mentionFrom_cons named] at found
    cases begins : Text.afterStart? oid.toList (c :: text) with
    | none =>
      rw [begins] at found
      exact (ih found).behind fun other whole =>
        absurd ⟨other, whole⟩ (Text.afterStart?_eq_none.mp begins)
    | some here =>
      have whole := Text.afterStart?_eq_some.mp begins
      simp only [begins] at found
      split at found
      · rename_i complete
        rw [← Option.some.inj found, whole]
        exact leftmost_of_begins complete
      · rename_i incomplete
        refine (ih found).behind fun other same => ?_
        rwa [List.append_cancel_left (same.trans whole)]

/-- The reader finds something in every text that mentions the identifier. -/
theorem Unhidden.isSome_mention? (unhidden : oid.Unhidden) (named : oid.toList ≠ [])
    (occurs : oid.Occurs text rest) : (oid.mention? text).isSome := by
  unfold mention?
  induction text with
  | nil =>
    have empty := List.suffix_nil.mp occurs.stands
    exact absurd (List.append_eq_nil_iff.mp empty).1 named
  | cons c text ih =>
    rw [unhidden.mentionFrom_cons named]
    rcases occurs_cons.mp occurs with ⟨whole, complete⟩ | behind
    · rw [Text.afterStart?_eq_some.mpr whole.symm]
      simp [complete]
    · split
      · split
        · rfl
        · exact ih behind
      · exact ih behind

/-- Where none is hidden, the reader finds nothing exactly if there is no mention. -/
theorem Unhidden.mention?_eq_none (unhidden : oid.Unhidden) (named : oid.toList ≠ []) :
    oid.mention? text = none ↔ ¬ oid.Mentioned text := by
  constructor
  · rintro none ⟨rest, occurs⟩
    have some := unhidden.isSome_mention? named occurs
    rw [none] at some
    exact Bool.noConfusion some
  · intro unmentioned
    cases found : oid.mention? text with
    | none => rfl
    | some rest => exact absurd ⟨rest, (unhidden.leftmost named found).occurs⟩ unmentioned

/-- Where none is hidden, the reader finds the leftmost mention and no other. -/
theorem Unhidden.mention?_eq_some (unhidden : oid.Unhidden) (named : oid.toList ≠ []) :
    oid.mention? text = some rest ↔ oid.Leftmost text rest := by
  constructor
  · exact unhidden.leftmost named
  · intro leftmost
    obtain ⟨other, found⟩ :=
      Option.isSome_iff_exists.mp (unhidden.isSome_mention? named leftmost.occurs)
    rw [found, leftmost.unique (unhidden.leftmost named found)]

/-- A text that mentions an identifier does so leftmost somewhere. -/
theorem Unhidden.exists_leftmost (unhidden : oid.Unhidden) (named : oid.toList ≠ [])
    (mentioned : oid.Mentioned text) : ∃ rest, oid.Leftmost text rest := by
  obtain ⟨_, occurs⟩ := mentioned
  obtain ⟨rest, found⟩ := Option.isSome_iff_exists.mp (unhidden.isSome_mention? named occurs)
  exact ⟨rest, unhidden.leftmost named found⟩

/-! ## Texts that fall into parts -/

section Parted

variable {mark : Char} {left right : List Char}

/-- A mark that an identifier does not have and that does not make it complete parts a text: no
mention reaches over it. -/
theorem occurs_append_cons (foreign : mark ∉ oid.toList) (closed : mark ≠ '.' ∧ mark ≠ ' ') :
    oid.Occurs (left ++ mark :: right) rest ↔
      (∃ inLeft, oid.Occurs left inLeft ∧ rest = inLeft ++ mark :: right) ∨
        oid.Occurs right rest := by
  have open? {rest : List Char} (complete : rest.head? = some '.' ∨ rest.head? = some ' ') :
      rest.head? ≠ some mark := by
    rintro marked
    rw [marked] at complete
    exact complete.elim (fun same => closed.1 (Option.some.inj same))
      fun same => closed.2 (Option.some.inj same)
  constructor
  · rintro ⟨⟨before, whole⟩, complete⟩
    rw [← List.append_assoc, List.append_eq_append_iff] at whole
    rcases whole with ⟨more, inLeft, rfl⟩ | ⟨more, inRight, whole⟩
    · -- The occurrence ends in the left part, and so does the character that completes it.
      cases more with
      | nil => exact absurd rfl (open? complete)
      | cons c more =>
        exact .inl ⟨c :: more, ⟨⟨before, by rw [inLeft, List.append_assoc]⟩, complete⟩, rfl⟩
    · cases more with
      | nil => exact absurd (congrArg List.head? whole.symm) (open? complete)
      | cons c more =>
        rw [List.cons_append] at whole
        obtain ⟨rfl, rfl⟩ := List.cons.inj whole
        rcases List.append_eq_append_iff.mp inRight with ⟨part, _, name⟩ | ⟨part, _, name⟩
        · exact absurd (name ▸ by simp) foreign
        · cases part with
          | nil =>
            rw [List.nil_append] at name
            exact absurd (name ▸ List.mem_cons_self) foreign
          | cons c part =>
            rw [List.cons_append] at name
            refine .inr ⟨⟨part, ?_⟩, complete⟩
            rw [(List.cons.inj name).2, List.append_assoc]
  · rintro (⟨inLeft, ⟨⟨before, rfl⟩, complete⟩, rfl⟩ | ⟨stands, complete⟩)
    · refine ⟨⟨before, by simp⟩, ?_⟩
      cases inLeft with
      | nil => simp at complete
      | cons c rest => exact complete
    · exact ⟨(stands.trans (List.suffix_cons _ _)).trans (List.suffix_append _ _), complete⟩

/-- A mark that is foreign to an identifier and completes none parts a text: each mention stands in
front of the mark or behind it. -/
theorem mentioned_append_cons (foreign : mark ∉ oid.toList) (closed : mark ≠ '.' ∧ mark ≠ ' ') :
    oid.Mentioned (left ++ mark :: right) ↔ oid.Mentioned left ∨ oid.Mentioned right := by
  constructor
  · rintro ⟨rest, occurs⟩
    rcases (occurs_append_cons foreign closed).mp occurs with ⟨inLeft, occurs, -⟩ | occurs
    · exact .inl ⟨inLeft, occurs⟩
    · exact .inr ⟨rest, occurs⟩
  · rintro (⟨inLeft, occurs⟩ | ⟨rest, occurs⟩)
    · exact ⟨_, (occurs_append_cons foreign closed).mpr (.inl ⟨inLeft, occurs, rfl⟩)⟩
    · exact ⟨rest, (occurs_append_cons foreign closed).mpr (.inr occurs)⟩

/-- The leftmost occurrence in front of a mark is the leftmost of the text. -/
theorem Leftmost.append_cons (leftmost : oid.Leftmost left rest) (foreign : mark ∉ oid.toList)
    (closed : mark ≠ '.' ∧ mark ≠ ' ') (right : List Char) :
    oid.Leftmost (left ++ mark :: right) (rest ++ mark :: right) where
  occurs := (occurs_append_cons foreign closed).mpr (.inl ⟨rest, leftmost.occurs, rfl⟩)
  first other occurs := by
    rcases (occurs_append_cons foreign closed).mp occurs with ⟨inLeft, within, rfl⟩ | behind
    · have shorter := leftmost.first inLeft within
      simp only [List.length_append]
      omega
    · have shorter := ((List.suffix_append _ _).trans behind.stands).length_le
      simp only [List.length_append, List.length_cons]
      omega

/-- The leftmost occurrence behind a mark is the leftmost of the text if there is none in front. -/
theorem Leftmost.behind_mark (leftmost : oid.Leftmost right rest) (foreign : mark ∉ oid.toList)
    (closed : mark ≠ '.' ∧ mark ≠ ' ') (unmentioned : ¬ oid.Mentioned left) :
    oid.Leftmost (left ++ mark :: right) rest where
  occurs := (occurs_append_cons foreign closed).mpr (.inr leftmost.occurs)
  first other occurs := by
    rcases (occurs_append_cons foreign closed).mp occurs with ⟨inLeft, within, -⟩ | behind
    · exact absurd ⟨inLeft, within⟩ unmentioned
    · exact leftmost.first other behind

end Parted

/-- No occurrence begins with a blank. -/
theorem occurs_cons_blank (dotted : oid.toList.head? = some '.') :
    oid.Occurs (' ' :: text) rest ↔ oid.Occurs text rest := by
  refine occurs_cons.trans (or_iff_right ?_)
  rintro ⟨whole, -⟩
  cases name : oid.toList with
  | nil => simp [name] at dotted
  | cons c tail =>
    rw [name, List.cons_append] at whole
    rw [name, (List.cons.inj whole).1] at dotted
    exact absurd (Option.some.inj dotted) (by decide)

/-- A blank in front of a text makes no difference to what it mentions. -/
theorem mentioned_cons_blank (dotted : oid.toList.head? = some '.') :
    oid.Mentioned (' ' :: text) ↔ oid.Mentioned text :=
  exists_congr fun _ => occurs_cons_blank dotted

/-- A space in front of a text does not change which mention is leftmost. -/
theorem Leftmost.cons_blank (leftmost : oid.Leftmost text rest)
    (dotted : oid.toList.head? = some '.') : oid.Leftmost (' ' :: text) rest where
  occurs := (occurs_cons_blank dotted).mpr leftmost.occurs
  first other occurs := leftmost.first other ((occurs_cons_blank dotted).mp occurs)

/-- An identifier apart from another is not mentioned by that one with a row behind it. -/
theorem Apart.unmentioned {dots : Nat} {other : Oid} (apart : Apart dots other oid)
    (numeric : other.IsNumeric) {row : List Char} (few : row.count '.' ≤ dots) :
    ¬ other.Mentioned (oid.toList ++ row ++ [' ']) := by
  rintro ⟨rest, stands, complete⟩
  rcases List.suffix_concat_iff.mp stands with none | ⟨part, whole, within⟩
  · have empty := (List.append_eq_nil_iff.mp none).2
    simp [empty] at complete
  · exact apart.not_begun numeric few within ⟨rest, whole⟩

end Oid

namespace Catalog

/-- Every identifier of the catalog is complete wherever it overlaps itself. -/
theorem full_unhidden : ∀ oid ∈ full, oid.Unhidden := by
  decide +kernel

end Catalog

end CableMap
