import CableMap.Text.Blank
import CableMap.Text.Search
import Mathlib.Data.List.Basic
import Mathlib.Data.List.TakeWhile

/-!
# Texts put together and cut apart

A text made of parts falls into these parts again when it is stripped, cut at a mark, or cut into
lines, as long as no part holds what it is cut at.
-/
namespace CableMap.Text

variable {strip : Char → Bool} {text : List Char}

/-! ## Stripping -/

/-- What is stripped at the start may stand there already. -/
theorem stripStart_append {lead : List Char} (stripped : ∀ c ∈ lead, strip c = true)
    (text : List Char) : stripStart strip (lead ++ text) = stripStart strip text :=
  List.dropWhile_append_of_pos stripped

/-- What is stripped at the end may stand there already. -/
theorem stripEnd_append {trail : List Char} (stripped : ∀ c ∈ trail, strip c = true)
    (text : List Char) : stripEnd strip (text ++ trail) = stripEnd strip text := by
  have backward : ∀ c ∈ trail.reverse, strip c = true := fun c inside =>
    stripped c (List.mem_reverse.mp inside)
  rw [stripEnd, List.reverse_append, List.dropWhile_append_of_pos backward, stripEnd]

/-- What is stripped in front of a text and behind it makes no difference. -/
theorem stripBoth_append (lead trail : List Char) (front : lead.all strip = true)
    (back : trail.all strip = true) (text : List Char) :
    stripBoth strip (lead ++ text ++ trail) = stripBoth strip text := by
  rw [List.all_eq_true] at front back
  rw [stripBoth, List.append_assoc, stripStart_append front, stripBoth]
  by_cases blank : ∀ c ∈ text, strip c = true
  · rw [stripStart_append blank, stripStart, List.dropWhile_eq_nil_iff.mpr back, stripStart,
      List.dropWhile_eq_nil_iff.mpr blank]
  · have kept : stripStart strip (text ++ trail) = stripStart strip text ++ trail := by
      rw [stripStart, stripStart, List.dropWhile_append, if_neg]
      simpa [List.dropWhile_eq_nil_iff] using blank
    rw [kept, stripEnd_append back]

/-- Behind a character that stays, nothing is stripped from the front. -/
theorem stripStart_append_cons (front : List Char) {c : Char} (stays : strip c = false)
    (rest : List Char) : stripStart strip (front ++ c :: rest) = stripStart strip front ++ c :: rest := by
  induction front with
  | nil => exact List.dropWhile_cons_of_neg (by simp [stays])
  | cons other front ih =>
    by_cases stripped : strip other = true
    · rw [List.cons_append, stripStart, List.dropWhile_cons_of_pos stripped, ← stripStart, ih,
        stripStart, stripStart, List.dropWhile_cons_of_pos stripped]
    · rw [List.cons_append, stripStart, List.dropWhile_cons_of_neg stripped, stripStart,
        List.dropWhile_cons_of_neg stripped, List.cons_append]

/-- In front of a character that stays, nothing is stripped from the end. -/
theorem stripEnd_append_cons (front : List Char) {c : Char} (stays : strip c = false)
    (rest : List Char) : stripEnd strip (front ++ c :: rest) = front ++ c :: stripEnd strip rest := by
  have backward := stripStart_append_cons rest.reverse stays front.reverse
  have mirrored : (front ++ c :: rest).reverse = rest.reverse ++ c :: front.reverse := by simp
  rw [stripEnd, mirrored, ← stripStart, backward, stripEnd, ← stripStart]
  simp

/-- A text that begins with nothing to strip keeps its start. -/
theorem stripStart_eq_self (first : ∀ c ∈ text.head?, strip c = false) :
    stripStart strip text = text := by
  cases text with
  | nil => rfl
  | cons c text => exact List.dropWhile_cons_of_neg (by simp [first c rfl])

/-- A text that ends with nothing to strip keeps its end. -/
theorem stripEnd_eq_self (last : ∀ c ∈ text.getLast?, strip c = false) :
    stripEnd strip text = text := by
  have backward : stripStart strip text.reverse = text.reverse :=
    stripStart_eq_self (by simpa using last)
  rw [stripEnd, ← stripStart, backward, List.reverse_reverse]

/-- A text that neither begins nor ends with what is stripped stays whole. -/
theorem stripBoth_eq_self (first : ∀ c ∈ text.head?, strip c = false)
    (last : ∀ c ∈ text.getLast?, strip c = false) : stripBoth strip text = text := by
  rw [stripBoth, stripStart_eq_self first, stripEnd_eq_self last]

/-- What is stripped in front of a text is of the class. -/
theorem exists_stripStart (strip : Char → Bool) (text : List Char) :
    ∃ lead, text = lead ++ stripStart strip text ∧ ∀ c ∈ lead, strip c = true :=
  ⟨text.takeWhile strip, List.takeWhile_append_dropWhile.symm, fun _ inside =>
    List.mem_takeWhile_imp inside⟩

/-- What is stripped behind a text is of the class. -/
theorem exists_stripEnd (strip : Char → Bool) (text : List Char) :
    ∃ trail, text = stripEnd strip text ++ trail ∧ ∀ c ∈ trail, strip c = true := by
  obtain ⟨lead, whole, stripped⟩ := exists_stripStart strip text.reverse
  refine ⟨lead.reverse, ?_, fun c inside => stripped c (List.mem_reverse.mp inside)⟩
  rw [stripEnd, ← stripStart, ← List.reverse_append, ← whole, List.reverse_reverse]

/-- A text neither begins nor ends with a character of a class. -/
structure Bare (strip : Char → Bool) (text : List Char) : Prop where
  first : ∀ c ∈ text.head?, strip c = false
  last : ∀ c ∈ text.getLast?, strip c = false

instance (strip : Char → Bool) (text : List Char) : Decidable (Bare strip text) :=
  decidable_of_iff
    ((text.head?.all fun c => ! strip c) = true ∧ (text.getLast?.all fun c => ! strip c) = true)
    (by
      simp only [Option.all_eq_true, Bool.not_eq_true']
      exact ⟨fun bare => ⟨bare.1, bare.2⟩, fun bare => ⟨bare.first, bare.last⟩⟩)

/-- Of a bare text nothing is stripped. -/
theorem Bare.stripBoth_eq (bare : Bare strip text) : stripBoth strip text = text :=
  stripBoth_eq_self bare.first bare.last

/-- What is left of a text neither begins nor ends with what is stripped, and what was taken off its
ends is of the class. -/
theorem exists_stripBoth (strip : Char → Bool) (text : List Char) :
    ∃ lead trail, text = lead ++ stripBoth strip text ++ trail ∧ (∀ c ∈ lead, strip c = true) ∧
      (∀ c ∈ trail, strip c = true) ∧ Bare strip (stripBoth strip text) := by
  obtain ⟨lead, front, leads⟩ := exists_stripStart strip text
  obtain ⟨trail, back, trails⟩ := exists_stripEnd strip (stripStart strip text)
  have whole : text = lead ++ stripBoth strip text ++ trail := by
    rw [List.append_assoc, stripBoth, ← back, ← front]
  refine ⟨lead, trail, whole, leads, trails, fun c first => ?_, fun c last => ?_⟩
  · have same : (text.dropWhile strip).head? = some c := by
      rw [← stripStart, back, List.head?_append, ← stripBoth, Option.mem_def.mp first,
        Option.some_or]
    have stops := List.head?_dropWhile_not strip text
    rwa [same] at stops
  · have same : ((stripStart strip text).reverse.dropWhile strip).head? = some c := by
      rwa [stripBoth, stripEnd, List.getLast?_reverse] at last
    have stops := List.head?_dropWhile_not strip (stripStart strip text).reverse
    rwa [same] at stops

/-- A text is stripped to the only part of it that is left bare by what is around it. -/
theorem stripBoth_eq_iff {core : List Char} :
    stripBoth strip text = core ↔ ∃ lead trail, text = lead ++ core ++ trail ∧
      (∀ c ∈ lead, strip c = true) ∧ (∀ c ∈ trail, strip c = true) ∧ Bare strip core := by
  constructor
  · rintro rfl
    exact exists_stripBoth strip text
  · rintro ⟨lead, trail, rfl, front, back, bare⟩
    rw [stripBoth_append _ _ (List.all_eq_true.mpr front) (List.all_eq_true.mpr back),
      bare.stripBoth_eq]

/-- A text without what is stripped stays whole. -/
theorem stripBoth_eq_self_of_solid (solid : ∀ c ∈ text, strip c = false) :
    stripBoth strip text = text :=
  stripBoth_eq_self (fun c first => solid c (List.mem_of_mem_head? first))
    (fun c last => solid c (List.mem_of_getLast? last))

/-! ## Parts with a separator between them -/

/-- A character of joined pieces is one of the separator or of a piece. -/
theorem mem_of_mem_intercalate {sep : List Char} {pieces : List (List Char)} {c : Char}
    (inside : c ∈ sep.intercalate pieces) : c ∈ sep ∨ ∃ piece ∈ pieces, c ∈ piece := by
  induction pieces with
  | nil => simp at inside
  | cons piece pieces ih =>
    cases pieces with
    | nil => exact .inr ⟨piece, List.mem_cons_self, by simpa using inside⟩
    | cons next pieces =>
      rw [List.intercalate_cons_cons, List.mem_append, List.mem_append] at inside
      rcases inside with (first | between) | rest
      · exact .inr ⟨piece, List.mem_cons_self, first⟩
      · exact .inl between
      · exact (ih rest).imp_right fun ⟨piece, among, found⟩ =>
          ⟨piece, List.mem_cons_of_mem _ among, found⟩

/-- Solid pieces that are joined begin with nothing to strip. -/
theorem head?_intercalate {sep : List Char} {pieces : List (List Char)}
    (solid : ∀ piece ∈ pieces, piece ≠ [] ∧ ∀ c ∈ piece, strip c = false) :
    ∀ c ∈ (sep.intercalate pieces).head?, strip c = false := by
  cases pieces with
  | nil => simp
  | cons piece pieces =>
    obtain ⟨some, whole⟩ := solid piece List.mem_cons_self
    obtain ⟨c, piece, rfl⟩ := List.exists_cons_of_ne_nil some
    have first : (sep.intercalate ((c :: piece) :: pieces)).head? = .some c := by
      cases pieces <;> simp
    rw [first]
    rintro _ ⟨⟩
    exact whole c List.mem_cons_self

/-- Solid pieces that are joined end with nothing to strip. -/
theorem getLast?_intercalate {sep : List Char} {pieces : List (List Char)}
    (solid : ∀ piece ∈ pieces, piece ≠ [] ∧ ∀ c ∈ piece, strip c = false) :
    ∀ c ∈ (sep.intercalate pieces).getLast?, strip c = false := by
  induction pieces with
  | nil => simp
  | cons piece pieces ih =>
    cases pieces with
    | nil =>
      intro c last
      rw [List.intercalate_singleton] at last
      exact (solid piece List.mem_cons_self).2 c (List.mem_of_getLast? last)
    | cons next pieces =>
      have rest := ih fun piece inside => solid piece (List.mem_cons_of_mem _ inside)
      have some : sep.intercalate (next :: pieces) ≠ [] := by
        have nonempty := (solid next (by simp)).1
        cases pieces <;> simp [nonempty]
      rw [List.intercalate_cons_cons, List.getLast?_append, List.getLast?_eq_some_getLast some] at *
      exact rest

/-- Parts without what is stripped stay whole together. -/
theorem stripBoth_intercalate {sep : List Char} {pieces : List (List Char)}
    (solid : ∀ piece ∈ pieces, piece ≠ [] ∧ ∀ c ∈ piece, strip c = false) :
    stripBoth strip (sep.intercalate pieces) = sep.intercalate pieces :=
  stripBoth_eq_self (head?_intercalate solid) (getLast?_intercalate solid)

/-! ## Cutting -/

/-- No mark is left in what stands between marks. -/
theorem notMem_of_mem_splitOn {mark : Char} {piece : List Char}
    (inside : piece ∈ text.splitOn mark) : mark ∉ piece := by
  induction text generalizing piece with
  | nil =>
    rw [List.mem_singleton.mp inside]
    exact List.not_mem_nil
  | cons c text ih =>
    obtain ⟨first, others, pieces⟩ := List.exists_cons_of_ne_nil (List.splitOn_ne_nil mark text)
    rw [List.splitOn_cons_eq_if_modifyHead, pieces] at inside
    rw [pieces] at ih
    by_cases same : c = mark
    · rw [if_pos (by simpa using same), List.mem_cons] at inside
      rcases inside with rfl | later
      · exact List.not_mem_nil
      · exact ih later
    · rw [if_neg (by simpa using same), List.modifyHead_cons, List.mem_cons] at inside
      rcases inside with rfl | later
      · exact List.not_mem_cons_of_ne_of_not_mem (Ne.symm same) (ih List.mem_cons_self)
      · exact ih (List.mem_cons_of_mem first later)

/-- The pieces of a text are the only ones without the mark that make it up with marks between
them. -/
theorem splitOn_eq_iff {mark : Char} {pieces : List (List Char)} :
    text.splitOn mark = pieces ↔
      pieces ≠ [] ∧ (∀ piece ∈ pieces, mark ∉ piece) ∧ text = [mark].intercalate pieces := by
  constructor
  · rintro rfl
    exact ⟨List.splitOn_ne_nil mark text, fun _ => notMem_of_mem_splitOn,
      (List.intercalate_splitOn mark).symm⟩
  · rintro ⟨some, unmarked, rfl⟩
    exact List.splitOn_intercalate mark unmarked some

/-- A text is cut where its first part ends. -/
theorem cutAt?_append {mark : Char} {before : List Char} (absent : mark ∉ before)
    (after : List Char) : cutAt? mark (before ++ mark :: after) = some (before, mark :: after) := by
  have passed : ∀ c ∈ before, decide (c ≠ mark) = true := fun c inside =>
    decide_eq_true fun same => absent (same ▸ inside)
  have taken : (before ++ mark :: after).takeWhile (· ≠ mark) = before := by
    rw [List.takeWhile_append_of_pos passed]
    simp
  have dropped : (before ++ mark :: after).dropWhile (· ≠ mark) = mark :: after := by
    rw [List.dropWhile_append_of_pos passed]
    simp
  simp only [cutAt?, taken, dropped]

/-- A text is cut in front of the first mark that it has. -/
theorem cutAt?_eq_some {mark : Char} {before after : List Char} :
    cutAt? mark text = some (before, after) ↔
      text = before ++ after ∧ mark ∉ before ∧ after.head? = some mark := by
  constructor
  · intro cut
    unfold cutAt? at cut
    split at cut
    · cases cut
    · rename_i some
      obtain ⟨rfl, rfl⟩ := Prod.mk.inj (Option.some.inj cut)
      refine ⟨List.takeWhile_append_dropWhile.symm, fun inside => ?_, ?_⟩
      · simpa using List.mem_takeWhile_imp inside
      · have stops := List.head?_dropWhile_not (· ≠ mark) text
        obtain ⟨c, rest, whole⟩ := List.exists_cons_of_ne_nil some
        rw [whole] at stops ⊢
        simpa using stops
  · rintro ⟨rfl, absent, marked⟩
    obtain ⟨rest, rfl⟩ := List.head?_eq_some_iff.mp marked
    exact cutAt?_append absent rest

/-- A text begins with a start if it is that start and something after it. -/
theorem afterStart?_eq_some {start rest : List Char} :
    afterStart? start text = some rest ↔ text = start ++ rest := by
  induction start generalizing text with
  | nil => simp [afterStart?]
  | cons s start ih =>
    cases text with
    | nil => simp [afterStart?]
    | cons c text =>
      by_cases same : s = c
      · simp [afterStart?, same, ih]
      · simp [afterStart?, same, Ne.symm same]

/-- Nothing is left behind a start exactly if the text does not begin with it. -/
theorem afterStart?_eq_none {start : List Char} :
    afterStart? start text = none ↔ ¬ start <+: text := by
  rw [Option.eq_none_iff_forall_ne_some]
  constructor
  · rintro other ⟨rest, whole⟩
    exact other rest (afterStart?_eq_some.mpr whole.symm)
  · rintro other rest found
    exact other ⟨rest, (afterStart?_eq_some.mp found).symm⟩

/-- A text is found where it stands in another. -/
theorem occursIn_iff {sought : List Char} : occursIn sought text = true ↔ sought <:+: text := by
  induction text with
  | nil => simp [occursIn]
  | cons c text ih =>
    rw [occursIn, Bool.or_eq_true, List.isPrefixOf_iff_prefix, ih, List.infix_cons_iff]

/-! ## Lines -/

/-- Lines that are each ended by a newline fall apart again. -/
theorem lines_flatMap (rows : List (List Char)) (whole : ∀ row ∈ rows, '\n' ∉ row)
    (bare : ∀ row ∈ rows, row.getLast? ≠ some '\r') :
    lines (rows.flatMap (· ++ ['\n'])) = rows := by
  have split : (rows.flatMap (· ++ ['\n'])).splitOn '\n' = rows ++ [[]] := by
    clear bare
    induction rows with
    | nil => rfl
    | cons row rows ih =>
      rw [List.flatMap_cons, List.append_assoc, List.singleton_append,
        List.splitOn_append_cons_self, List.splitOn_eq_singleton (whole row List.mem_cons_self),
        ih fun row inside => whole row (List.mem_cons_of_mem _ inside)]
      rfl
  have kept : rows.map (dropReturn '\r') = rows := by
    refine (List.map_congr_left fun row inside => ?_).trans (List.map_id rows)
    rw [dropReturn, if_neg (by simpa using bare row inside)]
    rfl
  simp [lines, linesOf, split, kept]

/-- Lines with a newline between each two fall apart again. -/
theorem lines_intercalate (rows : List (List Char))
    (whole : ∀ row ∈ rows, row ≠ [] ∧ '\n' ∉ row ∧ row.getLast? ≠ some '\r') :
    lines (['\n'].intercalate rows) = rows := by
  by_cases none : rows = []
  · rw [none]
    rfl
  have pieces : (['\n'].intercalate rows).splitOn '\n' = rows :=
    List.splitOn_intercalate '\n' (fun row inside => (whole row inside).2.1) none
  have kept : rows.dropLast.map (dropReturn '\r') = rows.dropLast := by
    refine (List.map_congr_left fun row inside => ?_).trans (List.map_id _)
    have bare := (whole row (List.dropLast_subset _ inside)).2.2
    rw [dropReturn, if_neg (by simpa using bare)]
    rfl
  have last : (rows.getLast none).isEmpty = false := by
    simpa using (whole _ (List.getLast_mem none)).1
  rw [lines, linesOf]
  simp only [pieces]
  rw [kept, List.getLast?_eq_some_getLast none, Option.toList_some, List.filter_singleton, last]
  exact List.dropLast_append_getLast none

/-- A text that is ended by a newline falls into the pieces between newlines. -/
theorem lines_concat_newline (text : List Char) :
    lines (text ++ ['\n']) = (text.splitOn '\n').map (dropReturn '\r') := by
  simp [lines, linesOf, List.splitOn_append_cons_self]

/-- What stands before a newline and what stands behind it fall into lines apart from each other. -/
theorem lines_append_newline (before behind : List Char) :
    lines (before ++ '\n' :: behind) = lines (before ++ ['\n']) ++ lines behind := by
  have some := List.splitOn_ne_nil '\n' behind
  rw [lines_concat_newline, lines, linesOf, List.splitOn_append_cons_self,
    List.dropLast_append_of_ne_nil some, List.map_append, List.append_assoc,
    List.getLast?_append_of_ne_nil _ some]
  rfl

/-- A text that ends in a character of a line has the same lines when it is ended by a newline. -/
theorem lines_concat_newline_of_getLast? {text : List Char} {c : Char}
    (last : text.getLast? = some c) (plain : c ≠ '\n' ∧ c ≠ '\r') :
    lines (text ++ ['\n']) = lines text := by
  by_cases ended : '\n' ∈ text
  · -- The lines behind a newline decide.
    obtain ⟨before, behind, rfl⟩ := List.append_of_mem ended
    have some : behind ≠ [] := by
      rintro rfl
      rw [List.getLast?_concat] at last
      exact plain.1 (Option.some.inj last).symm
    have same : behind.getLast? = Option.some c := by
      rw [List.getLast?_append_of_ne_nil _ (by simp), List.getLast?_cons_of_ne_nil some] at last
      exact last
    rw [List.append_assoc, List.cons_append, lines_append_newline before (behind ++ ['\n']),
      lines_append_newline before behind, lines_concat_newline_of_getLast? same plain]
  · have some : text ≠ [] := by
      rintro rfl
      cases last
    have kept : dropReturn '\r' text = text := by
      rw [dropReturn, if_neg]
      rw [last]
      simpa using plain.2
    rw [lines_concat_newline, lines, linesOf]
    simp [List.splitOn_eq_singleton ended, kept, some]
termination_by text.length

/-- To end a text by a newline adds no line but an empty one, and takes at most a return from the
last. -/
theorem mem_lines_concat_newline {text line : List Char} (inside : line ∈ lines (text ++ ['\n'])) :
    line ∈ lines text ∨ line ++ ['\r'] ∈ lines text ∨ line = [] := by
  rw [lines_concat_newline] at inside
  obtain ⟨piece, among, rfl⟩ := List.mem_map.mp inside
  have some := List.splitOn_ne_nil '\n' text
  rw [← List.dropLast_append_getLast some] at among
  rcases List.mem_append.mp among with ended | last
  · exact .inl (List.mem_append_left _ (List.mem_map_of_mem ended))
  · by_cases empty : piece = []
    · exact .inr (.inr (by rw [empty]; rfl))
    · have kept : piece ∈ lines text := by
        refine List.mem_append_right _ (List.mem_filter.mpr ⟨?_, by simpa using empty⟩)
        rw [List.getLast?_eq_some_getLast some, List.mem_singleton.mp last]
        exact List.mem_singleton_self _
      unfold dropReturn
      split
      · rename_i returned
        refine .inr (.inl ?_)
        rwa [List.dropLast_append_getLast? _ (by simpa using returned)]
      · exact .inl kept

end CableMap.Text
