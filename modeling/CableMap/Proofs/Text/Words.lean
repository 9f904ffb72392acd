import CableMap.Text.Blank
import Mathlib.Data.List.Basic
import Mathlib.Data.List.TakeWhile

/-!
# Words and the blanks around them

The words of a text are the pieces without blanks that it holds, with blanks around them and at
least one between each two: no other pieces are so spaced in it.
-/
namespace CableMap.Text

/-- In a class without blanks no character is one. -/
theorem isBlank_of_class {kind : Char → Bool} (others : blanks.all (! kind ·) = true) {c : Char}
    (inside : kind c = true) : isBlank c = false := by
  refine Bool.eq_false_iff.mpr fun blank => ?_
  have other := List.all_eq_true.mp others c (List.contains_iff_mem.mp blank)
  rw [inside] at other
  exact Bool.noConfusion other

/-- Pieces with blanks around them, at least one between each two. -/
inductive Spaced : List (List Char) → List Char → Prop
  /-- Behind the last piece only blanks may stand. -/
  | ends {trail : List Char} (blank : ∀ c ∈ trail, isBlank c = true) : Spaced [] trail
  /-- A piece has blanks in front of it, or none, and one behind it unless the text ends there. -/
  | piece {lead piece rest : List Char} {pieces : List (List Char)}
      (blank : ∀ c ∈ lead, isBlank c = true) (apart : ∀ c ∈ rest.head?, isBlank c = true)
      (more : Spaced pieces rest) : Spaced (piece :: pieces) (lead ++ (piece ++ rest))

/-- Blanks in front of a text make no difference to its words. -/
theorem words_append {lead : List Char} (blank : ∀ c ∈ lead, isBlank c = true) (text : List Char) :
    words (lead ++ text) = words text := by
  induction lead with
  | nil => rfl
  | cons c lead ih =>
    have cut : (c :: (lead ++ text)).splitOnP isBlank = [] :: (lead ++ text).splitOnP isBlank :=
      List.splitOnP_append_cons_of_forall_mem (List.forall_mem_nil _) c (blank c List.mem_cons_self) _
    rw [← ih fun other inside => blank other (List.mem_cons_of_mem c inside), words,
      List.cons_append, cut]
    rfl

/-- A word with a blank behind it, or nothing, is the first word. -/
theorem words_cons {piece rest : List Char} (some : piece ≠ [])
    (solid : ∀ c ∈ piece, isBlank c = false) (apart : ∀ c ∈ rest.head?, isBlank c = true) :
    words (piece ++ rest) = piece :: words rest := by
  have kept (pieces : List (List Char)) : (piece :: pieces).filter (! ·.isEmpty) =
      piece :: pieces.filter (! ·.isEmpty) :=
    List.filter_cons_of_pos (by simpa using some)
  cases rest with
  | nil =>
    rw [List.append_nil, words, List.splitOnP_eq_singleton solid, kept]
    rfl
  | cons c rest =>
    have blank : isBlank c = true := apart c rfl
    have behind : words (c :: rest) = words rest :=
      words_append (List.forall_mem_singleton.mpr blank) rest
    rw [behind, words, List.splitOnP_append_cons_of_forall_mem solid c blank, kept]
    rfl

/-- Pieces with blanks around them fall apart again. -/
theorem Spaced.words_eq {pieces : List (List Char)} {text : List Char} (spaced : Spaced pieces text)
    (solid : ∀ piece ∈ pieces, piece ≠ [] ∧ ∀ c ∈ piece, isBlank c = false) :
    words text = pieces := by
  induction spaced with
  | @ends trail blank =>
    have alone := words_append blank []
    rwa [List.append_nil] at alone
  | @piece lead piece rest pieces blank apart more ih =>
    obtain ⟨some, whole⟩ := solid piece List.mem_cons_self
    rw [words_append blank, words_cons some whole apart,
      ih fun other inside => solid other (List.mem_cons_of_mem piece inside)]

/-- Nothing but the pieces and blanks stands in a spaced text. -/
theorem Spaced.mem {pieces : List (List Char)} {text : List Char} (spaced : Spaced pieces text)
    {c : Char} (inside : c ∈ text) : isBlank c = true ∨ ∃ piece ∈ pieces, c ∈ piece := by
  induction spaced with
  | ends blank => exact .inl (blank c inside)
  | @piece lead piece rest pieces blank apart more ih =>
    rcases List.mem_append.mp inside with leading | later
    · exact .inl (blank c leading)
    · rcases List.mem_append.mp later with own | behind
      · exact .inr ⟨piece, List.mem_cons_self, own⟩
      · exact (ih behind).imp_right fun ⟨other, among, found⟩ =>
          ⟨other, List.mem_cons_of_mem piece among, found⟩

/-- A blank may stand in front of a text with blanks between its pieces. -/
theorem Spaced.cons_blank {pieces : List (List Char)} {text : List Char} (spaced : Spaced pieces text)
    {c : Char} (blank : isBlank c = true) : Spaced pieces (c :: text) := by
  cases spaced with
  | ends blanks => exact .ends (List.forall_mem_cons.mpr ⟨blank, blanks⟩)
  | piece blanks apart more => exact .piece (List.forall_mem_cons.mpr ⟨blank, blanks⟩) apart more

/-- One blank between each two pieces is enough. -/
theorem spaced_intercalate (pieces : List (List Char)) :
    Spaced pieces ([' '].intercalate pieces) := by
  have blank : isBlank ' ' = true := by decide
  induction pieces with
  | nil => exact .ends (List.forall_mem_nil _)
  | cons piece pieces ih =>
    cases pieces with
    | nil =>
      have alone : Spaced [piece] ([] ++ (piece ++ [])) :=
        .piece (List.forall_mem_nil _) (by simp) (.ends (List.forall_mem_nil _))
      rw [List.nil_append, List.append_nil] at alone
      rwa [List.intercalate_singleton]
    | cons next pieces =>
      rw [List.intercalate_cons_cons, List.append_assoc]
      exact .piece (List.forall_mem_nil _) (by simp [blank]) (ih.cons_blank blank)

/-- A piece can be a word: it is not empty and holds no blank. -/
def IsWord (piece : List Char) : Prop := piece ≠ [] ∧ ∀ c ∈ piece, isBlank c = false

instance (piece : List Char) : Decidable (IsWord piece) := inferInstanceAs (Decidable (_ ∧ _))

/-- A text that holds more than blanks has a first word, with blanks in front of it or none, and one
behind it unless the text ends there. -/
theorem exists_first_word {text : List Char} (some : ∃ c ∈ text, isBlank c = false) :
    ∃ lead piece rest, text = lead ++ (piece ++ rest) ∧ (∀ c ∈ lead, isBlank c = true) ∧
      IsWord piece ∧ ∀ c ∈ rest.head?, isBlank c = true := by
  let core := text.dropWhile isBlank
  have stays : core ≠ [] := by
    intro gone
    obtain ⟨c, inside, solid⟩ := some
    have blank := List.dropWhile_eq_nil_iff.mp gone c inside
    rw [solid] at blank
    exact Bool.noConfusion blank
  have starts := List.head_dropWhile_not isBlank stays
  have stops := List.head?_dropWhile_not (! isBlank ·) core
  have filled : core.takeWhile (! isBlank ·) ≠ [] := by
    rw [← List.cons_head_tail stays, List.takeWhile_cons_of_pos (by simpa using starts)]
    exact List.cons_ne_nil _ _
  refine ⟨text.takeWhile isBlank, core.takeWhile (! isBlank ·), core.dropWhile (! isBlank ·), ?_,
    fun c inside => List.mem_takeWhile_imp inside, ⟨filled, fun c inside => ?_⟩, fun c first => ?_⟩
  · rw [List.takeWhile_append_dropWhile, List.takeWhile_append_dropWhile]
  · simpa using List.mem_takeWhile_imp inside
  · rw [Option.mem_def.mp first] at stops
    simpa using stops

/-- The words of a text have blanks around them, and hold none. -/
theorem spaced_words (text : List Char) :
    Spaced (words text) text ∧ ∀ piece ∈ words text, IsWord piece := by
  by_cases some : ∃ c ∈ text, isBlank c = false
  · obtain ⟨lead, piece, rest, whole, blank, word, apart⟩ := exists_first_word some
    have shorter : rest.length < text.length := by
      have filled := List.length_pos_iff.mpr word.1
      rw [whole, List.length_append, List.length_append]
      omega
    have ⟨more, others⟩ := spaced_words rest
    have first : words text = piece :: words rest := by
      rw [whole, words_append blank, words_cons word.1 word.2 apart]
    rw [first]
    refine ⟨?_, List.forall_mem_cons.mpr ⟨word, others⟩⟩
    rw [whole]
    exact .piece blank apart more
  · have blank : ∀ c ∈ text, isBlank c = true := by simpa using some
    have none : words text = [] := (Spaced.ends blank).words_eq (List.forall_mem_nil _)
    rw [none]
    exact ⟨.ends blank, List.forall_mem_nil _⟩
termination_by text.length

/-- The words of a text are the only pieces without blanks that are so spaced in it. -/
theorem words_eq_iff {text : List Char} {pieces : List (List Char)} :
    words text = pieces ↔ Spaced pieces text ∧ ∀ piece ∈ pieces, IsWord piece := by
  constructor
  · rintro rfl
    exact spaced_words text
  · rintro ⟨spaced, solid⟩
    exact spaced.words_eq solid

/-- A text begins with a word: in front of it stand blanks or nothing, and behind it a blank, unless
the text ends there. -/
inductive FirstWord : List Char → List Char → Prop
  | intro {lead word rest : List Char} (blank : ∀ c ∈ lead, isBlank c = true)
      (isWord : IsWord word) (apart : ∀ c ∈ rest.head?, isBlank c = true) :
      FirstWord (lead ++ (word ++ rest)) word

/-- The word that a text begins with is the first of its words. -/
theorem firstWord_iff {text word : List Char} :
    FirstWord text word ↔ (words text).head? = some word := by
  constructor
  · rintro ⟨blank, isWord, apart⟩
    rw [words_append blank, words_cons isWord.1 isWord.2 apart, List.head?_cons]
  · intro first
    obtain ⟨others, found⟩ := List.head?_eq_some_iff.mp first
    obtain ⟨spaced, areWords⟩ := words_eq_iff.mp found
    cases spaced with
    | piece blank apart more => exact ⟨blank, areWords word List.mem_cons_self, apart⟩

end CableMap.Text
