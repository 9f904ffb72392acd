import CableMap.Proofs.Address.Ipv4
import CableMap.Proofs.Text.Words
import CableMap.Trap

/-!
# Which lines announce traps

A line announces a trap by two words. The second is the address of the source, in brackets and
before a colon or not; the first is only asked for the time. A line that names the trap daemon
announces nothing, whatever else it says.
-/
namespace CableMap.TrapNotice

variable {line word : List Char} {source : Ipv4}

/-- An address is read with brackets in front of it, and brackets and colons behind it. -/
theorem source?_eq_some_iff :
    source? word = some source ↔ ∃ opening quad closing, word = opening ++ (quad ++ closing) ∧
      (∀ c ∈ opening, c = '[') ∧ (∀ c ∈ closing, c = ']' ∨ c = ':') ∧
        Ipv4.ofChars? quad = some source := by
  constructor
  · intro read
    obtain ⟨opening, front, opened⟩ := Text.exists_stripStart (· = '[') word
    obtain ⟨closing, back, closed⟩ := Text.exists_stripEnd (fun c => c = ']' || c = ':')
      (Text.stripStart (· = '[') word)
    refine ⟨opening, _, closing, ?_, by simpa using opened, by simpa using closed, read⟩
    rw [← back, ← front]
  · rintro ⟨opening, quad, closing, rfl, opened, closed, read⟩
    -- The address holds none of the marks, so no more than they is stripped.
    have whole : quad = source.chars := Ipv4.ofChars?_eq_some_iff.mp read
    have plain : ∀ c ∈ quad, c ≠ '[' ∧ c ≠ ']' ∧ c ≠ ':' := by
      intro c inside
      rw [whole] at inside
      rcases Ipv4.mem_chars inside with rfl | digit
      · decide
      · refine ⟨?_, ?_, ?_⟩ <;> rintro rfl <;> exact absurd digit (by decide)
    have some : quad ≠ [] := List.ne_nil_of_mem (whole ▸ source.dot_mem_chars)
    have front : Text.stripStart (· = '[') (opening ++ (quad ++ closing)) = quad ++ closing := by
      rw [Text.stripStart_append (by simpa using opened)]
      refine Text.stripStart_eq_self fun c first => ?_
      rw [List.head?_append_of_ne_nil _ some] at first
      simpa using (plain c (List.mem_of_mem_head? first)).1
    have back : Text.stripEnd (fun c => c = ']' || c = ':') (quad ++ closing) = quad := by
      rw [Text.stripEnd_append (by simpa using closed)]
      refine Text.stripEnd_eq_self fun c last => ?_
      simpa using (plain c (List.mem_of_getLast? last)).2
    rw [source?, front, back, read]

/-- A notice is read from two words of a line that does not name the trap daemon. -/
theorem ofLine?_eq_some_iff {notice : TrapNotice} :
    ofLine? line = some notice ↔ ∃ time word, Text.words line = [time, word] ∧
      ¬ daemonName.toList <:+: line ∧ source? word = some notice.source ∧
        notice.at? = Instant.ofRfc3339? time := by
  unfold ofLine?
  rw [← Text.occursIn_iff]
  constructor
  · intro read
    split at read
    · rename_i time word words
      split_ifs at read with named
      obtain ⟨source, found, rfl⟩ := Option.map_eq_some_iff.mp read
      exact ⟨time, word, words, named, found, rfl⟩
    · cases read
  · rintro ⟨time, word, words, unnamed, found, time_eq⟩
    rw [words]
    dsimp only
    rw [if_neg unnamed, found, Option.map_some, ← time_eq]

/-- A line announces a trap of a source: it is a time and an address with blanks around them, the
address has brackets in front of it, and brackets and colons behind it, as many as one likes, and
the trap daemon is not named. -/
inductive Announces (line time : List Char) (source : Ipv4) : Prop
  | intro {opening quad closing : List Char}
      (spaced : Text.Spaced [time, opening ++ (quad ++ closing)] line)
      (time_isWord : Text.IsWord time) (address_isWord : Text.IsWord (opening ++ (quad ++ closing)))
      (opened : ∀ c ∈ opening, c = '[') (closed : ∀ c ∈ closing, c = ']' ∨ c = ':')
      (address : Ipv4.ofChars? quad = some source) (unnamed : ¬ daemonName.toList <:+: line)

/-- A line announces a trap exactly if it has two words, does not name the daemon, and the second
word is a source. -/
theorem announces_iff {time : List Char} :
    Announces line time source ↔ ∃ word, Text.words line = [time, word] ∧
      ¬ daemonName.toList <:+: line ∧ source? word = some source := by
  constructor
  · rintro ⟨spaced, time_isWord, address_isWord, opened, closed, address, unnamed⟩
    refine ⟨_, Text.words_eq_iff.mpr ⟨spaced, ?_⟩, unnamed,
      source?_eq_some_iff.mpr ⟨_, _, _, rfl, opened, closed, address⟩⟩
    exact List.forall_mem_cons.mpr ⟨time_isWord, List.forall_mem_singleton.mpr address_isWord⟩
  · rintro ⟨word, words, unnamed, found⟩
    obtain ⟨opening, quad, closing, rfl, opened, closed, address⟩ := source?_eq_some_iff.mp found
    obtain ⟨spaced, areWords⟩ := Text.words_eq_iff.mp words
    have ⟨time_isWord, second⟩ := List.forall_mem_cons.mp areWords
    have address_isWord := List.forall_mem_singleton.mp second
    exact ⟨spaced, time_isWord, address_isWord, opened, closed, address, unnamed⟩

/-- The source by the words behind the first: there is one, and it is an address. -/
def sourceBehind? : List (List Char) → Option Ipv4
  | [word] => source? word
  | _ => none

/-- The source of a line that does not name the trap daemon is told by what stands behind its first
word. -/
theorem source_ofLine?_of_unnamed {lead first rest : List Char}
    (blank : ∀ c ∈ lead, Text.isBlank c = true) (isWord : Text.IsWord first)
    (apart : ∀ c ∈ rest.head?, Text.isBlank c = true)
    (unnamed : ¬ daemonName.toList <:+: lead ++ (first ++ rest)) :
    (ofLine? (lead ++ (first ++ rest))).map (·.source) = sourceBehind? (Text.words rest) := by
  have words : Text.words (lead ++ (first ++ rest)) = first :: Text.words rest := by
    rw [Text.words_append blank, Text.words_cons isWord.1 isWord.2 apart]
  rw [← Text.occursIn_iff] at unnamed
  unfold ofLine?
  rw [words]
  rcases Text.words rest with - | ⟨word, - | ⟨third, more⟩⟩
  · rfl
  · dsimp only
    rw [if_neg unnamed, Option.map_map]
    exact Option.map_id'
  · rfl

/-- Another first word makes no difference to the source of a line, if the trap daemon is named
with neither. -/
theorem source_ofLine?_congr {lead time other rest : List Char}
    (blank : ∀ c ∈ lead, Text.isBlank c = true) (time_isWord : Text.IsWord time)
    (other_isWord : Text.IsWord other) (apart : ∀ c ∈ rest.head?, Text.isBlank c = true)
    (unnamed : ¬ daemonName.toList <:+: lead ++ (time ++ rest))
    (stillUnnamed : ¬ daemonName.toList <:+: lead ++ (other ++ rest)) :
    (ofLine? (lead ++ (other ++ rest))).map (·.source) =
      (ofLine? (lead ++ (time ++ rest))).map (·.source) := by
  rw [source_ofLine?_of_unnamed blank other_isWord apart stillUnnamed,
    source_ofLine?_of_unnamed blank time_isWord apart unnamed]

/-- What is recognised in a line. -/
structure Recognised (line : List Char) : Prop where
  /-- A trap of a source is recognised exactly in a line that announces one. -/
  source_iff : ∀ source, (∃ notice, ofLine? line = some notice ∧ notice.source = source) ↔
    ∃ time, Announces line time source
  /-- When it came is what the first word says. -/
  time_eq : ∀ notice time, ofLine? line = some notice → Announces line time notice.source →
    notice.at? = Instant.ofRfc3339? time
  /-- Whatever other first word the line has, a trap of the same source is recognised, or none as
  before, if the trap daemon is still not named. -/
  any_time : ∀ lead time other rest, line = lead ++ (time ++ rest) →
    (∀ c ∈ lead, Text.isBlank c = true) → Text.IsWord time → Text.IsWord other →
    (∀ c ∈ rest.head?, Text.isBlank c = true) → ¬ daemonName.toList <:+: line →
    ¬ daemonName.toList <:+: lead ++ (other ++ rest) →
    (ofLine? (lead ++ (other ++ rest))).map (·.source) = (ofLine? line).map (·.source)

/-- Whatever a line says, traps are recognised in it exactly as it announces them. -/
theorem recognised_as_announced (line : List Char) : Recognised line where
  source_iff source := by
    constructor
    · rintro ⟨notice, read, rfl⟩
      obtain ⟨time, word, words, unnamed, found, _⟩ := ofLine?_eq_some_iff.mp read
      exact ⟨time, announces_iff.mpr ⟨word, words, unnamed, found⟩⟩
    · rintro ⟨time, announces⟩
      obtain ⟨word, words, unnamed, found⟩ := announces_iff.mp announces
      exact ⟨⟨Instant.ofRfc3339? time, source⟩,
        ofLine?_eq_some_iff.mpr ⟨time, word, words, unnamed, found, rfl⟩, rfl⟩
  time_eq notice time read announces := by
    obtain ⟨own, word, words, _, _, time_eq⟩ := ofLine?_eq_some_iff.mp read
    obtain ⟨other, same, _, _⟩ := announces_iff.mp announces
    have first : own = time := (List.cons.inj (words.symm.trans same)).1
    rw [time_eq, first]
  any_time lead time other rest whole blank time_isWord other_isWord apart unnamed
      stillUnnamed := by
    subst whole
    exact source_ofLine?_congr blank time_isWord other_isWord apart unnamed stillUnnamed

end CableMap.TrapNotice
