import CableMap.Proofs.Binding.Mention
import CableMap.Proofs.Trace
import CableMap.Walk.Batch

/-!
# What the outputs of a catalog are read as

The outputs of the walks of a catalog follow each other, each ended by a newline, and are read as
one text. Whatever the text says, it gives bindings of that catalog only. Where the lines of every
output mention no identifier but the one that was walked, the text is read output by output: which
catalog it is read with, and what else was walked, makes no difference to an output.
-/
namespace CableMap

/-! ## Outputs that follow each other -/

namespace Walk

/-- Outputs one after the other, each ended by a newline, behind a text. -/
def joined (text : String) (outputs : List String) : String :=
  outputs.foldl (fun text output => endLine (text ++ output)) text

/-- A newline is put behind a text that does not end with one. -/
theorem toList_endLine (text : String) :
    (endLine text).toList =
      if text.toList.getLast? = some '\n' then text.toList else text.toList ++ ['\n'] := by
  unfold endLine
  split
  · rfl
  · rw [String.toList_append]
    rfl

/-- A text to which nothing or whole lines were joined. -/
def Ended (text : String) : Prop := text.toList = [] ∨ text.toList.getLast? = some '\n'

/-- With its newline a text ends where a line does. -/
theorem ended_endLine (text : String) : Ended (endLine text) := by
  rw [Ended, toList_endLine]
  split
  · exact .inr ‹_›
  · exact .inr List.getLast?_concat

/-- What reads nothing from an empty line reads an output behind whole lines as it reads the output
alone. -/
theorem flatMap_lines_endLine {α : Type} {read : List Char → List α} (blank : read [] = [])
    {text : String} (ended : Ended text) (output : String) :
    (Text.lines (endLine (text ++ output)).toList).flatMap read =
      (Text.lines text.toList).flatMap read ++ (Text.lines (endLine output).toList).flatMap read := by
  rcases ended with empty | ended
  · have start : text = "" := String.toList_eq_nil_iff.mp empty
    rw [start, String.empty_append]
    rfl
  · by_cases empty : output = ""
    · have alone : Text.lines (endLine "").toList = [[]] := by decide
      rw [empty, String.append_empty, toList_endLine, if_pos ended, alone, List.flatMap_singleton,
        blank, List.append_nil]
    · obtain ⟨before, whole⟩ := List.getLast?_eq_some_iff.mp ended
      have some : output.toList ≠ [] := mt String.toList_eq_nil_iff.mp empty
      have behind : (endLine (text ++ output)).toList = before ++ '\n' :: (endLine output).toList := by
        rw [toList_endLine, toList_endLine, String.toList_append,
          List.getLast?_append_of_ne_nil _ some, whole]
        split <;> simp
      rw [behind, Text.lines_append_newline, List.flatMap_append, whole]

/-- What reads nothing from an empty line reads outputs one by one. -/
theorem flatMap_lines_joined {α : Type} {read : List Char → List α} (blank : read [] = [])
    {text : String} (ended : Ended text) (outputs : List String) :
    (Text.lines (joined text outputs).toList).flatMap read =
      (Text.lines text.toList).flatMap read ++ outputs.flatMap fun output =>
        (Text.lines (endLine output).toList).flatMap read := by
  induction outputs generalizing text with
  | nil => exact (List.append_nil _).symm
  | cons output outputs ih =>
    have rest := ih (ended_endLine (text ++ output))
    rw [flatMap_lines_endLine blank ended, List.append_assoc] at rest
    exact rest

/-- What reads nothing from an empty line reads an output that does not end in a return as it reads
it with a newline at its end. -/
theorem flatMap_lines_endLine_of_bare {α : Type} {read : List Char → List α} (blank : read [] = [])
    {output : String} (bare : output.toList.getLast? ≠ some '\r') :
    (Text.lines (endLine output).toList).flatMap read =
      (Text.lines output.toList).flatMap read := by
  rw [toList_endLine]
  split
  · rfl
  · rename_i unended
    cases last : output.toList.getLast? with
    | none =>
      rw [List.getLast?_eq_none_iff.mp last]
      have alone : Text.lines ([] ++ ['\n']) = [[]] := by decide
      rw [alone, List.flatMap_singleton, blank]
      rfl
    | some c =>
      have plain : c ≠ '\n' ∧ c ≠ '\r' :=
        ⟨fun same => unended (same ▸ last), fun same => bare (same ▸ last)⟩
      rw [Text.lines_concat_newline_of_getLast? last plain]

/-- A newline at the end of a text makes no difference to what it mentions. -/
theorem isMentionedIn_endLine {oid : Oid} (oneLine : '\n' ∉ oid.toList) (text : String) :
    oid.isMentionedIn (endLine text) = oid.isMentionedIn text := by
  unfold Oid.isMentionedIn Oid.mention?
  rw [toList_endLine]
  split
  · rfl
  · rw [Oid.mentionFrom_append_cons oneLine (by decide) (Nat.zero_le _)]
    simp [Oid.mentionFrom]

/-- An identifier is mentioned in an output behind whole lines if it is in the lines or in the
output: no mention goes on behind a newline. -/
theorem isMentionedIn_append {oid : Oid} (oneLine : '\n' ∉ oid.toList) {text : String}
    (ended : Ended text) (output : String) :
    oid.isMentionedIn (text ++ output) = (oid.isMentionedIn text || oid.isMentionedIn output) := by
  rcases ended with empty | ended
  · have start : text = "" := String.toList_eq_nil_iff.mp empty
    rw [start, String.empty_append]
    rfl
  · obtain ⟨before, whole⟩ := List.getLast?_eq_some_iff.mp ended
    have cut (behind : List Char) : (Oid.mentionFrom oid.toList 0 (before ++ '\n' :: behind)).isSome =
        ((Oid.mentionFrom oid.toList 0 before).isSome ||
          (Oid.mentionFrom oid.toList 0 behind).isSome) := by
      rw [Oid.mentionFrom_append_cons oneLine (by decide) (Nat.zero_le _), Option.isSome_or,
        Option.isSome_map]
    have alone := cut []
    have nothing : Oid.mentionFrom oid.toList 0 [] = none := rfl
    rw [nothing, Option.isSome_none, Bool.or_false] at alone
    unfold Oid.isMentionedIn Oid.mention?
    rw [String.toList_append, whole, List.append_assoc, List.singleton_append, cut, alone]

/-- An identifier is mentioned in outputs one after the other if it is in one of them. -/
theorem isMentionedIn_joined {oid : Oid} (oneLine : '\n' ∉ oid.toList) {text : String}
    (ended : Ended text) (outputs : List String) :
    oid.isMentionedIn (joined text outputs) =
      (oid.isMentionedIn text || outputs.any fun output => oid.isMentionedIn output) := by
  induction outputs generalizing text with
  | nil => exact (Bool.or_false _).symm
  | cons output outputs ih =>
    have rest := ih (ended_endLine (text ++ output))
    rw [isMentionedIn_endLine oneLine, isMentionedIn_append oneLine ended, Bool.or_assoc] at rest
    exact rest

end Walk

/-! ## Bindings of a catalog -/

namespace Binding

variable {catalog : Catalog} {host : Ipv4} {log : Log.Logger}

/-- The binding of a line that belongs to the identifier that was walked. -/
def ofOwnLine? (oid : Oid) (line : List Char) : Option Binding :=
  (oid.mention? line).bind (ofRest? oid)

/-- The bindings of the output of a walk. -/
def ofOutput (oid : Oid) (output : String) : List Binding :=
  (Text.lines (Walk.endLine output).toList).filterMap (ofOwnLine? oid)

/-- What is read behind an identifier is filed under it. -/
theorem oid_of_ofRest? {oid : Oid} {rest : List Char} {binding : Binding}
    (read : ofRest? oid rest = some binding) : binding.oid = oid := by
  unfold ofRest? at read
  simp only [Option.bind_eq_bind, Option.bind_eq_some_iff] at read
  obtain ⟨_, _, _, _, made⟩ := read
  rw [← Option.some.inj made]

/-- Every binding of an output that was walked is filed under the identifier that was walked. -/
theorem oid_of_mem_ofOutput {oid : Oid} {output : String} {binding : Binding}
    (inside : binding ∈ ofOutput oid output) : binding.oid = oid := by
  obtain ⟨line, _, read⟩ := List.mem_filterMap.mp inside
  obtain ⟨rest, _, read⟩ := Option.bind_eq_some_iff.mp read
  exact oid_of_ofRest? read

/-- A line is read for the first identifier that it mentions. -/
theorem value_ofLine?_eq (line : List Char) :
    (ofLine? catalog host log line).value =
      (catalog.mentions line).head?.bind fun mention => ofRest? mention.1 mention.2 := by
  unfold ofLine?
  split
  · rename_i none
    rw [none]
    rfl
  · rename_i oid rest others some
    rw [some]
    -- What else the line mentions, and whether it is a binding, decides only what is logged.
    simp only [List.head?_cons, Option.bind_some]
    split <;> split <;> rfl

/-- A text gives the bindings of its lines, in their order. -/
theorem value_readAll_eq (catalog : Catalog) (host : Ipv4) (log : Log.Logger) (text : String) :
    (readAll catalog host log text).value =
      (Text.lines text.toList).filterMap fun line => (ofLine? catalog host log line).value := by
  rw [readAll, Traced.value_bind, Traced.value_mapM, Traced.value_pure, List.filterMap_map]
  rfl

/-- What is said of a text is what is said of each of its lines, in their order. -/
theorem events_readAll (catalog : Catalog) (host : Ipv4) (log : Log.Logger) (text : String) :
    (readAll catalog host log text).events =
      (Text.lines text.toList).flatMap fun line => (ofLine? catalog host log line).events := by
  rw [readAll, Traced.events_bind, Traced.events_mapM, Traced.events_pure, List.append_nil]

/-- An empty line is passed over. -/
theorem ofLine?_nil (catalog : Catalog) (host : Ipv4) (log : Log.Logger) :
    ofLine? catalog host log [] = pure none := by
  have nothing : catalog.mentions [] = [] := List.filterMap_eq_nil_iff.mpr fun _ _ => rfl
  rw [ofLine?, nothing]

/-- Whatever a text says, it gives bindings of the catalog that it is read with. -/
theorem oid_mem_of_mem_readAll {text : String} {binding : Binding}
    (inside : binding ∈ (readAll catalog host log text).value) : binding.oid ∈ catalog := by
  rw [value_readAll_eq] at inside
  obtain ⟨line, _, read⟩ := List.mem_filterMap.mp inside
  rw [value_ofLine?_eq] at read
  obtain ⟨⟨oid, rest⟩, first, read⟩ := Option.bind_eq_some_iff.mp read
  obtain ⟨other, among, mentioned⟩ := List.mem_filterMap.mp (List.mem_of_head? first)
  obtain ⟨_, _, same⟩ := Option.map_eq_some_iff.mp mentioned
  rw [oid_of_ofRest? read, ← congrArg Prod.fst same]
  exact among

/-! ## Outputs that keep to their identifier -/

/-- No line of a text mentions an identifier other than one. -/
def KeepsTo (oid : Oid) (text : String) : Prop :=
  ∀ line ∈ Text.lines text.toList, ∀ other ∈ Catalog.full, other ≠ oid → other.mention? line = none

instance (oid : Oid) (text : String) : Decidable (KeepsTo oid text) :=
  inferInstanceAs (Decidable (∀ line ∈ Text.lines text.toList, ∀ other ∈ Catalog.full,
    other ≠ oid → other.mention? line = none))

/-- A text that keeps to an identifier does so when it is ended by a newline. -/
theorem KeepsTo.endLine {oid : Oid} {text : String} (keeps : KeepsTo oid text) :
    KeepsTo oid (Walk.endLine text) := by
  intro line inside other among apart
  rw [Walk.toList_endLine] at inside
  split at inside
  · exact keeps line inside other among apart
  · rcases Text.mem_lines_concat_newline inside with kept | returned | empty
    · exact keeps line kept other among apart
    · have foreign : '\r' ∉ other.toList :=
        (Catalog.full_isNumeric other among).not_mem (by decide)
      have unmentioned := keeps _ returned other among apart
      rw [Oid.mention?, Oid.mentionFrom_append_cons foreign (by decide) (Nat.zero_le _),
        Option.or_eq_none_iff] at unmentioned
      exact Option.map_eq_none_iff.mp unmentioned.1
    · rw [empty]
      rfl

/-- A line that mentions no identifier but one of the catalog is read for that one. -/
theorem value_ofLine?_of_own {oid : Oid} (among : oid ∈ catalog) {line : List Char}
    (own : ∀ other ∈ catalog, other ≠ oid → other.mention? line = none) :
    (ofLine? catalog host log line).value = ofOwnLine? oid line := by
  rw [value_ofLine?_eq, ofOwnLine?]
  cases mentioned : oid.mention? line with
  | none =>
    have nothing : catalog.mentions line = [] := by
      apply List.filterMap_eq_nil_iff.mpr
      intro other inside
      by_cases same : other = oid
      · rw [same, mentioned, Option.map_none]
      · rw [own other inside same, Option.map_none]
    rw [nothing]
    rfl
  | some rest =>
    have unmentioned : ∀ other ∈ catalog.before oid, other.mention? line = none := by
      intro other earlier
      apply own other (Catalog.mem_of_mem_before earlier)
      simpa using List.mem_takeWhile_imp earlier
    obtain ⟨others, first⟩ := Catalog.mentions_eq among mentioned unmentioned
    rw [first]
    rfl

/-- An output that keeps to its identifier is read the same with every catalog of which that is
one. -/
theorem filterMap_ofLine?_of_keepsTo {oid : Oid} (among : oid ∈ catalog)
    (covered : ∀ oid ∈ catalog, oid ∈ Catalog.full) {output : String} (keeps : KeepsTo oid output) :
    ((Text.lines (Walk.endLine output).toList).filterMap fun line =>
      (ofLine? catalog host log line).value) = ofOutput oid output := by
  apply List.filterMap_congr
  intro line inside
  apply value_ofLine?_of_own among
  intro other known apart
  exact keeps.endLine line inside other (covered other known) apart

/-- The outputs of a catalog that keep to their identifiers are read one by one. -/
theorem value_readAll_joined (covered : ∀ oid ∈ catalog, oid ∈ Catalog.full)
    {output : Oid → String} (keeps : ∀ oid ∈ catalog, KeepsTo oid (output oid)) :
    (readAll catalog host log (Walk.joined "" (catalog.map output))).value =
      catalog.flatMap fun oid => ofOutput oid (output oid) := by
  have blank : (ofLine? catalog host log []).value.toList = [] := by rw [ofLine?_nil]; rfl
  rw [value_readAll_eq, List.filterMap_eq_flatMap_toList, Walk.flatMap_lines_joined blank (.inl rfl),
    List.flatMap_map]
  apply List.flatMap_congr
  intro oid among
  rw [← List.filterMap_eq_flatMap_toList]
  exact filterMap_ofLine?_of_keepsTo among covered (keeps oid among)

/-! ## Outputs read one by one -/

/-- A text is read as some outputs are: it gives their bindings, with the same logged on the way, and
mentions what one of them mentions. -/
structure ReadsAs (text : String) (outputs : List String) : Prop where
  /-- The bindings are those of the outputs, in order. -/
  bindings : ∀ catalog host log, (readAll catalog host log text).value =
    outputs.flatMap fun output => (readAll catalog host log output).value
  /-- What is logged is what is logged for the outputs, in order. -/
  logged : ∀ catalog host log, (readAll catalog host log text).events =
    outputs.flatMap fun output => (readAll catalog host log output).events
  /-- An identifier of one line is mentioned if an output mentions it. -/
  mentioned : ∀ oid : Oid, '\n' ∉ oid.toList →
    (oid.isMentionedIn text ↔ ∃ output ∈ outputs, oid.isMentionedIn output)

/-- Outputs one after the other, each ended by a newline, are read as the outputs are if none of them
ends in a return. -/
theorem readsAs_joined {outputs : List String}
    (bare : ∀ output ∈ outputs, output.toList.getLast? ≠ some '\r') :
    ReadsAs (Walk.joined "" outputs) outputs where
  bindings catalog host log := by
    have blank : (ofLine? catalog host log []).value.toList = [] := by rw [ofLine?_nil]; rfl
    simp only [value_readAll_eq, List.filterMap_eq_flatMap_toList]
    rw [Walk.flatMap_lines_joined blank (.inl rfl)]
    exact List.flatMap_congr fun output inside =>
      Walk.flatMap_lines_endLine_of_bare blank (bare output inside)
  logged catalog host log := by
    have blank : (ofLine? catalog host log []).events = [] := by rw [ofLine?_nil]; rfl
    simp only [events_readAll]
    rw [Walk.flatMap_lines_joined blank (.inl rfl)]
    exact List.flatMap_congr fun output inside =>
      Walk.flatMap_lines_endLine_of_bare blank (bare output inside)
  mentioned oid oneLine := by
    rw [Walk.isMentionedIn_joined oneLine (.inl rfl), Bool.or_eq_true, List.any_eq_true]
    exact or_iff_right Bool.false_ne_true

/-! ## Columns -/

/-- The column of an identifier in two lists is its column in the first and then in the second. -/
theorem column_append (left right : List Binding) (oid : Oid) :
    column (left ++ right) oid = column left oid ++ column right oid :=
  List.filter_append left right

/-- An output fills the column of its identifier and no other. -/
theorem column_ofOutput (walked : Oid) (output : String) (oid : Oid) :
    column (ofOutput walked output) oid = if oid = walked then ofOutput walked output else [] := by
  split
  · rename_i same
    apply List.filter_eq_self.mpr
    intro binding inside
    exact decide_eq_true ((oid_of_mem_ofOutput inside).trans same.symm)
  · rename_i apart
    apply List.filter_eq_nil_iff.mpr
    intro binding inside
    rw [oid_of_mem_ofOutput inside, decide_eq_true_eq]
    exact Ne.symm apart

/-- The column of an identifier holds what was read of its output. -/
theorem column_flatMap_ofOutput (nodup : catalog.Nodup) (output : Oid → String) (oid : Oid) :
    column (catalog.flatMap fun oid => ofOutput oid (output oid)) oid =
      if oid ∈ catalog then ofOutput oid (output oid) else [] := by
  induction catalog with
  | nil => rfl
  | cons walked catalog ih =>
    obtain ⟨fresh, rest⟩ := List.nodup_cons.mp nodup
    rw [List.flatMap_cons, column_append, column_ofOutput, ih rest]
    by_cases same : oid = walked
    · rw [if_pos same, if_neg (same ▸ fresh), if_pos (same ▸ List.mem_cons_self), same,
        List.append_nil]
    · rw [if_neg same, List.nil_append]
      simp only [List.mem_cons, same, false_or]

end Binding

end CableMap
