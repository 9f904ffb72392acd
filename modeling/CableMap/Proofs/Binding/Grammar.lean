import CableMap.Proofs.Binding.Batch
import CableMap.Proofs.Binding.Occurrence
import Mathlib.Data.List.Forall2

/-!
# The grammar of walk output

What a line gives is said here without the reader. A line that mentions no identifier of the catalog
gives nothing. Any other is filed under the first identifier of the catalog that it mentions, and
what follows the leftmost mention is an index up to the first equals sign, a type up to the first
colon behind it, and a value; if a sign is missing there is no binding but a warning. A line that
mentions several identifiers gives a warning for that as well. The reader gives exactly this, line
by line, so every line that mentions an identifier is accounted for.
-/
namespace CableMap

/-- A catalog in which every mention of an identifier is found. -/
structure Catalog.Searchable (catalog : Catalog) : Prop where
  nodup : catalog.Nodup
  named : ∀ oid ∈ catalog, oid.toList ≠ []
  unhidden : ∀ oid ∈ catalog, oid.Unhidden

namespace Catalog

/-- Every mention of an identifier of the full catalog is found. -/
theorem full_searchable : full.Searchable where
  nodup := full_nodup
  named := by decide +kernel
  unhidden := full_unhidden

/-- Every mention of an identifier of the catalog of tables is found. -/
theorem tables_searchable : tables.Searchable where
  nodup := tables_nodup
  named oid among := full_searchable.named oid (tables_sublist.subset among)
  unhidden oid among := full_unhidden oid (tables_sublist.subset among)

namespace Searchable

variable {catalog : Catalog} {oid : Oid} {line rest : List Char}

/-- The reader finds nothing exactly where an identifier is not mentioned. -/
theorem mention?_eq_none (searchable : catalog.Searchable) (among : oid ∈ catalog) :
    oid.mention? line = none ↔ ¬ oid.Mentioned line :=
  (searchable.unhidden oid among).mention?_eq_none (searchable.named oid among)

/-- What the reader finds is the leftmost mention. -/
theorem mention?_eq_some (searchable : catalog.Searchable) (among : oid ∈ catalog) :
    oid.mention? line = some rest ↔ oid.Leftmost line rest :=
  (searchable.unhidden oid among).mention?_eq_some (searchable.named oid among)

/-- The reader lists nothing exactly where no identifier is mentioned. -/
theorem mentions_eq_nil (searchable : catalog.Searchable) :
    catalog.mentions line = [] ↔ ∀ oid ∈ catalog, ¬ oid.Mentioned line := by
  rw [mentions, List.filterMap_eq_nil_iff]
  exact forall₂_congr fun oid among =>
    Option.map_eq_none_iff.trans (searchable.mention?_eq_none among)

end Searchable

end Catalog

namespace Binding

/-! ## What a line gives -/

/-- A line belongs to the first identifier of the catalog that it mentions. -/
structure Filed (catalog : Catalog) (line : List Char) (oid : Oid) : Prop where
  among : oid ∈ catalog
  first : ∀ other ∈ catalog.before oid, ¬ other.Mentioned line

/-- What follows an identifier falls into an index in front of the first equals sign, a type from
there to the first colon behind it, and a value from there on. -/
structure Parts (rest index type value : List Char) : Prop where
  whole : rest = index ++ (type ++ value)
  index : '=' ∉ index
  equals : type.head? = some '='
  type : ':' ∉ type
  colon : value.head? = some ':'

/-- The binding of an identifier and what follows it, each part without the marks around it. -/
def ofParts (oid : Oid) (index type value : List Char) : Binding where
  oid := oid
  index := String.ofList (Text.stripBoth (fun c => c = '.' || c = ' ') index)
  type := .ofTag (String.ofList (Text.stripBoth (fun c => c = '=' || c = ' ') type))
  value := String.ofList (Text.stripBoth (fun c => c = ':' || c = ' ' || c = '"') value)

/-- The fields of a warning about a line. -/
def lineFields (host : Ipv4) (line : List Char) : List Log.Field :=
  [⟨"host", toString host⟩, ⟨"line", String.ofList line⟩]

/-- The warning that a line mentions several identifiers. -/
def ambiguousLine (host : Ipv4) (log : Log.Logger) (line : List Char) (oid : Oid) : Log.Entry :=
  log.entry .warning s!"line matches multiple OIDs, using {oid}" (lineFields host line)

/-- The warning that a line that mentions an identifier is no binding. -/
def misshapenLine (host : Ipv4) (log : Log.Logger) (line : List Char) : Log.Entry :=
  log.entry .warning "line doesn't contain expected format" (lineFields host line)

variable (catalog : Catalog) (host : Ipv4) (log : Log.Logger)

/-- The warning about a line that mentions identifiers besides its own, if it does. -/
def ambiguity (line : List Char) (oid : Oid) : List Log.Entry :=
  if ∃ other ∈ catalog, other ≠ oid ∧ other.Mentioned line then
    [ambiguousLine host log line oid]
  else []

/-- A line gives a binding or none, and some warnings. -/
inductive Gives (line : List Char) : Option Binding → List Log.Entry → Prop
  /-- A line that mentions nothing is passed over. -/
  | nothing (unmentioned : ∀ oid ∈ catalog, ¬ oid.Mentioned line) : Gives line none []
  /-- A line with both signs gives a binding. -/
  | binding {oid : Oid} {rest index type value : List Char} (filed : Filed catalog line oid)
      (leftmost : oid.Leftmost line rest) (parts : Parts rest index type value) :
      Gives line (some (ofParts oid index type value)) (ambiguity catalog host log line oid)
  /-- A line without one of the signs gives a warning. -/
  | misshapen {oid : Oid} {rest : List Char} (filed : Filed catalog line oid)
      (leftmost : oid.Leftmost line rest)
      (shapeless : ∀ index type value, ¬ Parts rest index type value) :
      Gives line none (ambiguity catalog host log line oid ++ [misshapenLine host log line])

variable {catalog : Catalog} {host : Ipv4} {log : Log.Logger} {line rest : List Char} {oid : Oid}

/-! ## A line gives one thing -/

/-- A line belongs to one identifier of those that it mentions. -/
theorem Filed.unique {other : Oid} (filed : Filed catalog line oid) (mentioned : oid.Mentioned line)
    (otherFiled : Filed catalog line other) (otherMentioned : other.Mentioned line) :
    oid = other := by
  by_contra apart
  rcases Catalog.mem_before_or filed.among otherFiled.among apart with earlier | earlier
  · exact otherFiled.first oid earlier mentioned
  · exact filed.first other earlier otherMentioned

/-- The reader cuts what follows an identifier into its parts. -/
theorem ofRest?_of_parts {index type value : List Char} (parts : Parts rest index type value)
    (oid : Oid) : ofRest? oid rest = some (ofParts oid index type value) := by
  have typed : Text.cutAt? '=' rest = some (index, type ++ value) := by
    refine Text.cutAt?_eq_some.mpr ⟨parts.whole, parts.index, ?_⟩
    rw [List.head?_append, parts.equals]
    rfl
  have valued : Text.cutAt? ':' (type ++ value) = some (type, value) :=
    Text.cutAt?_eq_some.mpr ⟨rfl, parts.type, parts.colon⟩
  simp only [ofRest?, typed, valued, Option.bind_eq_bind, Option.bind_some]
  rfl

/-- Whatever is read behind an identifier falls into an index, a type and a value. -/
theorem exists_parts_of_ofRest? {binding : Binding} (read : ofRest? oid rest = some binding) :
    ∃ index type value, Parts rest index type value ∧ binding = ofParts oid index type value := by
  unfold ofRest? at read
  simp only [Option.bind_eq_bind, Option.bind_eq_some_iff] at read
  obtain ⟨⟨index, typed⟩, indexed, ⟨type, value⟩, valued, made⟩ := read
  obtain ⟨whole, index', equals⟩ := Text.cutAt?_eq_some.mp indexed
  obtain ⟨rfl, type', colon⟩ := Text.cutAt?_eq_some.mp valued
  have some : type ≠ [] := by
    rintro rfl
    rw [List.nil_append, colon] at equals
    exact absurd (Option.some.inj equals) (by decide)
  rw [List.head?_append_of_ne_nil _ some] at equals
  exact ⟨index, type, value, ⟨whole, index', equals, type', colon⟩, (Option.some.inj made).symm⟩

/-- A line gives one thing at most. -/
theorem Gives.unique {left right : Option Binding} {before after : List Log.Entry}
    (first : Gives catalog host log line left before)
    (second : Gives catalog host log line right after) : left = right ∧ before = after := by
  have same {oid other : Oid} {rest rest' : List Char} (filed : Filed catalog line oid)
      (leftmost : oid.Leftmost line rest) (filed' : Filed catalog line other)
      (leftmost' : other.Leftmost line rest') : oid = other ∧ rest = rest' := by
    obtain rfl := filed.unique ⟨rest, leftmost.occurs⟩ filed' ⟨rest', leftmost'.occurs⟩
    exact ⟨rfl, leftmost.unique leftmost'⟩
  cases first with
  | nothing unmentioned =>
    cases second with
    | nothing => exact ⟨rfl, rfl⟩
    | binding filed leftmost => exact absurd ⟨_, leftmost.occurs⟩ (unmentioned _ filed.among)
    | misshapen filed leftmost => exact absurd ⟨_, leftmost.occurs⟩ (unmentioned _ filed.among)
  | binding filed leftmost parts =>
    cases second with
    | nothing unmentioned => exact absurd ⟨_, leftmost.occurs⟩ (unmentioned _ filed.among)
    | binding filed' leftmost' parts' =>
      obtain ⟨rfl, rfl⟩ := same filed leftmost filed' leftmost'
      exact ⟨(ofRest?_of_parts parts _).symm.trans (ofRest?_of_parts parts' _), rfl⟩
    | misshapen filed' leftmost' shapeless =>
      obtain ⟨rfl, rfl⟩ := same filed leftmost filed' leftmost'
      exact absurd parts (shapeless _ _ _)
  | misshapen filed leftmost shapeless =>
    cases second with
    | nothing unmentioned => exact absurd ⟨_, leftmost.occurs⟩ (unmentioned _ filed.among)
    | binding filed' leftmost' parts =>
      obtain ⟨rfl, rfl⟩ := same filed leftmost filed' leftmost'
      exact absurd parts (shapeless _ _ _)
    | misshapen filed' leftmost' =>
      obtain ⟨rfl, rfl⟩ := same filed leftmost filed' leftmost'
      exact ⟨rfl, rfl⟩

/-! ## The reader follows the grammar -/

/-- The first mention that the reader lists is the leftmost of the identifier that the line belongs
to, and there are others exactly if the line mentions other identifiers. -/
theorem filed_of_mentions (searchable : catalog.Searchable) {others : List (Oid × List Char)}
    (found : catalog.mentions line = (oid, rest) :: others) :
    Filed catalog line oid ∧ oid.Leftmost line rest ∧
      (others = [] ↔ ¬ ∃ other ∈ catalog, other ≠ oid ∧ other.Mentioned line) := by
  obtain ⟨before, first, after, rfl, unmentioned, mentioned, rfl⟩ :=
    List.filterMap_eq_cons_iff.mp found
  obtain ⟨_, here, same⟩ := Option.map_eq_some_iff.mp mentioned
  obtain ⟨rfl, rfl⟩ := Prod.mk.inj same
  have fresh : first ∉ before := fun inside =>
    (List.nodup_append.mp searchable.nodup).2.2 _ inside _ List.mem_cons_self rfl
  have freshAfter : first ∉ after :=
    (List.nodup_cons.mp (List.nodup_append.mp searchable.nodup).2.1).1
  have silent {other : Oid} (among : other ∈ before ++ first :: after) :
      (other.mention? line).map (fun rest => (other, rest)) = none ↔ ¬ other.Mentioned line :=
    Option.map_eq_none_iff.trans (searchable.mention?_eq_none among)
  have passed : Catalog.before (before ++ first :: after) first = before := by
    have kept : ∀ other ∈ before, decide (other ≠ first) = true := fun other inside =>
      decide_eq_true fun same => fresh (same ▸ inside)
    rw [Catalog.before, List.takeWhile_append_of_pos kept]
    simp
  refine ⟨⟨by simp, fun other earlier => ?_⟩, ?_, ?_⟩
  · have inside : other ∈ before := passed ▸ earlier
    exact (silent (List.mem_append_left _ inside)).mp (unmentioned other inside)
  · exact (searchable.mention?_eq_some (by simp)).mp here
  · rw [List.filterMap_eq_nil_iff]
    constructor
    · rintro quiet ⟨other, among, apart, mentioned⟩
      rcases List.mem_append.mp among with inBefore | behind
      · exact (silent among).mp (unmentioned other inBefore) mentioned
      · have inAfter := (List.mem_cons.mp behind).resolve_left apart
        exact (silent among).mp (quiet other inAfter) mentioned
    · intro alone other inAfter
      have among : other ∈ before ++ first :: after := by simp [inAfter]
      refine (silent among).mpr fun mentioned => alone ⟨other, among, ?_, mentioned⟩
      exact fun same => freshAfter (same ▸ inAfter)

/-- What the reader makes of a line is told by the mentions that it lists. -/
theorem ofLine?_of_mentions {others : List (Oid × List Char)}
    (found : catalog.mentions line = (oid, rest) :: others) (host : Ipv4) (log : Log.Logger) :
    ofLine? catalog host log line = ⟨ofRest? oid rest,
      ((if others = [] then [] else [ambiguousLine host log line oid]) ++
        if (ofRest? oid rest).isNone then [misshapenLine host log line] else []).map .logged⟩ := by
  unfold ofLine?
  rw [found]
  dsimp only
  generalize ofRest? oid rest = read
  cases others <;> cases read <;> rfl

/-- What the reader makes of a line is what the line gives. -/
theorem gives_ofLine? (searchable : catalog.Searchable) (host : Ipv4) (log : Log.Logger)
    (line : List Char) : ∃ binding? warnings,
      ofLine? catalog host log line = ⟨binding?, warnings.map .logged⟩ ∧
        Gives catalog host log line binding? warnings := by
  cases found : catalog.mentions line with
  | nil =>
    exact ⟨none, [], by rw [ofLine?, found]; rfl, .nothing (searchable.mentions_eq_nil.mp found)⟩
  | cons mention others =>
    obtain ⟨oid, rest⟩ := mention
    obtain ⟨filed, leftmost, alone⟩ := filed_of_mentions searchable found
    have warned : (if others = [] then [] else [ambiguousLine host log line oid]) =
        ambiguity catalog host log line oid := by
      rw [ambiguity, if_congr alone rfl rfl, ite_not]
    refine ⟨_, _, ofLine?_of_mentions found host log, ?_⟩
    rw [warned]
    cases read : ofRest? oid rest with
    | none =>
      refine .misshapen filed leftmost fun index type value parts => ?_
      rw [ofRest?_of_parts parts] at read
      cases read
    | some binding =>
      obtain ⟨index, type, value, parts, rfl⟩ := exists_parts_of_ofRest? read
      rw [Option.isNone_some, if_neg Bool.false_ne_true, List.append_nil]
      exact .binding filed leftmost parts

/-- The reader only logs. -/
theorem events_ofLine? (searchable : catalog.Searchable) (host : Ipv4) (log : Log.Logger)
    (line : List Char) : (ofLine? catalog host log line).events =
      (ofLine? catalog host log line).entries.map .logged := by
  obtain ⟨binding?, warnings, made, _⟩ := gives_ofLine? searchable host log line
  rw [made, Traced.entries_of_logged]

/-- A line gives what the reader makes of it and nothing else. -/
theorem gives_iff (searchable : catalog.Searchable) {binding? : Option Binding}
    {warnings : List Log.Entry} : Gives catalog host log line binding? warnings ↔
      ((ofLine? catalog host log line).value, (ofLine? catalog host log line).entries) =
        (binding?, warnings) := by
  obtain ⟨read, logged, made, gives⟩ := gives_ofLine? searchable host log line
  rw [made, Traced.entries_of_logged, Prod.mk.injEq]
  constructor
  · exact gives.unique
  · rintro ⟨rfl, rfl⟩
    exact gives

/-! ## No line is lost -/

/-- The record warns that a line is no binding. -/
def isMisshapen (entry : Log.Entry) : Bool := entry.message = "line doesn't contain expected format"

/-- That a line matches several identifiers is no complaint about its shape. -/
theorem countP_ambiguity (line : List Char) (oid : Oid) :
    (ambiguity catalog host log line oid).countP isMisshapen = 0 := by
  have other : isMisshapen (ambiguousLine host log line oid) = false := by
    refine decide_eq_false fun same => ?_
    have sixth := congrArg (fun message : String => message.toList[5]?) same
    simp [ambiguousLine, Log.Logger.entry, toString] at sixth
  unfold ambiguity
  split
  · rw [List.countP_singleton, other]
    rfl
  · rfl

/-- A line that mentions an identifier gives a binding or a warning about its shape, and not both;
any other line gives neither. -/
theorem Gives.count {binding? : Option Binding} {warnings : List Log.Entry}
    (gives : Gives catalog host log line binding? warnings) :
    binding?.toList.length + warnings.countP isMisshapen =
      if ∃ oid ∈ catalog, oid.Mentioned line then 1 else 0 := by
  cases gives with
  | nothing unmentioned =>
    rw [if_neg fun ⟨oid, among, mentioned⟩ => unmentioned oid among mentioned]
    rfl
  | binding filed leftmost parts =>
    rw [if_pos ⟨_, filed.among, _, leftmost.occurs⟩, countP_ambiguity]
    rfl
  | misshapen filed leftmost shapeless =>
    rw [if_pos ⟨_, filed.among, _, leftmost.occurs⟩, List.countP_append, countP_ambiguity]
    rfl

/-- Of some lines as many mention an identifier as give a binding or a warning about their shape. -/
theorem count_given {lines : List (List Char)} {given : List (Option Binding × List Log.Entry)}
    (gives : List.Forall₂ (fun line made => Gives catalog host log line made.1 made.2) lines
      given) :
    (given.filterMap (·.1)).length + (given.flatMap (·.2)).countP isMisshapen =
      lines.countP fun line => ∃ oid ∈ catalog, oid.Mentioned line := by
  induction gives with
  | nil => rfl
  | @cons line made lines given first _ ih =>
    have own := first.count
    have more : ((made :: given).filterMap (·.1)).length =
        made.1.toList.length + (given.filterMap (·.1)).length := by
      rw [List.filterMap_cons]
      cases made.1 <;> simp [Nat.add_comm]
    rw [more, List.flatMap_cons, List.countP_append, List.countP_cons, ← ih]
    simp only [decide_eq_true_eq, ← own]
    omega

/-- A text gives what its lines give, one after the other, and every line that mentions an
identifier gives a binding or a warning about its shape. -/
theorem readAll_gives (known : catalog = .full ∨ catalog = .tables) (host : Ipv4)
    (log : Log.Logger) (text : String) :
    ∃ given : List (Option Binding × List Log.Entry),
      List.Forall₂ (fun line made => ∀ binding? warnings,
        Gives catalog host log line binding? warnings ↔ made = (binding?, warnings))
          (Text.lines text.toList) given ∧
      (readAll catalog host log text).value = given.filterMap (·.1) ∧
      (readAll catalog host log text).events = (given.flatMap (·.2)).map .logged ∧
      (readAll catalog host log text).value.length +
          (readAll catalog host log text).entries.countP isMisshapen =
        (Text.lines text.toList).countP fun line => ∃ oid ∈ catalog, oid.Mentioned line := by
  have searchable : catalog.Searchable := by
    rcases known with rfl | rfl
    · exact Catalog.full_searchable
    · exact Catalog.tables_searchable
  let made (line : List Char) : Option Binding × List Log.Entry :=
    ((ofLine? catalog host log line).value, (ofLine? catalog host log line).entries)
  have value : (readAll catalog host log text).value =
      ((Text.lines text.toList).map made).filterMap (·.1) := by
    rw [value_readAll_eq, List.filterMap_map]
    rfl
  have events : (readAll catalog host log text).events =
      (((Text.lines text.toList).map made).flatMap (·.2)).map .logged := by
    rw [readAll, Traced.events_bind, Traced.events_pure, List.append_nil, Traced.events_mapM,
      List.map_flatMap, List.flatMap_map]
    exact List.flatMap_congr fun line _ => events_ofLine? searchable host log line
  have gives : List.Forall₂ (fun line made => Gives catalog host log line made.1 made.2)
      (Text.lines text.toList) ((Text.lines text.toList).map made) :=
    List.forall₂_map_right_iff.mpr (List.forall₂_same.mpr fun line _ =>
      (gives_iff searchable).mpr rfl)
  refine ⟨(Text.lines text.toList).map made, ?_, value, events, ?_⟩
  · exact List.forall₂_map_right_iff.mpr (List.forall₂_same.mpr fun line _ _ _ =>
      gives_iff searchable)
  · have entries : (readAll catalog host log text).entries =
        ((Text.lines text.toList).map made).flatMap (·.2) := by
      rw [Traced.entries, events]
      exact Traced.entries_of_logged () _
    rw [← count_given gives, ← value, ← entries]

/-- A walk with a binding, a line that mentions a second identifier, a line that mentions none and a
line without a colon. -/
def mixedWalk : String :=
  ".1.3.6.1.2.1.2.2.1.1.1 = INTEGER: 1\n" ++
  ".1.3.6.1.2.1.2.2.1.8.1 = STRING: see .1.3.6.1.2.1.31.1.1.1.1.1\n" ++
  "Timeout: No Response\n" ++
  ".1.3.6.1.2.1.2.2.1.5.1 = 10"

/-- Three lines of the walk are accounted for. -/
theorem mixedWalk_accounted :
    (readAll .tables ⟨10, 0, 0, 1⟩ .root mixedWalk).value.length +
      (readAll .tables ⟨10, 0, 0, 1⟩ .root mixedWalk).entries.countP isMisshapen = 3 := by
  obtain ⟨_, _, _, _, accounted⟩ := readAll_gives (.inr rfl) ⟨10, 0, 0, 1⟩ .root mixedWalk
  exact accounted.trans (by decide +kernel)

end Binding

end CableMap
