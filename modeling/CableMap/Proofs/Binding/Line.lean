import CableMap.Proofs.Binding.Mention
import CableMap.Proofs.Trace

/-!
# A printed line is read back

The line of a binding is read as the binding, without the marks around its value. It takes a line
that can be told apart: of one of the known types, in one piece, and with a value that does not
mention an identifier that stands before its own in the catalog.
-/
namespace CableMap.Binding

/-- A mark that may stand around a value. -/
def isMark (c : Char) : Bool := c = ':' || c = ' ' || c = '"'

/-- A mark that may stand around a row. -/
def isRowMark (c : Char) : Bool := c = '.' || c = ' '

/-- A mark that may stand around a type. -/
def isTypeMark (c : Char) : Bool := c = '=' || c = ' '

/-- A binding without the marks around its value. -/
def bare (binding : Binding) : Binding :=
  { binding with value := String.ofList (Text.stripBoth isMark binding.value.toList) }

/-- To strip the value of a binding leaves its identifier. -/
@[simp] theorem bare_oid (binding : Binding) : binding.bare.oid = binding.oid := rfl

/-- To strip the value of a binding leaves its index. -/
@[simp] theorem bare_index (binding : Binding) : binding.bare.index = binding.index := rfl

/-- To strip the value of a binding leaves its type. -/
@[simp] theorem bare_type (binding : Binding) : binding.bare.type = binding.type := rfl

/-- The row as a line prints it. -/
def row (binding : Binding) : List Char :=
  if binding.index.isEmpty then [] else '.' :: binding.index.toList

/-- What a line prints behind the row. -/
def assignment (binding : Binding) : List Char :=
  ' ' :: '=' :: ' ' :: binding.type.tag.toList ++ ':' :: ' ' :: binding.value.toList

/-- A row has at most three numbers with a dot between each two. -/
structure PlainRow (row : List Char) : Prop where
  written : ∀ c ∈ row, c.isDigit = true ∨ c = '.' ∨ c = '-'
  first : row.head? ≠ some '.'
  last : row.getLast? ≠ some '.'
  few : row.count '.' ≤ 2

/-- The parts of a binding can be told apart in its line: neither the row nor the type holds the
sign that ends it, or begins or ends with a mark that is taken off it. -/
structure Separable (binding : Binding) : Prop where
  equals : '=' ∉ binding.index.toList
  row : Text.Bare isRowMark binding.index.toList
  colon : ':' ∉ binding.type.tag.toList
  tag : Text.Bare isTypeMark binding.type.tag.toList
  type : ValueType.ofTag binding.type.tag = binding.type

/-- A value stays in its line. -/
structure OneLine (value : List Char) : Prop where
  noNewline : '\n' ∉ value
  noReturn : value.getLast? ≠ some '\r'

/-- The line of a binding can be read back. -/
structure Legible (binding : Binding) : Prop where
  /-- The identifier is one that observations are made of. -/
  observed : binding.oid ∈ Catalog.observed
  row : PlainRow binding.index.toList
  known : ∀ tag, binding.type ≠ .other tag
  oneLine : OneLine binding.value.toList
  /-- The value mentions no identifier that stands before in the catalog. -/
  unmentioned : ∀ other ∈ Catalog.full.before binding.oid,
    other.mention? binding.value.toList = none

variable {binding : Binding}

/-- A character that no row has is not in this one. -/
theorem PlainRow.not_mem {row : List Char} (plain : PlainRow row) {mark : Char}
    (foreign : mark.isDigit = false ∧ mark ≠ '.' ∧ mark ≠ '-') : mark ∉ row := by
  intro found
  rcases plain.written mark found with digit | dot | minus
  · rw [foreign.1] at digit
    exact Bool.noConfusion digit
  · exact foreign.2.1 dot
  · exact foreign.2.2 minus

/-- A plain row has no marks around it. -/
theorem PlainRow.bare {row : List Char} (plain : PlainRow row) : Text.Bare isRowMark row := by
  have blank : ' ' ∉ row := plain.not_mem (by decide)
  have solid {c : Char} (inside : c ∈ row) (dot : c ≠ '.') : isRowMark c = false := by
    have apart : c ≠ ' ' := fun same => blank (same ▸ inside)
    simp [isRowMark, apart, dot]
  exact {
    first c first := solid (List.mem_of_mem_head? first) fun same => plain.first (same ▸ first)
    last c last := solid (List.mem_of_getLast? last) fun same => plain.last (same ▸ last) }

/-- A printed binding is its identifier, its row and what is assigned to it. -/
theorem toList_line (binding : Binding) :
    binding.line.toList = binding.oid.toList ++ (binding.row ++ binding.assignment) := by
  unfold line row assignment
  split <;> simp [toString]

/-- The row is read back from what stands before the equals sign. -/
theorem stripBoth_row (bare : Text.Bare isRowMark binding.index.toList) :
    Text.stripBoth isRowMark (binding.row ++ [' ']) = binding.index.toList := by
  unfold row
  split
  · rename_i none
    rw [String.isEmpty_iff.mp none]
    decide
  · exact (Text.stripBoth_append ['.'] [' '] (by decide) (by decide) _).trans bare.stripBoth_eq

/-- What follows the identifier is read as the binding. -/
theorem ofRest?_assignment (separable : Separable binding) :
    ofRest? binding.oid (binding.row ++ binding.assignment) = some binding.bare := by
  have equals : '=' ∉ binding.row ++ [' '] := by
    unfold row
    split <;> simp [separable.equals]
  have typed : Text.cutAt? '=' (binding.row ++ binding.assignment) =
      some (binding.row ++ [' '],
        '=' :: ' ' :: binding.type.tag.toList ++ ':' :: ' ' :: binding.value.toList) := by
    have cut := Text.cutAt?_append equals
      (' ' :: binding.type.tag.toList ++ ':' :: ' ' :: binding.value.toList)
    simpa [assignment] using cut
  have valued : Text.cutAt? ':' ('=' :: ' ' :: binding.type.tag.toList ++
        ':' :: ' ' :: binding.value.toList) =
      some ('=' :: ' ' :: binding.type.tag.toList, ':' :: ' ' :: binding.value.toList) :=
    Text.cutAt?_append (by simpa using separable.colon) _
  have index : String.ofList (Text.stripBoth isRowMark (binding.row ++ [' '])) = binding.index := by
    rw [stripBoth_row separable.row, String.ofList_toList]
  have tag : String.ofList (Text.stripBoth isTypeMark ('=' :: ' ' :: binding.type.tag.toList)) =
      binding.type.tag := by
    have around : Text.stripBoth isTypeMark (['=', ' '] ++ binding.type.tag.toList ++ []) = _ :=
      Text.stripBoth_append _ _ (by decide) (by simp) _
    rw [List.append_nil, separable.tag.stripBoth_eq] at around
    exact (congrArg String.ofList around).trans String.ofList_toList
  have value : String.ofList (Text.stripBoth isMark (':' :: ' ' :: binding.value.toList)) =
      binding.bare.value := by
    have around : Text.stripBoth isMark ([':', ' '] ++ binding.value.toList ++ []) = _ :=
      Text.stripBoth_append _ _ (by decide) (by simp) _
    rw [List.append_nil] at around
    exact congrArg String.ofList around
  calc ofRest? binding.oid (binding.row ++ binding.assignment)
    _ = some ⟨binding.oid, String.ofList (Text.stripBoth isRowMark (binding.row ++ [' '])),
          .ofTag (String.ofList
            (Text.stripBoth isTypeMark ('=' :: ' ' :: binding.type.tag.toList))),
          String.ofList (Text.stripBoth isMark (':' :: ' ' :: binding.value.toList))⟩ := by
      simp only [ofRest?, typed, valued, Option.bind_eq_bind, Option.bind_some]
      rfl
    _ = some binding.bare := by
      rw [index, tag, value, separable.type]
      rfl

/-- A line belongs to the identifier that it begins with if it mentions none that stands before that
in the catalog, and is read as the binding. -/
theorem value_ofLine?_of_separable {catalog : Catalog} (among : binding.oid ∈ catalog)
    (named : binding.oid.toList ≠ []) (separable : Separable binding)
    (unmentioned : ∀ other ∈ catalog.before binding.oid, other.mention? binding.line.toList = none)
    (host : Ipv4) (log : Log.Logger) :
    (ofLine? catalog host log binding.line.toList).value = some binding.bare := by
  have complete : Oid.isComplete (binding.row ++ binding.assignment) = true := by
    unfold row
    split <;> rfl
  have found : binding.oid.mention? binding.line.toList =
      some (binding.row ++ binding.assignment) := by
    rw [toList_line]
    exact Oid.mention?_self named complete
  obtain ⟨others, mentions⟩ := Catalog.mentions_eq among found unmentioned
  rw [ofLine?, mentions]
  simp only [ofRest?_assignment separable]
  -- Whether the line mentions others too decides only what is logged.
  split
  · rfl
  · rfl

/-! ## Lines that can be read back -/

/-- The tag of a known type is read back and has no colon and nothing to be stripped. -/
theorem known_tag {type : ValueType} (known : ∀ tag, type ≠ .other tag) :
    ':' ∉ type.tag.toList ∧ '.' ∉ type.tag.toList ∧ '\n' ∉ type.tag.toList ∧
      Text.Bare isTypeMark type.tag.toList ∧ ValueType.ofTag type.tag = type := by
  cases type with
  | other tag => exact absurd rfl (known tag)
  | _ => decide +kernel

/-- The parts of a legible binding can be told apart. -/
theorem Legible.separable (legible : Legible binding) : Separable binding := by
  obtain ⟨colon, -, -, tag, type⟩ := known_tag legible.known
  exact {
    equals := legible.row.not_mem (by decide)
    row := legible.row.bare
    colon := colon
    tag := tag
    type := type }

/-- A line mentions no identifier that stands before its own in the catalog. -/
theorem mention?_line (legible : Legible binding) {other : Oid}
    (earlier : other ∈ Catalog.full.before binding.oid) :
    other.mention? binding.line.toList = none := by
  obtain ⟨-, dot, -⟩ := known_tag legible.known
  have numeric := Catalog.full_isNumeric other (Catalog.mem_of_mem_before earlier)
  have few : binding.row.count '.' ≤ 3 := by
    have few := legible.row.few
    unfold row
    split
    · simp
    · rw [List.count_cons_self]
      omega
  have inHead : ∀ part, part ≠ [] → part <:+ binding.oid.toList ++ binding.row →
      ¬ other.toList <+: part ++ binding.assignment := fun part _ within =>
    (Catalog.observed_apart _ legible.observed other earlier).not_begun numeric few within
  have inTag : '.' ∉ [' ', '=', ' '] ++ binding.type.tag.toList ++ [':', ' '] := by
    simpa using dot
  have whole : binding.assignment =
      [' ', '=', ' '] ++ binding.type.tag.toList ++ [':', ' '] ++ binding.value.toList := by
    simp [assignment]
  rw [Oid.mention?, toList_line, ← List.append_assoc, Oid.mentionFrom_append inHead, whole,
    Oid.mentionFrom_append_of_not_mem numeric.1 inTag]
  exact legible.unmentioned other earlier

/-- A line is read as the binding. -/
theorem value_ofLine? (legible : Legible binding) (host : Ipv4) (log : Log.Logger) :
    (ofLine? .full host log binding.line.toList).value = some binding.bare := by
  have among := Catalog.observed_subset _ legible.observed
  have named : binding.oid.toList ≠ [] := by
    intro empty
    have numeric := Catalog.full_isNumeric _ among
    simp [Oid.IsNumeric, empty] at numeric
  exact value_ofLine?_of_separable among named legible.separable
    (fun other earlier => mention?_line legible earlier) host log

/-! ## Whole texts -/

/-- The text that prints some bindings, a line for each. -/
def text (bindings : List Binding) : String :=
  String.join (bindings.map fun binding => binding.line ++ "\n")

/-- A line stays in one piece if its parts do. -/
theorem oneLine_line (oid : '\n' ∉ binding.oid.toList) (index : '\n' ∉ binding.index.toList)
    (tag : '\n' ∉ binding.type.tag.toList) (value : OneLine binding.value.toList) :
    OneLine binding.line.toList := by
  have inRow : '\n' ∉ binding.row := by
    unfold row
    split <;> simp [index]
  have ending := value.noReturn
  rw [toList_line, assignment]
  constructor
  · simp [oid, inRow, tag, value.noNewline]
  · simp only [List.getLast?_append, List.getLast?_cons]
    cases last : binding.value.toList.getLast? with
    | none => simp
    | some c => simpa [last] using ending

/-- A legible line stays in one piece. -/
theorem line_whole (legible : Legible binding) :
    '\n' ∉ binding.line.toList ∧ binding.line.toList.getLast? ≠ some '\r' := by
  obtain ⟨-, -, tag, -⟩ := known_tag legible.known
  have numeric := Catalog.full_isNumeric _ (Catalog.observed_subset _ legible.observed)
  have whole := oneLine_line (numeric.not_mem (by decide)) (legible.row.not_mem (by decide)) tag
    legible.oneLine
  exact ⟨whole.noNewline, whole.noReturn⟩

/-- A text of whole lines is read line by line. -/
theorem value_readAll_text {bindings : List Binding}
    (whole : ∀ binding ∈ bindings,
      '\n' ∉ binding.line.toList ∧ binding.line.toList.getLast? ≠ some '\r')
    (host : Ipv4) (log : Log.Logger) :
    (readAll .full host log (text bindings)).value =
      bindings.filterMap fun binding => (ofLine? .full host log binding.line.toList).value := by
  have lines : Text.lines (text bindings).toList =
      bindings.map fun binding => binding.line.toList := by
    have joined : (text bindings).toList =
        (bindings.map fun binding => binding.line.toList).flatMap (· ++ ['\n']) := by
      simp [text, String.toList_join, List.flatMap_map]
    rw [joined]
    refine Text.lines_flatMap _ ?_ ?_
    · simpa using fun binding among => (whole binding among).1
    · simpa using fun binding among => (whole binding among).2
  rw [readAll, lines, Traced.value_bind, Traced.value_mapM, Traced.value_pure, List.map_map,
    List.filterMap_map]
  rfl

/-- A text is read as the bindings that it prints. -/
theorem value_readAll {bindings : List Binding} (legible : ∀ binding ∈ bindings, Legible binding)
    (host : Ipv4) (log : Log.Logger) :
    (readAll .full host log (text bindings)).value = bindings.map bare := by
  have read : ∀ binding ∈ bindings,
      (ofLine? .full host log binding.line.toList).value = some binding.bare :=
    fun binding among => value_ofLine? (legible binding among) host log
  rw [value_readAll_text fun binding among => line_whole (legible binding among),
    List.filterMap_congr read]
  exact congrFun (List.filterMap_eq_map (f := bare)) bindings

end CableMap.Binding
