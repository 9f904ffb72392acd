import CableMap.Proofs.Calendar.Rfc3339
import CableMap.Proofs.Trap.Notice
import CableMap.Tools

/-!
# What the trap daemon is told to print

The format for the trap daemon has a directive for each part of a time and one for an address. For a
trap that comes at any time of a year of four digits the daemon prints one line by it, and the line
is read as that second and that address.
-/
namespace CableMap.TrapFormat

/-! ## Formats -/

/-- A part of a time. -/
inductive Field
  | year
  | month
  | day
  | hour
  | minute
  | second
  deriving DecidableEq

namespace Field

/-- The letter of the directive that prints the part. -/
def letter : Field → Char
  | year => 'y'
  | month => 'm'
  | day => 'l'
  | hour => 'h'
  | minute => 'j'
  | second => 'k'

/-- The number of the part. -/
def value (time : UtcTime) : Field → Nat
  | year => time.date.year
  | month => time.date.month
  | day => time.date.day
  | hour => time.hour
  | minute => time.minute
  | second => time.second

end Field

/-- A piece of a format. -/
inductive Piece
  /-- Characters that stand for themselves. -/
  | text (chars : List Char)
  /-- The directive for a part of the time in UTC, with zeros in front up to a width. -/
  | part (field : Field) (width : Nat)
  /-- The directive for the address of the source. -/
  | source
  /-- An escaped newline. -/
  | newline
  deriving DecidableEq

namespace Piece

/-- How the piece is spelled in a format. -/
def spelled : Piece → List Char
  | text chars => chars
  | part field width => ['%', '#', '0', width.digitChar, field.letter]
  | source => ['%', 'a']
  | newline => ['\\', 'n']

/-- What is printed in its place for a trap. -/
def printed (time : UtcTime) (address : Ipv4) : Piece → List Char
  | text chars => chars
  | part field width => Text.padded width (field.value time)
  | source => address.chars
  | newline => ['\n']

/-- The piece is read as it is spelled: no character of a text begins a directive or an escape, and
a width is one digit. -/
def IsProper : Piece → Prop
  | text chars => ∀ c ∈ chars, c ≠ '%' ∧ c ≠ '\\'
  | part _ width => 0 < width ∧ width < 10
  | source => True
  | newline => True

end Piece

/-- How a format is printed for a trap that came at a time from a source. -/
structure Expands (time : UtcTime) (source : Ipv4) (expand : List Char → List Char) : Prop where
  /-- Nothing is printed where the format ends. -/
  end_eq : expand [] = []
  /-- Each piece is printed in its place. -/
  piece_eq : ∀ (piece : Piece) rest, piece.IsProper →
    expand (piece.spelled ++ rest) = piece.printed time source ++ expand rest

variable {time : UtcTime} {source : Ipv4} {expand : List Char → List Char}

/-- A format is printed piece by piece. -/
theorem Expands.pieces_eq (expands : Expands time source expand) {pieces : List Piece}
    (proper : ∀ piece ∈ pieces, piece.IsProper) :
    expand (pieces.flatMap (·.spelled)) = pieces.flatMap (·.printed time source) := by
  induction pieces with
  | nil => exact expands.end_eq
  | cons piece pieces ih =>
    rw [List.flatMap_cons, expands.piece_eq piece _ (proper piece List.mem_cons_self),
      ih fun other inside => proper other (List.mem_cons_of_mem piece inside), List.flatMap_cons]

/-- The pieces of the format for the trap daemon. -/
def pieces : List Piece :=
  [.part .year 4, .text ['-'], .part .month 2, .text ['-'], .part .day 2, .text ['T'],
    .part .hour 2, .text [':'], .part .minute 2, .text [':'], .part .second 2,
    .text "+00:00 ".toList, .source, .newline]

/-- The pieces of the format spell it. -/
theorem spelled_pieces : pieces.flatMap (·.spelled) = Tools.trapFormat.toList := by
  decide

/-- Each piece of the format is read as it is spelled. -/
theorem proper_pieces : ∀ piece ∈ pieces, piece.IsProper := by
  simp [pieces, Piece.IsProper]

/-- What is printed of a trap before the newline: its timestamp and its source. -/
def line (time : UtcTime) (source : Ipv4) : List Char := time.stamp ++ ' ' :: source.chars

/-- The pieces of the format print the time and the source of a trap in a line. -/
theorem printed_pieces (time : UtcTime) (source : Ipv4) :
    pieces.flatMap (·.printed time source) = line time source ++ ['\n'] := by
  simp [pieces, Piece.printed, Field.value, line, UtcTime.stamp, Date.chars, UtcTime.clockChars]

/-- By the format the line of a trap is printed and ended. -/
theorem Expands.trapFormat_eq (expands : Expands time source expand) :
    expand Tools.trapFormat.toList = line time source ++ ['\n'] := by
  rw [← spelled_pieces, expands.pieces_eq proper_pieces, printed_pieces]

/-! ## Reading the line -/

/-- A character is a digit or one of the marks between digits. -/
def isOfStamp (c : Char) : Bool := c.isDigit || ['-', 'T', ':', '+', '.'].contains c

/-- A digit may stand in a stamp. -/
theorem isOfStamp_of_isDigit {c : Char} (digit : c.isDigit = true) : isOfStamp c = true := by
  rw [isOfStamp, digit, Bool.true_or]

/-- A stamp has only digits and the marks between them. -/
theorem all_stamp (time : UtcTime) : time.stamp.all isOfStamp = true := by
  have digits (width n : Nat) : (Text.padded width n).all isOfStamp = true :=
    List.all_eq_true.mpr fun c inside => isOfStamp_of_isDigit (Text.isDigit_padded width n c inside)
  simp only [UtcTime.stamp, Date.chars, UtcTime.clockChars, List.all_append, List.all_cons, digits]
  decide

/-- An address has only digits and the marks between them. -/
theorem all_chars (source : Ipv4) : source.chars.all isOfStamp = true := by
  rw [List.all_eq_true]
  intro c inside
  rcases Ipv4.mem_chars inside with rfl | digit
  · decide
  · exact isOfStamp_of_isDigit digit

/-- A text of these characters is a word. -/
theorem isWord_of_all {text : List Char} (some : text ≠ []) (all : text.all isOfStamp = true) :
    Text.IsWord text :=
  ⟨some, fun c inside => Text.isBlank_of_class (by decide) (List.all_eq_true.mp all c inside)⟩

/-- The line of a trap falls into its timestamp and its source. -/
theorem words_line (time : UtcTime) (source : Ipv4) :
    Text.words (line time source) = [time.stamp, source.chars] := by
  have stamp : Text.IsWord time.stamp := isWord_of_all (by simp [UtcTime.stamp]) (all_stamp time)
  have address : Text.IsWord source.chars :=
    isWord_of_all (List.ne_nil_of_mem source.dot_mem_chars) (all_chars source)
  have spaced := Text.spaced_intercalate [time.stamp, source.chars]
  have joined : [' '].intercalate [time.stamp, source.chars] = line time source := by
    simp [line]
  rw [joined] at spaced
  refine Text.words_eq_iff.mpr ⟨spaced, ?_⟩
  exact List.forall_mem_cons.mpr ⟨stamp, List.forall_mem_singleton.mpr address⟩

/-- A line has only the characters of stamps, and blanks. -/
theorem mem_line {c : Char} (inside : c ∈ line time source) : c = ' ' ∨ isOfStamp c = true := by
  rcases List.mem_append.mp inside with stamp | behind
  · exact .inr (List.all_eq_true.mp (all_stamp time) c stamp)
  · rcases List.mem_cons.mp behind with blank | address
    · exact .inl blank
    · exact .inr (List.all_eq_true.mp (all_chars source) c address)

/-- No other character is in the line of a trap. -/
theorem notMem_line {c : Char} (solid : c ≠ ' ') (other : isOfStamp c = false) :
    c ∉ line time source := by
  intro inside
  rcases mem_line inside with blank | ofStamp
  · exact solid blank
  · rw [other] at ofStamp
    exact Bool.noConfusion ofStamp

/-- The line does not name the trap daemon. -/
theorem unnamed_line (time : UtcTime) (source : Ipv4) :
    ¬ TrapNotice.daemonName.toList <:+: line time source := by
  intro named
  have first : 's' ∈ line time source := named.subset (by decide)
  exact notMem_line (by decide) (by decide) first

/-- The line of a trap is read as its second and its source. -/
theorem ofLine?_line (real : time.IsReal) (fourDigits : time.date.year ≤ 9999) (source : Ipv4) :
    TrapNotice.ofLine? (line time source) = some ⟨some ⟨time.seconds, 0⟩, source⟩ := by
  have address : TrapNotice.source? source.chars = some source :=
    TrapNotice.source?_eq_some_iff.mpr ⟨[], source.chars, [], by simp, by simp, by simp,
      Ipv4.ofChars?_eq_some_iff.mpr rfl⟩
  exact TrapNotice.ofLine?_eq_some_iff.mpr ⟨time.stamp, source.chars, words_line time source,
    unnamed_line time source, address, (Instant.ofRfc3339?_stamp real fourDigits).symm⟩

/-- It is one line. -/
theorem lines_line (time : UtcTime) (source : Ipv4) :
    Text.lines (line time source ++ ['\n']) = [line time source] := by
  have newline : '\n' ∉ line time source := notMem_line (by decide) (by decide)
  have bare : (line time source).getLast? ≠ some '\r' := fun last =>
    notMem_line (by decide) (by decide) (List.mem_of_getLast? last)
  have lines := Text.lines_flatMap [line time source] (List.forall_mem_singleton.mpr newline)
    (List.forall_mem_singleton.mpr bare)
  rwa [List.flatMap_singleton] at lines

/-! ## A trap daemon -/

/-- The part that a letter stands for. -/
def Field.ofLetter? : Char → Option Field
  | 'y' => some year
  | 'm' => some month
  | 'l' => some day
  | 'h' => some hour
  | 'j' => some minute
  | 'k' => some second
  | _ => none

/-- A trap daemon that knows these directives and no others. -/
def plainExpand (time : UtcTime) (source : Ipv4) : List Char → List Char
  | [] => []
  | '%' :: '#' :: '0' :: width :: letter :: rest =>
    ((Field.ofLetter? letter).elim [letter] fun field =>
      Text.padded (width.toNat - '0'.toNat) (field.value time)) ++ plainExpand time source rest
  | '%' :: 'a' :: rest => source.chars ++ plainExpand time source rest
  | '\\' :: 'n' :: rest => '\n' :: plainExpand time source rest
  | c :: rest => c :: plainExpand time source rest

/-- A character that begins no directive and no escape is printed as it is. -/
theorem plainExpand_literal {c : Char} (percent : c ≠ '%') (escape : c ≠ '\\') (rest : List Char) :
    plainExpand time source (c :: rest) = c :: plainExpand time source rest := by
  rw [plainExpand]
  · simp [percent]
  · simp [percent]
  · simp [escape]

/-- The plain way to print a format prints each piece as it is due. -/
theorem expands_plainExpand (time : UtcTime) (source : Ipv4) :
    Expands time source (plainExpand time source) where
  end_eq := by rw [plainExpand]
  piece_eq piece rest proper := by
    cases piece with
    | text chars =>
      change plainExpand time source (chars ++ rest) = chars ++ plainExpand time source rest
      induction chars with
      | nil => rfl
      | cons c chars ih =>
        have ⟨percent, escape⟩ := proper c List.mem_cons_self
        rw [List.cons_append, plainExpand_literal percent escape,
          ih fun other inside => proper other (List.mem_cons_of_mem c inside), List.cons_append]
    | part field width =>
      have digits : ∀ n < 10, n.digitChar.toNat - '0'.toNat = n := by decide
      have letter : Field.ofLetter? field.letter = some field := by cases field <;> rfl
      change plainExpand time source
        ('%' :: '#' :: '0' :: width.digitChar :: field.letter :: rest) = _
      rw [plainExpand, letter, Option.elim_some, digits width proper.2, Piece.printed]
    | source =>
      change plainExpand time source ('%' :: 'a' :: rest) = _
      rw [plainExpand, Piece.printed]
    | newline =>
      change plainExpand time source ('\\' :: 'n' :: rest) = _
      rw [plainExpand, Piece.printed]
      rfl

/-! ## Traps at any time -/

/-- What is read of what the trap daemon prints, line by line. -/
def readBack (printed : List Char) : List (Option TrapNotice) :=
  (Text.lines printed).map TrapNotice.ofLine?

/-- A trap that came at a time from a source is read back of what a trap daemon prints by the
format. -/
structure IsReadBack (expand : UtcTime → Ipv4 → List Char → List Char) (time : UtcTime)
    (source : Ipv4) : Prop where
  /-- The timestamp and the source are printed on one line. -/
  lines_eq : Text.lines (expand time source Tools.trapFormat.toList) =
    [time.stamp ++ ' ' :: source.chars]
  /-- The line is read as the second that the calendar counts to the time, and as the source. -/
  notice_eq : ∃ seconds, (∀ n, time.CountsTo n ↔ n = seconds) ∧
    readBack (expand time source Tools.trapFormat.toList) = [some ⟨some ⟨seconds, 0⟩, source⟩]
  /-- No trap that came at another time is read as the same instant. -/
  told_apart : ∀ other otherSource notice otherNotice, other.IsReal → other.date.year ≤ 9999 →
    some notice ∈ readBack (expand time source Tools.trapFormat.toList) →
    some otherNotice ∈ readBack (expand other otherSource Tools.trapFormat.toList) →
    notice.at? = otherNotice.at? → time = other

/-- What is printed of a trap is read as its second and its source. -/
theorem Expands.readBack_eq (expands : Expands time source expand) (real : time.IsReal)
    (fourDigits : time.date.year ≤ 9999) :
    readBack (expand Tools.trapFormat.toList) = [some ⟨some ⟨time.seconds, 0⟩, source⟩] := by
  rw [readBack, expands.trapFormat_eq, lines_line, List.map_singleton,
    ofLine?_line real fourDigits]

/-- Whenever a trap comes in a year of four digits and wherever from, it is read back of what the
trap daemon prints. -/
theorem traps_read_back {expand : UtcTime → Ipv4 → List Char → List Char}
    (expands : ∀ time source, time.IsReal → Expands time source (expand time source))
    {time : UtcTime} (real : time.IsReal) (fourDigits : time.date.year ≤ 9999) (source : Ipv4) :
    IsReadBack expand time source where
  lines_eq := by
    rw [(expands time source real).trapFormat_eq, lines_line]
    rfl
  notice_eq := by
    refine ⟨time.seconds, fun n => ?_, (expands time source real).readBack_eq real fourDigits⟩
    rw [UtcTime.countsTo_iff, and_iff_right real]
  told_apart := by
    intro other otherSource notice otherNotice otherReal otherDigits read otherRead same
    rw [(expands time source real).readBack_eq real fourDigits, List.mem_singleton] at read
    rw [(expands other otherSource otherReal).readBack_eq otherReal otherDigits,
      List.mem_singleton] at otherRead
    cases read
    cases otherRead
    exact UtcTime.seconds_inj real otherReal (by simpa using same)

/-- The last second of the leap day of the year 0. -/
def endOfLeapDay : UtcTime := ⟨⟨0, 2, 29⟩, 23, 59, 59⟩

/-- The last second of a leap day, in a trap of some source, is read back. -/
theorem endOfLeapDay_read_back :
    endOfLeapDay.IsReal ∧ endOfLeapDay.date.year ≤ 9999 ∧
      IsReadBack plainExpand endOfLeapDay ⟨10, 1, 2, 3⟩ ∧
      readBack (plainExpand endOfLeapDay ⟨10, 1, 2, 3⟩ Tools.trapFormat.toList) =
        [some ⟨some ⟨-62162035201, 0⟩, ⟨10, 1, 2, 3⟩⟩] := by
  have real : endOfLeapDay.IsReal := by decide
  have fourDigits : endOfLeapDay.date.year ≤ 9999 := by decide
  have seconds : endOfLeapDay.seconds = -62162035201 := by decide
  refine ⟨real, fourDigits,
    traps_read_back (fun time source _ => expands_plainExpand time source) real fourDigits _, ?_⟩
  rw [(expands_plainExpand endOfLeapDay _).readBack_eq real fourDigits, seconds]

end CableMap.TrapFormat
