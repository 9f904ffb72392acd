import CableMap.Proofs.Text.Utf8
import CableMap.Proofs.Trap.Buffer

/-!
# What is read of the trap daemon

The lines of the trap daemon are read up to the first that is not UTF-8. While the buffer is open
the traps that they announce enter it in order until it is full, each of the others is reported,
and the reading goes on. Once the buffer is closed the first line that announces a trap ends the
reading, whatever follows.
-/
namespace CableMap.TrapBuffer

variable {log : Log.Logger} {buffer : TrapBuffer} {texts : List (List Char)} {text : List Char}
  {line : List UInt8} {lines rest : List (List UInt8)} {queued room : Nat}

/-! ## What is said -/

/-- What the reader says. -/
def said (log : Log.Logger) (level : Log.Level) (message : String) : Event :=
  .logged ((log.unit "trap-reader").entry level message [])

/-- What is said of a line that announces no trap. -/
def ignored (log : Log.Logger) (text : List Char) : Event :=
  said log .debug s!"ignoring listener output {Text.quoted (String.ofList text)}"

/-- What is said of a trap that came. -/
def heard (log : Log.Logger) (source : Ipv4) : Event := said log .debug s!"trap from {source}"

/-- What is said where the reading stops: why, if a line is not UTF-8. -/
def broken (log : Log.Logger) : List (List UInt8) → List Event
  | [] => []
  | line :: _ =>
    match Text.Utf8.decode line with
    | .error fault =>
      [said log .error
        s!"reading from trap listener: {(Failure.io (.notUtf8 line fault)).message}"]
    | .ok _ => []

/-- What is said when no more line can be read: that the trap daemon ended, or why the next line is
not read. -/
def parting (log : Log.Logger) (rest : List (List UInt8)) : List Event :=
  broken log rest ++
    if rest.isEmpty then [said log .warning "trap listener exited"] else []

/-- What is said at last. -/
def leaving (log : Log.Logger) (queued : Nat) : Event :=
  said log .info s!"trap reader exiting after {queued} traps"

/-- The hosts whose traps some lines announce, line by line. -/
def sources (texts : List (List Char)) : List Ipv4 :=
  texts.filterMap fun text => (TrapNotice.ofLine? text).map (·.source)

/-- What is said of a line when so many more traps may enter. -/
def told (log : Log.Logger) (room : Nat) (text : List Char) : List Event :=
  match TrapNotice.ofLine? text with
  | none => [ignored log text]
  | some notice =>
    heard log notice.source :: if room = 0 then [turnedAway log notice.source] else []

/-- What is said of some lines when so many more traps may enter before them: each line finds as
much less room as there are traps in the lines before it. -/
def narrated (log : Log.Logger) (room : Nat) (texts : List (List Char)) : List Event :=
  (texts.mapIdx fun place text =>
    told log (room - (sources (texts.take place)).length) text).flatten

/-- The sources of some lines are that of the first line and those of the others. -/
theorem sources_cons (text : List Char) (texts : List (List Char)) :
    sources (text :: texts) = sources [text] ++ sources texts := by
  rw [sources, ← List.singleton_append, List.filterMap_append]
  rfl

/-- A line that announces no trap has no source. -/
theorem sources_of_ignored (other : TrapNotice.ofLine? text = none) : sources [text] = [] := by
  simp [sources, other]

/-- A line that announces a trap has its source. -/
theorem sources_of_heard {notice : TrapNotice} (found : TrapNotice.ofLine? text = some notice) :
    sources [text] = [notice.source] := by
  simp [sources, found]

/-- What is said of some lines is what is said of the first, and what is said of the others in the
room that it leaves. -/
theorem narrated_cons (text : List Char) (texts : List (List Char)) :
    narrated log room (text :: texts) =
      told log room text ++ narrated log (room - (sources [text]).length) texts := by
  rw [narrated, List.mapIdx_cons, List.flatten_cons]
  have later (place : Nat) : room - (sources ((text :: texts).take (place + 1))).length =
      room - (sources [text]).length - (sources (texts.take place)).length := by
    rw [List.take_succ_cons, sources_cons, List.length_append, Nat.sub_add_eq]
  simp only [later]
  rfl

/-! ## One line -/

/-- A line that announces no trap is passed over. -/
theorem readLines_ignored (decoded : Text.Utf8.decode line = .ok text)
    (other : TrapNotice.ofLine? text = none) :
    readLines log queued (line :: lines) buffer =
      ⟨(readLines log queued lines buffer).value,
        ignored log text :: (readLines log queued lines buffer).events⟩ := by
  rw [readLines]
  simp only [decoded, other]
  rfl

/-- How the reading goes on behind a trap, by what became of it. -/
def afterTrap (log : Log.Logger) (queued : Nat) (lines : List (List UInt8)) :
    PushOutcome → StateT TrapBuffer Traced Progress
  | .queued => readLines log (queued + 1) lines
  | .dropped => readLines log queued lines
  | .closed => pure ⟨queued, false⟩

/-- A line that announces a trap lets it enter or turns it away. -/
theorem readLines_heard {notice : TrapNotice} {outcome : PushOutcome}
    (decoded : Text.Utf8.decode line = .ok text)
    (found : TrapNotice.ofLine? text = some notice) (came : buffer.outcome = outcome) :
    let later := afterTrap log queued lines outcome (buffer.afterPush notice.source)
    readLines log queued (line :: lines) buffer = ⟨later.value, heard log notice.source ::
      ((if outcome = .dropped then [turnedAway log notice.source] else []) ++ later.events)⟩ := by
  have spoken : (liftM ((log.unit "trap-reader").debug s!"trap from {notice.source}") :
      StateT TrapBuffer Traced Unit) buffer = ⟨((), buffer), [heard log notice.source]⟩ := rfl
  have pushed := push_run notice.source log buffer
  rw [came] at pushed
  rw [readLines]
  simp only [decoded, found]
  rw [Traced.run_bind spoken, Traced.run_bind pushed]
  cases outcome <;> rfl

/-! ## All lines -/

/-- The texts that lines encode are followed by nothing, or by a line that is not UTF-8. -/
def Stops (rest : List (List UInt8)) : Prop :=
  ∀ line ∈ rest.head?, ∀ text, Text.Utf8.encode text ≠ line

/-- Where no line can be read, none is. -/
theorem readLines_stops (stops : Stops rest) :
    readLines log queued rest buffer = ⟨(⟨queued, rest.isEmpty⟩, buffer), broken log rest⟩ := by
  cases rest with
  | nil => rfl
  | cons line rest =>
    obtain ⟨fault, failed⟩ := Text.Utf8.exists_fault (stops line rfl)
    rw [readLines, broken]
    simp only [failed]
    rfl

/-- While the buffer is open, a line is told of and its trap enters if there is room. -/
theorem readLines_cons (isOpen : buffer.isOpen = true) (text : List Char) :
    let later := readLines log (queued + min (sources [text]).length buffer.room) lines
      (buffer.filled (sources [text]))
    readLines log queued (Text.Utf8.encode text :: lines) buffer =
      ⟨later.value, told log buffer.room text ++ later.events⟩ := by
  have decoded : Text.Utf8.decode (Text.Utf8.encode text) = .ok text :=
    Text.Utf8.decode_eq_ok_iff.mpr rfl
  cases found : TrapNotice.ofLine? text with
  | none =>
    rw [readLines_ignored decoded found, sources_of_ignored found, filled_nil]
    simp [told, found]
  | some notice =>
    have outcome := outcome_of_open isOpen
    rw [readLines_heard decoded found outcome, sources_of_heard found, afterPush_of_open isOpen]
    by_cases full : buffer.room = 0
    · simp [told, found, full, afterTrap]
    · have one : min 1 buffer.room = 1 := by omega
      simp [told, found, full, afterTrap, one]

/-- While the buffer is open, all lines are read. -/
theorem readLines_open (log : Log.Logger) (queued : Nat) (texts : List (List Char))
    (stops : Stops rest) (isOpen : buffer.isOpen = true) :
    readLines log queued (texts.map Text.Utf8.encode ++ rest) buffer =
      ⟨(⟨queued + min (sources texts).length buffer.room, rest.isEmpty⟩,
          buffer.filled (sources texts)),
        narrated log buffer.room texts ++ broken log rest⟩ := by
  -- Each line finds the buffer that those before it filled.
  induction texts generalizing queued buffer with
  | nil =>
    rw [List.map_nil, List.nil_append, readLines_stops stops]
    simp [sources, narrated]
  | cons text texts ih =>
    have stillOpen : (buffer.filled (sources [text])).isOpen = true := isOpen
    have later := ih (queued + min (sources [text]).length buffer.room) stillOpen
    rw [room_filled, filled_filled, ← sources_cons] at later
    have counted : queued + min (sources [text]).length buffer.room +
        min (sources texts).length (buffer.room - (sources [text]).length) =
          queued + min (sources (text :: texts)).length buffer.room := by
      rw [sources_cons text texts, List.length_append]
      omega
    rw [List.map_cons, List.cons_append, readLines_cons isOpen, later, counted, narrated_cons,
      List.append_assoc]

/-- Lines that announce no trap are passed over, whatever follows. -/
theorem readLines_passed (log : Log.Logger) (buffer : TrapBuffer) (queued : Nat)
    (lines : List (List UInt8)) (quiet : sources texts = []) :
    readLines log queued (texts.map Text.Utf8.encode ++ lines) buffer =
      ⟨(readLines log queued lines buffer).value,
        texts.map (ignored log) ++ (readLines log queued lines buffer).events⟩ := by
  induction texts with
  | nil => rfl
  | cons text texts ih =>
    rw [sources_cons] at quiet
    obtain ⟨own, others⟩ := List.append_eq_nil_iff.mp quiet
    have decoded : Text.Utf8.decode (Text.Utf8.encode text) = .ok text :=
      Text.Utf8.decode_eq_ok_iff.mpr rfl
    have other : TrapNotice.ofLine? text = none := by simpa [sources] using own
    rw [List.map_cons, List.cons_append, readLines_ignored decoded other, ih others]
    rfl

/-- Once the buffer is closed, the first line that announces a trap ends the reading. -/
theorem readLines_closed (log : Log.Logger) (queued : Nat) (lines : List (List UInt8))
    {before : List (List Char)} {notice : TrapNotice}
    (isClosed : buffer.isOpen = false) (quiet : sources before = [])
    (found : TrapNotice.ofLine? text = some notice) :
    readLines log queued (before.map Text.Utf8.encode ++ Text.Utf8.encode text :: lines) buffer =
      ⟨(⟨queued, false⟩, buffer), before.map (ignored log) ++ [heard log notice.source]⟩ := by
  have outcome := outcome_of_closed isClosed
  have same : buffer.afterPush notice.source = buffer := by
    rw [afterPush, if_neg (by rw [outcome]; decide)]
  rw [readLines_passed log buffer queued _ quiet,
    readLines_heard (Text.Utf8.decode_eq_ok_iff.mpr rfl) found outcome,
    same]
  rfl

/-! ## The stream -/

/-- What comes of a stream is what comes of its lines. -/
theorem readAll_run {bytes : List UInt8} {count : Nat} {goesOn : Bool} {later : TrapBuffer}
    {events : List Event}
    (ran : readLines log 0 (Text.linesOf 10 13 bytes) buffer = ⟨(⟨count, goesOn⟩, later), events⟩) :
    readAll false bytes log buffer = ⟨(count, later), events ++
      (if goesOn then [said log .warning "trap listener exited"] else []) ++ [leaving log count]⟩ := by
  unfold readAll
  simp only [Bool.false_eq_true, if_false]
  rw [Traced.run_bind ran]
  cases goesOn with
  | true => exact congrArg (Traced.mk _) (List.append_assoc events _ _).symm
  | false =>
    have nothing : events ++ [] ++ [leaving log count] = events ++ [leaving log count] := by
      rw [List.append_nil]
    exact congrArg (Traced.mk _) nothing.symm

/-- Lines fall into texts that they encode and what follows from the first that encodes none. -/
theorem exists_texts (lines : List (List UInt8)) :
    ∃ (texts : List (List Char)) (rest : List (List UInt8)),
      lines = texts.map Text.Utf8.encode ++ rest ∧ Stops rest := by
  induction lines with
  | nil => exact ⟨[], [], rfl, by simp [Stops]⟩
  | cons line lines ih =>
    by_cases some : ∃ text, Text.Utf8.encode text = line
    · obtain ⟨text, rfl⟩ := some
      obtain ⟨texts, rest, rfl, stops⟩ := ih
      exact ⟨text :: texts, rest, rfl, stops⟩
    · refine ⟨[], line :: lines, rfl, fun first among text same => some ⟨text, ?_⟩⟩
      rw [same, ← Option.some.inj among]

/-- An event is a record of the buffer. -/
def isOfBuffer (log : Log.Logger) (event : Event) : Bool :=
  event.logged?.any (·.scope = (log.unit "trap-buffer").scope)

/-- That a trap is turned away is said by the buffer. -/
theorem isOfBuffer_turnedAway (source : Ipv4) : isOfBuffer log (turnedAway log source) = true := by
  simp [isOfBuffer, turnedAway, Event.logged?, Log.Logger.entry]

/-- What the reader says is not said by the buffer. -/
theorem isOfBuffer_said (level : Log.Level) (message : String) :
    isOfBuffer log (said log level message) = false := by
  simp [isOfBuffer, said, Event.logged?, Log.Logger.entry, Log.Logger.unit, Log.Logger.child]

/-- Of what is said of a line the buffer says that its trap is turned away where there is no room.
-/
theorem filter_told (room : Nat) (text : List Char) :
    (told log room text).filter (isOfBuffer log) =
      ((sources [text]).drop room).map (turnedAway log) := by
  unfold told
  cases found : TrapNotice.ofLine? text with
  | none => simp [sources_of_ignored found, ignored, isOfBuffer_said]
  | some notice =>
    rw [sources_of_heard found]
    by_cases full : room = 0
    · simp [full, heard, isOfBuffer_said, isOfBuffer_turnedAway]
    · obtain ⟨more, rfl⟩ := Nat.exists_eq_succ_of_ne_zero full
      simp [heard, isOfBuffer_said]

/-- The buffer reports each trap that finds no room, in order. -/
theorem filter_narrated (room : Nat) (texts : List (List Char)) :
    (narrated log room texts).filter (isOfBuffer log) =
      ((sources texts).drop room).map (turnedAway log) := by
  induction texts generalizing room with
  | nil => simp [narrated, sources]
  | cons text texts ih =>
    rw [narrated_cons, List.filter_append, filter_told, ih, sources_cons text texts,
      List.drop_append, List.map_append]

/-- Of what is said when no more line can be read the buffer says nothing. -/
theorem filter_parting (rest : List (List UInt8)) :
    (parting log rest).filter (isOfBuffer log) = [] := by
  unfold parting broken
  cases rest with
  | nil => simp [isOfBuffer_said]
  | cons line rest => cases read : Text.Utf8.decode line <;> simp [read, isOfBuffer_said]

/-- What comes of a stream whose lines encode some texts up to the first line that is not UTF-8, for
a buffer of some capacity into which nothing came before. -/
structure Reads (capacity : Nat) (log : Log.Logger) (bytes : List UInt8)
    (texts : List (List Char)) (rest : List (List UInt8)) : Prop where
  /-- The lines are cut into these texts, -/
  lines_eq : Text.linesOf 10 13 bytes = texts.map Text.Utf8.encode ++ rest
  /-- at the first that is not UTF-8. -/
  stops : Stops rest
  /-- While the buffer is open all these lines are read. As many traps enter as come, or as there is
  room for, the first in order. -/
  open_eq : readAll false bytes log (ofCapacity capacity) =
    ⟨(min (sources texts).length (max capacity 1),
        { ofCapacity capacity with waiting := ((sources texts).take (max capacity 1)).toArray }),
      narrated log (max capacity 1) texts ++ parting log rest ++
        [leaving log (min (sources texts).length (max capacity 1))]⟩
  /-- Each of the other traps is reported once, and the buffer reports nothing else. -/
  turned_away : (readAll false bytes log (ofCapacity capacity)).events.filter (isOfBuffer log) =
    ((sources texts).drop (max capacity 1)).map (turnedAway log)
  /-- Once the buffer is closed, the first line that announces a trap ends the reading, whatever
  lines follow. -/
  closed_eq : ∀ before text notice later,
    Text.linesOf 10 13 bytes = before.map Text.Utf8.encode ++ Text.Utf8.encode text :: later →
    sources before = [] → TrapNotice.ofLine? text = some notice →
    readAll false bytes log (ofCapacity capacity).close =
      ⟨(0, (ofCapacity capacity).close),
        before.map (ignored log) ++ [heard log notice.source, leaving log 0]⟩
  /-- If there is none, all these lines are read. -/
  closed_quiet_eq : sources texts = [] →
    readAll false bytes log (ofCapacity capacity).close =
      ⟨(0, (ofCapacity capacity).close),
        texts.map (ignored log) ++ parting log rest ++ [leaving log 0]⟩

/-- Whatever the trap daemon prints, it is read to the end, to the first line that is not UTF-8, or
to the first trap that comes to a closed buffer. -/
theorem reads_stream (capacity : Nat) (log : Log.Logger) (bytes : List UInt8) :
    ∃ texts rest, Reads capacity log bytes texts rest := by
  obtain ⟨texts, rest, lines_eq, stops⟩ := exists_texts (Text.linesOf 10 13 bytes)
  have room : (ofCapacity capacity).room = max capacity 1 := rfl
  have open_eq : readAll false bytes log (ofCapacity capacity) =
      ⟨(min (sources texts).length (max capacity 1),
          { ofCapacity capacity with waiting := ((sources texts).take (max capacity 1)).toArray }),
        narrated log (max capacity 1) texts ++ parting log rest ++
          [leaving log (min (sources texts).length (max capacity 1))]⟩ := by
    have isOpen : (ofCapacity capacity).isOpen = true := rfl
    have ran := readLines_open log 0 texts stops isOpen
    have taken : (ofCapacity capacity).filled (sources texts) =
        { ofCapacity capacity with waiting := ((sources texts).take (max capacity 1)).toArray } := by
      rw [filled, room]
      simp [ofCapacity]
    rw [← lines_eq, Nat.zero_add, room, taken] at ran
    rw [readAll_run ran, parting, ← List.append_assoc]
  refine ⟨texts, rest, lines_eq, stops, open_eq, ?_, ?_, ?_⟩
  · rw [open_eq]
    simp only [List.filter_append, filter_narrated, filter_parting, List.append_nil]
    simp [leaving, isOfBuffer_said]
  · intro before text notice later cut quiet found
    have isClosed : (ofCapacity capacity).close.isOpen = false := rfl
    have ran := readLines_closed log 0 later isClosed quiet found
    rw [← cut] at ran
    rw [readAll_run ran]
    simp
  · intro quiet
    have ran := readLines_passed log (ofCapacity capacity).close 0 rest quiet
    rw [← lines_eq, readLines_stops stops] at ran
    rw [readAll_run ran, parting, ← List.append_assoc]

end CableMap.TrapBuffer
