import CableMap.Proofs.Text.Words
import CableMap.Proofs.Trace
import CableMap.Scan
import Mathlib.Data.List.Induction

/-!
# Hosts in the order in which they answer

A scan reads line after line. A host is taken at the first line that begins with its address, behind
the hosts that were taken before, and never again. A line that begins with anything else is warned
of, unless it is blank.
-/
namespace CableMap.Scan

/-- A line begins with the address of a host. -/
def Names (line : List Char) (host : Ipv4) : Prop :=
  ∃ word rest, Text.words line = word :: rest ∧ Ipv4.ofChars? word = some host

/-- A line answers for a host: its first word is the address of the host. -/
def Answers (line : String) (host : Ipv4) : Prop :=
  ∃ word, Text.FirstWord line.toList word ∧ Ipv4.ofChars? word = some host

/-- A line is noise: it has a first word, and that is no address. -/
def Noise (line : String) : Prop :=
  ∃ word, Text.FirstWord line.toList word ∧ Ipv4.ofChars? word = none

instance (line : String) : Decidable (Noise line) :=
  decidable_of_iff (∃ word ∈ (Text.words line.toList).head?, Ipv4.ofChars? word = none) <| by
    simp only [Noise, Text.firstWord_iff, Option.mem_def]

/-- The event that noise is warned of. -/
def ignored (log : Log.Logger) (line : String) : Event :=
  .logged (log.entry .warning s!"ignoring scan output {Text.quoted line}" [])

variable {log : Log.Logger} {line : String} {lines : List String} {host : Ipv4}
  {taken : List Ipv4}

/-- To begin with an address is to have it as the first word. -/
theorem names_iff_answers : Names line.toList host ↔ Answers line host := by
  simp only [Names, Answers, Text.firstWord_iff, List.head?_eq_some_iff, exists_and_right]

/-- The host of a line is the one that it names. -/
theorem value_host?_eq_some_iff :
    (host? log line).value = some host ↔ Names line.toList host := by
  unfold host? Names
  cases Text.words line.toList with
  | nil => simp
  | cons word rest =>
    cases known : Ipv4.ofChars? word with
    | none => simp [known]
    | some other => simp [known]

/-- The event of a line is the warning of it if it is noise, and there is none otherwise. -/
theorem events_host? (log : Log.Logger) (line : String) :
    (host? log line).events = if Noise line then [ignored log line] else [] := by
  unfold host? Noise
  simp only [Text.firstWord_iff]
  cases Text.words line.toList with
  | nil => simp
  | cons word rest =>
    cases known : Ipv4.ofChars? word with
    | none => simp [known, ignored, Log.Logger.warning, Log.Logger.write, Traced.event]
    | some other => simp [known]

/-- What follows the address does not matter. -/
example : Names "10.0.0.1 [public] core switch".toList ⟨10, 0, 0, 1⟩ :=
  ⟨"10.0.0.1".toList, _, rfl, by decide⟩

/-! ## One line after the other -/

/-- The hosts that are taken once another line is read: its host is added unless it is among them. -/
def taking (taken : List Ipv4) : Option Ipv4 → List Ipv4
  | none => taken
  | some host => if host ∈ taken then taken else taken ++ [host]

/-- No lines name no hosts. -/
theorem value_hosts_nil (log : Log.Logger) : (hosts [] log).value = [] := rfl

/-- To read one more line is to take its host. -/
theorem value_hosts_concat (lines : List String) (line : String) (log : Log.Logger) :
    (hosts (lines ++ [line]) log).value =
      taking (hosts lines log).value (host? log line).value := by
  simp only [hosts, Traced.value_bind, Traced.value_mapM, Traced.value_pure, List.map_append,
    List.map_cons, List.map_nil, List.filterMap_append]
  rw [List.eraseDups_append]
  generalize (lines.map fun line => (host? log line).value).filterMap id = named
  cases (host? log line).value with
  | none => simp [taking, List.removeAll]
  | some host =>
    by_cases known : host ∈ named
    · rw [taking, if_pos (List.mem_eraseDups.mpr known)]
      simp [List.removeAll, known]
    · rw [taking, if_neg (mt List.mem_eraseDups.mp known)]
      simp [List.removeAll, known, List.eraseDups_cons]

/-- The events of some lines are those of each line, in their order. -/
theorem events_hosts (lines : List String) (log : Log.Logger) :
    (hosts lines log).events = (lines.filter (Noise ·)).map (ignored log) := by
  rw [hosts, Traced.events_bind, Traced.events_pure, List.append_nil, Traced.events_mapM]
  induction lines with
  | nil => rfl
  | cons line lines ih =>
    rw [List.flatMap_cons, ih, events_host?]
    by_cases noise : Noise line
    · rw [if_pos noise, List.filter_cons_of_pos (by simpa using noise)]
      rfl
    · rw [if_neg noise, List.filter_cons_of_neg (by simpa using noise)]
      rfl

/-- The hosts that are taken from lines. -/
structure TakenFrom (lines : List String) (taken : List Ipv4) : Prop where
  /-- No host is taken twice. -/
  nodup : taken.Nodup
  /-- A host is taken exactly if a line answers for it. -/
  mem_iff : ∀ host, host ∈ taken ↔ ∃ line ∈ lines, Answers line host
  /-- Of two hosts the one before the other is answered for by a line when no line has answered for
  the other. -/
  ordered : taken.Pairwise fun earlier later => ∃ before line behind,
    lines = before ++ line :: behind ∧ Answers line earlier ∧
      ∀ other ∈ before ++ [line], ¬ Answers other later

/-- Of no lines no host is taken. -/
theorem TakenFrom.nil : TakenFrom [] [] where
  nodup := List.nodup_nil
  mem_iff _ := by simp
  ordered := .nil

/-- A line that answers for no other host than those taken changes nothing. -/
theorem TakenFrom.concat_known (from_lines : TakenFrom lines taken)
    (known : ∀ host, Answers line host → host ∈ taken) : TakenFrom (lines ++ [line]) taken where
  nodup := from_lines.nodup
  mem_iff host := by
    rw [from_lines.mem_iff]
    constructor
    · rintro ⟨own, inside, answers⟩
      exact ⟨own, List.mem_append_left _ inside, answers⟩
    · rintro ⟨own, inside, answers⟩
      rcases List.mem_append.mp inside with before | last
      · exact ⟨own, before, answers⟩
      · rw [List.mem_singleton.mp last] at answers
        exact (from_lines.mem_iff host).mp (known host answers)
  ordered := from_lines.ordered.imp fun ⟨before, own, behind, whole, answers, silent⟩ =>
    ⟨before, own, behind ++ [line], by simp [whole], answers, silent⟩

/-- A host that no line has answered for is taken behind all others. -/
theorem TakenFrom.concat_new (from_lines : TakenFrom lines taken) (answers : Answers line host)
    (only : ∀ other, Answers line other → other = host) (new : host ∉ taken) :
    TakenFrom (lines ++ [line]) (taken ++ [host]) where
  nodup := List.nodup_append.mpr ⟨from_lines.nodup, List.pairwise_singleton _ host, by
    rintro own inside _ last rfl
    exact new (List.mem_singleton.mp last ▸ inside)⟩
  mem_iff other := by
    rw [List.mem_append, List.mem_singleton, from_lines.mem_iff]
    constructor
    · rintro (⟨own, inside, heard⟩ | rfl)
      · exact ⟨own, List.mem_append_left _ inside, heard⟩
      · exact ⟨line, by simp, answers⟩
    · rintro ⟨own, inside, heard⟩
      rcases List.mem_append.mp inside with before | last
      · exact .inl ⟨own, before, heard⟩
      · rw [List.mem_singleton.mp last] at heard
        exact .inr (only other heard)
  ordered := by
    have unheard : ∀ own ∈ lines, ¬ Answers own host := fun own inside heard =>
      new ((from_lines.mem_iff host).mpr ⟨own, inside, heard⟩)
    refine List.pairwise_append.mpr ⟨?_, List.pairwise_singleton _ _, ?_⟩
    · exact from_lines.ordered.imp fun ⟨before, own, behind, whole, heard, silent⟩ =>
        ⟨before, own, behind ++ [line], by simp [whole], heard, silent⟩
    · intro earlier inside later last
      obtain rfl := List.mem_singleton.mp last
      obtain ⟨own, among, heard⟩ := (from_lines.mem_iff earlier).mp inside
      obtain ⟨before, behind, rfl⟩ := List.append_of_mem among
      refine ⟨before, own, behind ++ [line], by simp, heard, fun other within => ?_⟩
      rcases List.mem_append.mp within with front | here
      · exact unheard other (List.mem_append_left _ front)
      · exact unheard other (by simp [List.mem_singleton.mp here])

/-- To read one more line keeps to what hosts are taken from lines. -/
theorem TakenFrom.taking (from_lines : TakenFrom lines taken) (line : String)
    (log : Log.Logger) : TakenFrom (lines ++ [line]) (taking taken (host? log line).value) := by
  have answers_iff (host : Ipv4) : (host? log line).value = some host ↔ Answers line host :=
    value_host?_eq_some_iff.trans names_iff_answers
  cases own : (host? log line).value with
  | none =>
    refine from_lines.concat_known fun host answers => ?_
    rw [(answers_iff host).mpr answers] at own
    cases own
  | some host =>
    have only : ∀ other, Answers line other → other = host := fun other answers =>
      Option.some.inj (((answers_iff other).mpr answers).symm.trans own)
    by_cases known : host ∈ taken
    · rw [Scan.taking, if_pos known]
      exact from_lines.concat_known fun other answers => only other answers ▸ known
    · rw [Scan.taking, if_neg known]
      exact from_lines.concat_new ((answers_iff host).mp own) only known

/-- What the scan of some lines takes is taken from them. -/
theorem takenFrom_hosts (lines : List String) (log : Log.Logger) :
    TakenFrom lines (hosts lines log).value := by
  induction lines using List.reverseRecOn with
  | nil => exact .nil
  | append_singleton lines line ih =>
    rw [value_hosts_concat]
    exact ih.taking line log

/-- The hosts of some lines are those that they begin with. -/
theorem mem_value_hosts : host ∈ (hosts lines log).value ↔ ∃ line ∈ lines, Names line.toList host := by
  simp only [names_iff_answers]
  exact (takenFrom_hosts lines log).mem_iff host

/-! ## Lines in two parts -/

/-- A host that is taken behind others is taken apart from them, unless it is one of them. -/
theorem taking_append (known taken : List Ipv4) (host? : Option Ipv4) :
    taking (known ++ taken.filter (· ∉ known)) host? =
      known ++ (taking taken host?).filter (· ∉ known) := by
  cases host? with
  | none => rfl
  | some host =>
    by_cases old : host ∈ known
    · by_cases again : host ∈ taken
      · simp [taking, old, again]
      · simp [taking, old, again]
    · by_cases again : host ∈ taken
      · simp [taking, old, again]
      · simp [taking, old, again]

/-- What further lines bring is added behind what was taken before, but for what was. -/
theorem value_hosts_append (first second : List String) (log : Log.Logger) :
    (hosts (first ++ second) log).value = (hosts first log).value ++
      (hosts second log).value.filter (· ∉ (hosts first log).value) := by
  induction second using List.reverseRecOn with
  | nil => rw [List.append_nil, value_hosts_nil, List.filter_nil, List.append_nil]
  | append_singleton second line ih =>
    rw [← List.append_assoc, value_hosts_concat, ih, taking_append, value_hosts_concat]

/-- What a scan makes of the lines that it is given. -/
structure Scanned (lines : List String) (log : Log.Logger) : Prop where
  /-- The hosts are those that the lines answer for, in the order of the lines. -/
  taken : TakenFrom lines (hosts lines log).value
  /-- Each line that is noise is warned of once, in the order of the lines, and nothing else is
  said. -/
  events_eq : (hosts lines log).events = (lines.filter (Noise ·)).map (ignored log)
  /-- Wherever the lines are parted, the hosts of the first part are followed by those of the second
  that are not among them. -/
  parted : ∀ first second, lines = first ++ second → (hosts lines log).value =
    (hosts first log).value ++
      (hosts second log).value.filter (· ∉ (hosts first log).value)

/-- Whatever lines a scan is given, it finds the hosts that answer, once and in order. -/
theorem scanned_in_order (lines : List String) (log : Log.Logger) : Scanned lines log where
  taken := takenFrom_hosts lines log
  events_eq := events_hosts lines log
  parted first second whole := by
    subst whole
    exact value_hosts_append first second log

/-- Blank lines and noise stand between the answers of two hosts, one of which answers twice. -/
example : (hosts ["10.0.0.7 [public] edge", "\t", "Scanning 256 hosts", "10.0.0.1", "10.0.0.7"]
    .root).value = [⟨10, 0, 0, 7⟩, ⟨10, 0, 0, 1⟩] := by
  decide +kernel

end CableMap.Scan
