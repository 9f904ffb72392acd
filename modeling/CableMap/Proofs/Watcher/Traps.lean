import CableMap.Proofs.Watcher.Turns

/-!
# Traps while the watcher is at work

In whatever order traps come, the watcher makes its steps and the buffer is closed, the notes of a
run account for every trap: nothing that entered is lost, doubled or made up, and each round reads
every host once that had a trap enter since the round before took its traps. Each of three
invariants speaks of one thing: of the buffer, of the order of the traps, and of the rounds.
-/
namespace CableMap.Watcher

/-! ## What every step keeps -/

namespace Moment

variable {outlook : Outlook} {now later : Moment} {capacity : Nat}

/-- The buffer keeps to its bounds, and is open until it is closed. -/
structure Fits (capacity : Nat) (now : Moment) : Prop where
  room : now.watcher.traps.capacity = max capacity 1
  bounded : now.waiting.length ≤ max capacity 1
  open_iff : now.watcher.traps.isOpen = true ↔ ¬ now.Gone
  taking_open : now.stage.isTaking = true → now.watcher.traps.isOpen = true

/-- The traps that entered are where their order puts them. -/
structure InOrder (now : Moment) : Prop where
  entered : drained now.notes ++ now.inHand ++ givenUp now.notes ++ now.waiting = queued now.notes
  fresh : now.watcher.traps.isOpen = true → (tally now.notes).fresh = now.inHand ++ now.waiting

/-- A round that ended with a count after some notes read each host that was due, and counted
those that could be read. -/
def Complete (notes : List Note) (count : Nat) : Prop :=
  (tally notes).attempts.map (·.1) = (tally notes).due ∧ count = (tally notes).successes

/-- The round under way reads the hosts that are due one by one, and those that ended were
complete. -/
structure Reads (now : Moment) : Prop where
  attempted : (tally now.notes).attempts.map (·.1) ++ now.stillDue = (tally now.notes).due
  counted : ∀ due count, now.stage = .reading due count → count = (tally now.notes).successes
  ended : ∀ before count after, now.notes = before ++ .answered count :: after →
    Complete before count

/-- A trap that enters is put behind those that wait. -/
theorem waiting_afterPush (traps : TrapBuffer) (source : Ipv4) :
    (traps.afterPush source).waiting.toList =
      traps.waiting.toList ++ if traps.outcome = .queued then [source] else [] := by
  unfold TrapBuffer.afterPush
  split <;> simp

/-- Whether a trap enters changes neither the room in the buffer nor that it is open. -/
theorem afterPush_room (traps : TrapBuffer) (source : Ipv4) :
    (traps.afterPush source).capacity = traps.capacity ∧
      (traps.afterPush source).isOpen = traps.isOpen := by
  unfold TrapBuffer.afterPush
  split <;> simp

/-- A trap finds the buffer closed exactly if it is not open. -/
theorem outcome_eq_closed {traps : TrapBuffer} :
    traps.outcome = .closed ↔ traps.isOpen = false := by
  unfold TrapBuffer.outcome
  cases traps.isOpen <;> simp
  split <;> simp

/-- A trap enters exactly if the buffer is open and has room. -/
theorem outcome_eq_queued {traps : TrapBuffer} :
    traps.outcome = .queued ↔
      traps.isOpen = true ∧ traps.waiting.toList.length < traps.capacity := by
  unfold TrapBuffer.outcome
  cases traps.isOpen <;> simp

/-- A trap is dropped exactly if the buffer is open and full. -/
theorem outcome_eq_dropped {traps : TrapBuffer} :
    traps.outcome = .dropped ↔
      traps.isOpen = true ∧ traps.capacity ≤ traps.waiting.toList.length := by
  unfold TrapBuffer.outcome
  cases traps.isOpen <;> simp

/-- A trap that comes enters or does not. -/
theorem queued_pushed (source : Ipv4) (outcome : PushOutcome) :
    queued [.pushed source outcome] = if outcome = .queued then [source] else [] := by
  cases outcome <;> rfl

/-- Reading a host leaves the traps. -/
theorem refresh_traps (outlook : Outlook) (host : Ipv4) (watcher : Watcher) :
    (result (refresh outlook host) watcher).2.traps = watcher.traps := by
  have kept := result_read_traps outlook host .full [] watcher watcher.traps
  exact congrArg (fun ended => ended.2.traps) kept

/-- While the buffer is not closed no trap is given up. -/
theorem givenUp_eq_nil (kept : ¬ now.Gone) : givenUp now.notes = [] := by
  refine List.flatMap_eq_nil_iff.mpr fun note noted => ?_
  cases note with
  | closed sources => exact absurd ⟨sources, noted⟩ kept
  | _ => rfl

/-- A further note other than that of closing leaves the buffer closed or not. -/
theorem gone_append {watcher : Watcher} {stage : Stage} {note : Note}
    (other : ∀ sources, note ≠ .closed sources) :
    Gone ⟨watcher, stage, now.notes ++ [note]⟩ ↔ now.Gone := by
  unfold Gone
  refine exists_congr fun sources => ?_
  simp [Ne.symm (other sources)]

/-- At the start the buffer keeps to its bounds. -/
theorem Fits.start (store : Store) (capacity : Nat) : Fits capacity (start store capacity) where
  room := rfl
  bounded := Nat.zero_le _
  open_iff := by simp [Moment.start, Watcher.start, TrapBuffer.ofCapacity, Gone]
  taking_open := by simp [Moment.start, Stage.isTaking]

/-- A step leaves the buffer within its bounds. -/
theorem Fits.step (fits : Fits capacity now) (step : Step outlook now later) :
    Fits capacity later := by
  obtain ⟨room, bounded, open_iff, taking_open⟩ := fits
  cases step with
  | pushed source =>
    have same := afterPush_room now.watcher.traps source
    refine ⟨same.1.trans room, ?_, ?_, ?_⟩
    · unfold waiting
      rw [waiting_afterPush]
      split
      · have free := (outcome_eq_queued.mp ‹_›).2
        rw [room] at free
        rw [List.length_append, List.length_singleton]
        exact free
      · rw [List.append_nil]
        exact bounded
    · rw [gone_append (by simp), ← open_iff, same.2]
    · intro taking
      rw [same.2]
      exact taking_open taking
  | closed stillOpen free =>
    refine ⟨room, Nat.zero_le _, ?_, ?_⟩
    · simp [TrapBuffer.close, Gone]
    · simp [free]
  | begun idle stillOpen => exact ⟨room, bounded, open_iff, fun _ => stillOpen⟩
  | took taking first =>
    refine ⟨room, ?_, open_iff, fun _ => taking_open (by simp [taking, Stage.isTaking])⟩
    rw [first, List.length_cons] at bounded
    simp only [waiting]
    omega
  | drained taking none =>
    exact ⟨room, bounded, by rw [gone_append (by simp), ← open_iff], by simp [Stage.isTaking]⟩
  | @attempted host due refreshed reading succeeded outcome =>
    have same := refresh_traps outlook host now.watcher
    refine ⟨?_, ?_, ?_, by simp [Stage.isTaking]⟩
    · rw [same, room]
    · simpa only [waiting, same] using bounded
    · rw [gone_append (by simp), ← open_iff, same]
  | answered reading =>
    exact ⟨room, bounded, by rw [gone_append (by simp), ← open_iff], by simp [Stage.isTaking]⟩

/-- At the start no trap is out of its order. -/
theorem InOrder.start (store : Store) (capacity : Nat) : InOrder (start store capacity) :=
  ⟨rfl, fun _ => rfl⟩

/-- A step leaves the traps in their order. -/
theorem InOrder.step (inOrder : InOrder now) (fits : Fits capacity now)
    (step : Step outlook now later) : InOrder later := by
  obtain ⟨entered, fresh⟩ := inOrder
  cases step with
  | pushed source =>
    refine ⟨?_, fun stillOpen => ?_⟩
    · show drained (now.notes ++ [_]) ++ now.inHand ++ givenUp (now.notes ++ [_]) ++
        (now.watcher.traps.afterPush source).waiting.toList = queued (now.notes ++ [_])
      rw [waiting_afterPush, queued_append, queued_pushed, ← entered]
      simp [drained, givenUp, waiting]
    · have wasOpen := (afterPush_room now.watcher.traps source).2.symm.trans stillOpen
      show (tally (now.notes ++ [_])).fresh =
        now.inHand ++ (now.watcher.traps.afterPush source).waiting.toList
      rw [waiting_afterPush, tally_append_singleton, ← List.append_assoc]
      have before := fresh wasOpen
      cases now.watcher.traps.outcome <;> simp [Tally.note, before, waiting]
  | closed stillOpen free =>
    refine ⟨?_, fun still => absurd still (by simp [TrapBuffer.close])⟩
    have none : givenUp now.notes = [] := givenUp_eq_nil (fits.open_iff.mp stillOpen)
    rw [none, List.append_nil] at entered
    show drained (now.notes ++ [_]) ++ now.inHand ++ givenUp (now.notes ++ [_]) ++ [] =
      queued (now.notes ++ [_])
    rw [queued_append, ← entered, givenUp_append, none]
    simp [drained, givenUp, queued]
  | begun idle stillOpen =>
    have empty : now.inHand = [] := by simp [inHand, idle]
    rw [empty] at entered fresh
    exact ⟨entered, fresh⟩
  | @took taken source rest taking first =>
    have stillOpen := fits.taking_open (by simp [taking, Stage.isTaking])
    have none : givenUp now.notes = [] := givenUp_eq_nil (fits.open_iff.mp stillOpen)
    have held : now.inHand = taken := by simp [inHand, taking]
    rw [held, first] at entered fresh
    refine ⟨?_, fun _ => (fresh stillOpen).trans ?_⟩
    · show drained now.notes ++ (taken ++ [source]) ++ givenUp now.notes ++ rest = queued now.notes
      rw [← entered, none]
      simp
    · show taken ++ source :: rest = taken ++ [source] ++ rest
      simp
  | @drained taken taking none =>
    have stillOpen := fits.taking_open (by simp [taking, Stage.isTaking])
    have kept : givenUp now.notes = [] := givenUp_eq_nil (fits.open_iff.mp stillOpen)
    have held : now.inHand = taken := by simp [inHand, taking]
    rw [held, none, kept] at entered
    refine ⟨?_, fun _ => ?_⟩
    · show Watcher.drained (now.notes ++ [_]) ++ [] ++ givenUp (now.notes ++ [_]) ++ now.waiting =
        queued (now.notes ++ [_])
      rw [none, queued_append, ← entered, givenUp_append, kept, drained_append]
      simp [Watcher.drained, givenUp, queued]
    · show (tally (now.notes ++ [_])).fresh = [] ++ now.waiting
      rw [none, tally_append_singleton]
      rfl
  | @attempted host due refreshed reading succeeded outcome =>
    have same := refresh_traps outlook host now.watcher
    have empty : now.inHand = [] := by simp [inHand, reading]
    rw [empty] at entered fresh
    refine ⟨?_, fun stillOpen => ?_⟩
    · simp only [waiting, same, queued_append, drained_append, givenUp_append]
      simpa [queued, Watcher.drained, givenUp, inHand, waiting] using entered
    · rw [same] at stillOpen
      simpa [waiting, same, inHand, Tally.note] using fresh stillOpen
  | answered reading =>
    have empty : now.inHand = [] := by simp [inHand, reading]
    rw [empty] at entered fresh
    refine ⟨?_, fun stillOpen => ?_⟩
    · simp only [waiting, queued_append, drained_append, givenUp_append]
      simpa [queued, Watcher.drained, givenUp, inHand, waiting] using entered
    · simpa [waiting, inHand, Tally.note] using fresh stillOpen

/-- After a further note, the rounds that ended are those that had ended and the one that this
note ends. -/
theorem ended_append {notes : List Note} {note : Note}
    (ended : ∀ before count after, notes = before ++ .answered count :: after →
      Complete before count)
    (last : ∀ count, note = .answered count → Complete notes count) :
    ∀ before count after, notes ++ [note] = before ++ .answered count :: after →
      Complete before count := by
  intro before count after cut
  rcases List.eq_nil_or_concat after with rfl | ⟨rest, final, rfl⟩
  · obtain ⟨rfl, same⟩ := List.append_inj' cut rfl
    exact last count (List.singleton_inj.mp same)
  · refine ended before count rest ?_
    rw [List.concat_eq_append, ← List.cons_append, ← List.append_assoc] at cut
    exact (List.append_inj' cut rfl).1

/-- At the start no round is under way. -/
theorem Reads.start (store : Store) (capacity : Nat) : Reads (start store capacity) where
  attempted := rfl
  counted := by simp [Moment.start]
  ended := by simp [Moment.start]

/-- A step leaves the rounds complete, but for the one under way. -/
theorem Reads.step (reads : Reads now) (inOrder : InOrder now) (fits : Fits capacity now)
    (step : Step outlook now later) : Reads later := by
  obtain ⟨attempted, counted, ended⟩ := reads
  cases step with
  | pushed source =>
    refine ⟨?_, fun due count reading => ?_, ended_append ended (by simp)⟩
    · rw [tally_append_singleton]
      cases now.watcher.traps.outcome <;> exact attempted
    · rw [tally_append_singleton]
      cases now.watcher.traps.outcome <;> exact counted due count reading
  | closed stillOpen free =>
    refine ⟨?_, fun due count reading => ?_, ended_append ended (by simp)⟩
    · rw [tally_append_singleton]
      exact attempted
    · rw [tally_append_singleton]
      exact counted due count reading
  | begun idle stillOpen =>
    have nothing : now.stillDue = [] := by simp [stillDue, idle]
    rw [nothing] at attempted
    exact ⟨attempted, by simp, ended⟩
  | took taking first =>
    have nothing : now.stillDue = [] := by simp [stillDue, taking]
    rw [nothing] at attempted
    exact ⟨attempted, by simp, ended⟩
  | @drained taken taking none =>
    have stillOpen := fits.taking_open (by simp [taking, Stage.isTaking])
    have fresh : (tally now.notes).fresh = taken := by
      rw [inOrder.fresh stillOpen, none]
      simp [inHand, taking]
    refine ⟨?_, fun due count reading => ?_, ended_append ended (by simp)⟩
    · rw [tally_append_singleton, ← fresh]
      rfl
    · cases reading
      rw [tally_append_singleton]
      rfl
  | @attempted host due refreshed reading succeeded outcome =>
    have before := counted _ _ reading
    have rest : now.stillDue = host :: due := by simp [stillDue, reading]
    rw [rest] at attempted
    refine ⟨?_, fun due count reading => ?_, ended_append ended (by simp)⟩
    · rw [tally_append_singleton]
      simpa [Tally.note, stillDue] using attempted
    · cases reading
      rw [tally_append_singleton, before]
      cases succeeded <;> simp [Tally.note, Tally.successes]
  | @answered refreshed reading =>
    have nothing : now.stillDue = [] := by simp [stillDue, reading]
    rw [nothing, List.append_nil] at attempted
    refine ⟨?_, by simp, ended_append ended fun count same => ?_⟩
    · rw [tally_append_singleton]
      simpa [Tally.note, stillDue] using attempted
    · cases same
      exact ⟨attempted, counted _ _ reading⟩

/-- What holds at every moment of a run. -/
structure Kept (capacity : Nat) (now : Moment) : Prop where
  fits : Fits capacity now
  inOrder : InOrder now
  reads : Reads now

/-- A turn keeps what holds at every moment. -/
theorem Kept.turn (kept : Kept capacity now) (outlook : Outlook) (turn : Turn) :
    Kept capacity (now.turn outlook turn) := by
  rcases turn_step outlook now turn with same | step
  · rw [same]
    exact kept
  · exact ⟨kept.fits.step step, kept.inOrder.step kept.fits step,
      kept.reads.step kept.inOrder kept.fits step⟩

/-- A run keeps what holds at every moment. -/
theorem Kept.run (kept : Kept capacity now) (outlook : Outlook) (turns : List Turn) :
    Kept capacity (now.run outlook turns) := by
  induction turns generalizing now with
  | nil => exact kept
  | cons turn turns ih => exact ih (kept.turn outlook turn)

/-- Every run from the start keeps to its bounds and accounts for its traps. -/
theorem kept_run (outlook : Outlook) (store : Store) (capacity : Nat) (turns : List Turn) :
    Kept capacity ((start store capacity).run outlook turns) :=
  Kept.run ⟨.start store capacity, .start store capacity, .start store capacity⟩ outlook turns

/-! ## A round that nothing breaks into -/

/-- The watcher comes to a later moment by steps of its own with nothing in between. -/
def Undisturbed (outlook : Outlook) (now later : Moment) : Prop :=
  ∃ steps, now.run outlook (List.replicate steps .proceed) = later

/-- To come to a moment from itself nothing is needed. -/
theorem Undisturbed.refl (now : Moment) : Undisturbed outlook now now := ⟨0, rfl⟩

/-- One more step in front, with nothing in between, is no disturbance. -/
theorem Undisturbed.head (rest : Undisturbed outlook (now.proceed outlook) later) :
    Undisturbed outlook now later := by
  obtain ⟨steps, ended⟩ := rest
  exact ⟨steps + 1, ended⟩

/-- All traps that wait are taken out one by one. -/
theorem undisturbed_taking (watcher : Watcher) (taken : List Ipv4) (notes : List Note)
    {waiting : List Ipv4} (waits : watcher.traps.waiting.toList = waiting)
    (rest : Undisturbed outlook ⟨{ watcher with traps := { watcher.traps with waiting := #[] } },
      .reading (taken ++ waiting).eraseDups 0, notes ++ [.drained (taken ++ waiting)]⟩ later) :
    Undisturbed outlook ⟨watcher, .taking taken, notes⟩ later := by
  induction waiting generalizing watcher taken with
  | nil =>
    refine Undisturbed.head ?_
    have empty : watcher.traps.waiting = #[] := Array.toList_inj.mp waits
    simpa [proceed, TrapBuffer.receive?, waits, ← empty] using rest
  | cons source waiting ih =>
    refine Undisturbed.head ?_
    simp only [proceed, TrapBuffer.receive?, waits]
    exact ih _ (taken ++ [source]) rfl (by simpa using rest)

/-- All hosts that are due are read one by one. -/
theorem undisturbed_reading (outlook : Outlook) (watcher : Watcher) (due : List Ipv4)
    (refreshed : Nat) (notes : List Note) :
    ∃ more, Undisturbed outlook ⟨watcher, .reading due refreshed, notes⟩
      ⟨((due.foldlM (answerTrap outlook) refreshed).run watcher).value.2, .idle,
        notes ++ more ++
          [.answered ((due.foldlM (answerTrap outlook) refreshed).run watcher).value.1]⟩ := by
  induction due generalizing watcher refreshed notes with
  | nil => exact ⟨[], Undisturbed.head (by simpa [proceed] using .refl _)⟩
  | cons host due ih =>
    obtain ⟨more, rest⟩ := ih ((answerTrap outlook refreshed host).run watcher).value.2
      ((answerTrap outlook refreshed host).run watcher).value.1
      (notes ++ [.attempted host (result (refresh outlook host) watcher).1.isOk])
    refine ⟨.attempted host (result (refresh outlook host) watcher).1.isOk :: more,
      Undisturbed.head ?_⟩
    rw [List.foldlM_cons, StateT.run_bind, Traced.value_bind]
    simpa [proceed] using rest

/-- What answering the traps comes to: the traps are taken out, and the hosts read in turn. -/
theorem value_answerTraps (outlook : Outlook) (watcher : Watcher) :
    ((answerTraps outlook).run watcher).value =
      ((watcher.traps.waiting.toList.eraseDups.foldlM (answerTrap outlook) 0).run
        { watcher with traps := { watcher.traps with waiting := #[] } }).value := rfl

/-- A round that nothing breaks into is the answering of the traps. -/
theorem undisturbed_round (outlook : Outlook) (idle : now.stage = .idle)
    (stillOpen : now.watcher.traps.isOpen = true) :
    ∃ notes, Undisturbed outlook now
      ⟨((answerTraps outlook).run now.watcher).value.2, .idle,
        now.notes ++ notes ++ [.answered ((answerTraps outlook).run now.watcher).value.1]⟩ := by
  obtain ⟨watcher, stage, notes⟩ := now
  cases idle
  have begun : proceed outlook ⟨watcher, .idle, notes⟩ = ⟨watcher, .taking [], notes⟩ :=
    if_pos stillOpen
  obtain ⟨more, rest⟩ := undisturbed_reading outlook
    { watcher with traps := { watcher.traps with waiting := #[] } }
    watcher.traps.waiting.toList.eraseDups 0
    (notes ++ [.drained watcher.traps.waiting.toList])
  refine ⟨.drained watcher.traps.waiting.toList :: more, Undisturbed.head ?_⟩
  rw [begun, value_answerTraps]
  exact undisturbed_taking watcher [] notes rfl (by simpa using rest)

/-! ## A round among other turns -/

/-- A round that reads its hosts ends after as many steps of the watcher and one more, whatever
comes between them. -/
theorem reading_ends (outlook : Outlook) (turns : List Turn) {due : List Ipv4} {refreshed : Nat}
    (reading : now.stage = .reading due refreshed)
    (enough : due.length < turns.countP Turn.isProceed) :
    ∃ before after, turns = before ++ after ∧ (now.run outlook before).stage = .idle := by
  induction turns generalizing now due refreshed with
  | nil => simp at enough
  | cons turn turns ih =>
    -- A turn that leaves hosts to be read is followed by the rest.
    have later {rest : List Ipv4} {count : Nat}
        (still : (now.turn outlook turn).stage = .reading rest count)
        (more : rest.length < turns.countP Turn.isProceed) :
        ∃ before after, turn :: turns = before ++ after ∧
          (now.run outlook before).stage = .idle := by
      obtain ⟨before, after, cut, idle⟩ := ih still more
      exact ⟨turn :: before, after, by rw [cut, List.cons_append], idle⟩
    cases turn with
    | push source log => exact later reading (by simpa [Turn.isProceed] using enough)
    | close =>
      have left : now.close.stage = .reading due refreshed := by
        unfold close
        split <;> exact reading
      exact later left (by simpa [Turn.isProceed] using enough)
    | proceed =>
      rw [List.countP_cons_of_pos rfl] at enough
      cases due with
      | nil => exact ⟨[.proceed], turns, rfl, by simp [run, turn, proceed, reading]⟩
      | cons host due =>
        have step : (now.proceed outlook).stage =
            .reading due ((answerTrap outlook refreshed host).run now.watcher).value.1 := by
          simp only [proceed, reading]
        exact later step (by simpa using enough)

end Moment

/-! ## The account of a run -/

/-- What becomes of a trap of a host that comes at a moment. -/
def Moment.verdict (now : Moment) (source : Ipv4) (log : Log.Logger) : PushOutcome :=
  ((TrapBuffer.push source log).run now.watcher.traps).value.1

/-- No trap that entered is lost, doubled or made up. -/
structure Accounted (outlook : Outlook) (capacity : Nat) (now : Moment) : Prop where
  /-- No more traps wait than the buffer is for. -/
  bounded : now.waiting.length ≤ max capacity 1
  /-- A trap is dropped if the buffer is full and was not closed. -/
  dropped : ∀ source log, now.verdict source log = .dropped ↔
    ¬ now.Gone ∧ now.waiting.length = max capacity 1
  /-- A trap is refused if the buffer was closed. -/
  refused : ∀ source log, now.verdict source log = .closed ↔ now.Gone
  /-- Any other trap enters. -/
  enters : ∀ source log, now.verdict source log = .queued ↔
    ¬ now.Gone ∧ now.waiting.length < max capacity 1
  /-- The traps that were taken out and those that were not are the traps that entered, in their
  order. -/
  inOrder : drained now.notes ++ now.inHand ++ givenUp now.notes ++ now.waiting = queued now.notes
  /-- A round that ended had read each host with a trap since the traps were last taken out, once
  and in the order of these traps, and counted those that could be read. -/
  rounds : ∀ before count after, now.notes = before ++ .answered count :: after →
    (tally before).attempts.map (·.1) = (tally before).due ∧ count = (tally before).successes
  /-- A round that has not ended has read some of these hosts, in the same order. -/
  underWay : (tally now.notes).attempts.map (·.1) <+: (tally now.notes).due
  /-- It ends after one step for each of the others and one more, whatever comes between. -/
  ends : ∀ due count turns, now.stage = .reading due count →
    due.length < turns.countP Turn.isProceed →
      ∃ before after, turns = before ++ after ∧ (now.run outlook before).stage = .idle
  /-- Traps that come while a host is read make no difference to the reading. -/
  aside : ∀ host traps, result (refresh outlook host) { now.watcher with traps } =
    ((result (refresh outlook host) now.watcher).1,
      { (result (refresh outlook host) now.watcher).2 with traps })
  /-- A round that nothing breaks into is the answering of the traps. -/
  unbroken : now.stage = .idle → now.watcher.traps.isOpen = true →
    ∃ steps notes, now.run outlook (List.replicate steps .proceed) =
      ⟨((answerTraps outlook).run now.watcher).value.2, .idle,
        now.notes ++ notes ++ [.answered ((answerTraps outlook).run now.watcher).value.1]⟩

/-- At every moment of every run, in whatever order traps come, the watcher works and the buffer
is closed, the traps are accounted for. -/
theorem traps_accounted (outlook : Outlook) (store : Store) (capacity : Nat) (turns : List Turn) :
    Accounted outlook capacity ((Moment.start store capacity).run outlook turns) := by
  have kept := Moment.kept_run outlook store capacity turns
  generalize (Moment.start store capacity).run outlook turns = now at kept
  obtain ⟨⟨room, bounded, open_iff, _⟩, ⟨entered, _⟩, ⟨attempted, _, ended⟩⟩ := kept
  have verdict (source : Ipv4) (log : Log.Logger) :
      now.verdict source log = now.watcher.traps.outcome :=
    congrArg Prod.fst (value_push source log now.watcher.traps)
  constructor
  case bounded => exact bounded
  case dropped =>
    intro source log
    rw [verdict, Moment.outcome_eq_dropped, open_iff, room]
    refine and_congr_right fun _ => ⟨fun full => ?_, fun full => ?_⟩
    · exact Nat.le_antisymm bounded full
    · exact Nat.le_of_eq full.symm
  case refused =>
    intro source log
    rw [verdict, Moment.outcome_eq_closed, ← Bool.not_eq_true, open_iff, Classical.not_not]
  case enters =>
    intro source log
    rw [verdict, Moment.outcome_eq_queued, open_iff, room]
    rfl
  case inOrder => exact entered
  case rounds => exact ended
  case underWay => exact ⟨now.stillDue, attempted⟩
  case ends => exact fun due count turns reading => Moment.reading_ends outlook turns reading
  case aside => exact fun host traps => result_read_traps outlook host .full [] now.watcher traps
  case unbroken =>
    intro idle stillOpen
    obtain ⟨notes, steps, ended⟩ := Moment.undisturbed_round outlook idle stillOpen
    exact ⟨steps, notes, ended⟩

/-- Even a buffer for no trap has room for one. -/
example (outlook : Outlook) (store : Store) (log : Log.Logger) (first second : Ipv4) :
    ((Moment.start store 0).run outlook
      [.push first log, .push second log, .close, .push second log]).notes =
      [.pushed first .queued, .pushed second .dropped, .closed [first],
        .pushed second .closed] := rfl

end CableMap.Watcher
