import CableMap.Proofs.Watcher.Failing
import CableMap.Proofs.Watcher.System

/-!
# A rescan agrees with a full reading

A rescan walks the tables of a host only, reads them with a smaller catalog, and appends what the
host said of its system when it was last read in full, through however many rescans since. Where
the outputs of walks keep to the identifiers that were walked, and the host says of its system what
it said then, this comes to the same as to read all of the host: the same store, row numbers
included, and the same bindings in every column.
-/
namespace CableMap

/-- No line of the output of a walk mentions an identifier other than the one that was walked. -/
def Outlook.Faithful (outlook : Outlook) : Prop :=
  ∀ made walk output, walk.oid ∈ Catalog.full →
    (outlook.answers made walk).value = .ok output → Binding.KeepsTo walk.oid output

namespace Watcher

variable {outlook : Outlook} {host : Ipv4} {fixed : Walk → Except Failure String}

/-! ## The walks of a catalog that succeed -/

/-- The answer of a host to the walk of an identifier that is made after some others. -/
def answerTo (outlook : Outlook) (host : Ipv4) (made : Nat) (oid : Oid) : Except Failure String :=
  (outlook.answers made ⟨host, outlook.community, oid⟩).value

/-- Walks that are answered come to their outputs. -/
theorem walks_of_answers {catalog : Catalog} {text : String} {walked : Nat}
    {output : Oid → String}
    (answered : ∀ place oid, catalog[place]? = some oid →
      answerTo outlook host (walked + place) oid = .ok (output oid)) :
    walks outlook host catalog text walked =
      (.ok (Walk.joined text (catalog.map output)), walked + catalog.length) := by
  induction catalog generalizing text walked with
  | nil => rfl
  | cons oid catalog ih =>
    have first : (outlook.answers walked ⟨host, outlook.community, oid⟩).value =
        .ok (output oid) := answered 0 oid rfl
    rw [walks, first]
    dsimp only
    rw [ih fun place other found => ?_, List.length_cons, Nat.add_assoc, Nat.add_comm 1]
    · rfl
    · rw [Nat.add_assoc, Nat.add_comm 1]
      exact answered (place + 1) other found

/-- Walks that come to a text are all answered. -/
theorem answer_of_walks {catalog : Catalog} {text whole : String} {walked count : Nat}
    (ended : walks outlook host catalog text walked = (.ok whole, count)) (place : Nat) (oid : Oid)
    (found : catalog[place]? = some oid) :
    ∃ output, answerTo outlook host (walked + place) oid = .ok output := by
  induction catalog generalizing text walked place with
  | nil => cases found
  | cons head catalog ih =>
    rw [walks] at ended
    cases first : (outlook.answers walked ⟨host, outlook.community, head⟩).value with
    | error failure =>
      rw [first] at ended
      cases ended
    | ok output =>
      rw [first] at ended
      cases place with
      | zero =>
        obtain rfl : head = oid := Option.some.inj found
        exact ⟨output, first⟩
      | succ place =>
        obtain ⟨later, came⟩ := ih ended place found
        refine ⟨later, ?_⟩
        rw [← came, Nat.add_assoc, Nat.add_comm 1]

/-- Walks of a catalog that come to a text have an output for each identifier. -/
theorem outputs_of_walks {catalog : Catalog} (nodup : catalog.Nodup) {text whole : String}
    {walked count : Nat} (ended : walks outlook host catalog text walked = (.ok whole, count)) :
    ∃ output : Oid → String, ∀ place oid, catalog[place]? = some oid →
      answerTo outlook host (walked + place) oid = .ok (output oid) := by
  have each (oid : Oid) : ∃ output, ∀ place, catalog[place]? = some oid →
      answerTo outlook host (walked + place) oid = .ok output := by
    by_cases among : oid ∈ catalog
    · obtain ⟨place, found⟩ := List.mem_iff_getElem?.mp among
      obtain ⟨output, came⟩ := answer_of_walks ended place oid found
      refine ⟨output, fun other found' => ?_⟩
      obtain ⟨inside, _⟩ := List.getElem?_eq_some_iff.mp found
      obtain rfl : place = other := (List.getElem?_inj inside nodup).mp (found.trans found'.symm)
      exact came
    · exact ⟨"", fun place found => absurd (List.mem_of_getElem? found) among⟩
  choose output answered using each
  exact ⟨output, fun place oid => answered oid place⟩

/-! ## The last reading in full -/

/-- The reading is one of all of a host, and it succeeds. -/
def Visit.isWhole (outlook : Outlook) (host : Ipv4) (visit : Visit) : Bool :=
  visit.reading.host = host && (visit.reading.plan visit.watcher.known).1 = Catalog.full &&
    visit.succeeds outlook

/-- The watcher that read all of a host with success the last time, as it was before. -/
def lastWhole? (outlook : Outlook) (host : Ipv4) (made : List Visit) : Option Watcher :=
  (made.filter (·.isWhole outlook host)).getLast?.map (·.watcher)

/-- A whole reading that succeeds is the last one of its host. -/
theorem lastWhole?_concat {made : List Visit} {visit : Visit}
    (whole : visit.isWhole outlook host = true) :
    lastWhole? outlook host (made ++ [visit]) = some visit.watcher := by
  rw [lastWhole?, List.filter_append, List.filter_cons_of_pos whole, List.filter_nil,
    List.getLast?_concat, Option.map_some]

/-- Any other reading leaves the last whole one of a host as it was. -/
theorem lastWhole?_concat_of_not {made : List Visit} {visit : Visit}
    (other : visit.isWhole outlook host = false) :
    lastWhole? outlook host (made ++ [visit]) = lastWhole? outlook host made := by
  rw [lastWhole?, List.filter_append, List.filter_cons_of_neg (by simp [other]), List.filter_nil,
    List.append_nil, lastWhole?]

/-- What is carried over of a known host is what it said when it was last read in full. -/
def Carried (outlook : Outlook) (made : List Visit) (now : Watcher) : Prop :=
  ∀ host bindings, now.known.bindingsOf? host = some bindings →
    ∃ begun, lastWhole? outlook host made = some begun ∧ ∃ text count,
      walks outlook host .full "" begun.walked = (.ok text, count) ∧
        systemBindings bindings = systemBindings (gathered outlook host .full [] text)

/-- A reading keeps what is carried over. -/
theorem Carried.read {made : List Visit} {now : Watcher} (carried : Carried outlook made now)
    (reading : Reading) :
    Carried outlook (made ++ [⟨now, reading⟩]) (reading.after outlook now) := by
  intro host bindings reported
  cases outcome : Visit.succeeds outlook ⟨now, reading⟩ with
  | false =>
    have other : Visit.isWhole outlook host ⟨now, reading⟩ = false := by
      rw [Visit.isWhole, outcome, Bool.and_false]
    rw [lastWhole?_concat_of_not other]
    rw [(after_of_failed outcome).2] at reported
    exact carried host bindings reported
  | true =>
    obtain ⟨text, count, ended, recorded⟩ := known_of_succeeds outcome
    rw [recorded] at reported
    by_cases own : host = reading.host
    · subst own
      rw [KnownHosts.bindingsOf?_record_self] at reported
      obtain rfl := Option.some.inj reported
      rcases reading.plan_cases now.known with plan | ⟨old, kept, plan⟩
      · have whole : Visit.isWhole outlook reading.host ⟨now, reading⟩ = true := by
          rw [Visit.isWhole, outcome, plan]
          simp
        rw [plan] at ended ⊢
        exact ⟨now, lastWhole?_concat whole, text, count, ended, rfl⟩
      · have partly : Visit.isWhole outlook reading.host ⟨now, reading⟩ = false := by
          have apart : Catalog.tables ≠ Catalog.full := by decide
          rw [Visit.isWhole, plan, decide_eq_false apart, Bool.and_false, Bool.false_and]
        rw [lastWhole?_concat_of_not partly, plan, systemBindings_gathered]
        exact carried reading.host old kept
    · have other : Visit.isWhole outlook host ⟨now, reading⟩ = false := by
        rw [Visit.isWhole, decide_eq_false (Ne.symm own), Bool.false_and, Bool.false_and]
      rw [KnownHosts.bindingsOf?_record_of_ne own] at reported
      rw [lastWhole?_concat_of_not other]
      exact carried host bindings reported

/-- In every run, what is carried over of a known host is what it said when it was last read in
full. -/
theorem carried_reached {store : Store} {traps : TrapBuffer} {made : List Visit} {now : Watcher}
    (reached : Reaches outlook (start store traps) made now) : Carried outlook made now := by
  induction reached with
  | start =>
    intro host bindings reported
    cases reported
  | traps _ _ ih => exact ih
  | read _ reading ih => exact ih.read reading

/-! ## A rescan and a full reading -/

/-- What is walked in full is the system and the tables. -/
theorem mem_full {oid : Oid} : oid ∈ Catalog.full ↔ oid ∈ Catalog.system ∨ oid ∈ Catalog.tables := by
  rw [Catalog.full, List.append_assoc, List.mem_append, Catalog.tables]

/-- What hosts that keep to the identifiers answer is gathered output by output. -/
theorem gathered_joined (faithful : outlook.Faithful) {catalog : Catalog}
    (covered : ∀ oid ∈ catalog, oid ∈ Catalog.full) {walked : Nat} {output : Oid → String}
    (answered : ∀ place oid, catalog[place]? = some oid →
      answerTo outlook host (walked + place) oid = .ok (output oid))
    (carried : List Binding) :
    gathered outlook host catalog carried (Walk.joined "" (catalog.map output)) =
      (catalog.flatMap fun oid => Binding.ofOutput oid (output oid)) ++ carried := by
  unfold gathered
  rw [Binding.value_readAll_joined covered]
  intro oid among
  obtain ⟨place, found⟩ := List.mem_iff_getElem?.mp among
  exact faithful (walked + place) ⟨host, outlook.community, oid⟩ (output oid) (covered oid among)
    (answered place oid found)

/-- What is read of the tables and what was carried over of an earlier reading in full fill the
columns as a reading in full does, if the host says of its system what it said then. -/
theorem column_rescan {earlier output : Oid → String}
    (unchanged : ∀ oid ∈ Catalog.system, earlier oid = output oid) (oid : Oid) :
    Binding.column ((Catalog.tables.flatMap fun oid => Binding.ofOutput oid (output oid)) ++
        systemBindings (Catalog.full.flatMap fun oid => Binding.ofOutput oid (earlier oid))) oid =
      Binding.column (Catalog.full.flatMap fun oid => Binding.ofOutput oid (output oid)) oid := by
  rw [Binding.column_append, column_systemBindings,
    Binding.column_flatMap_ofOutput Catalog.tables_nodup,
    Binding.column_flatMap_ofOutput Catalog.full_nodup,
    Binding.column_flatMap_ofOutput Catalog.full_nodup]
  by_cases inTables : oid ∈ Catalog.tables
  · rw [if_pos inTables, if_pos inTables, if_pos (mem_full.mpr (.inr inTables)), List.append_nil]
  · rw [if_neg inTables, if_neg inTables, List.nil_append]
    by_cases inSystem : oid ∈ Catalog.system
    · rw [if_pos (mem_full.mpr (.inl inSystem)), if_pos (mem_full.mpr (.inl inSystem)),
        unchanged oid inSystem]
    · have outside : oid ∉ Catalog.full := fun among =>
        (mem_full.mp among).elim inSystem inTables
      rw [if_neg outside, if_neg outside]

/-- Two readings of a host come to the same, but for the order of what they gathered of it. -/
structure SameReading (host : Ipv4) (left right : Except Failure Store.Recorded × Watcher) :
    Prop where
  /-- Both succeed with the same counts, or both fail for the same reason. -/
  outcome : left.1 = right.1
  /-- The store is the same. -/
  store : left.2.store = right.2.store
  /-- Of the host the same is known in every column. -/
  columns : ∀ oid, (left.2.known.bindingsOf? host).map (Binding.column · oid) =
    (right.2.known.bindingsOf? host).map (Binding.column · oid)
  /-- Of every other host the same is known. -/
  others : ∀ other ≠ host, left.2.known.bindingsOf? other = right.2.known.bindingsOf? other

/-- To record bindings with the same columns comes to the same. -/
theorem sameReading_settle {left right : List Binding}
    (columns : ∀ oid, Binding.column left oid = Binding.column right oid) {first second : Watcher}
    (same : SameRecords first second) :
    SameReading host (settle outlook host left first) (settle outlook host right second) := by
  have seen : observed outlook host left = observed outlook host right :=
    Observation.ofBindings_congr columns
  unfold settle
  rw [seen, same.store, same.known]
  rcases Store.result (Store.record (observed outlook host right) (hostLogger outlook host))
    second.store with ⟨failure | recorded, store⟩
  · exact ⟨rfl, rfl, fun _ => rfl, fun _ _ => rfl⟩
  · refine ⟨rfl, rfl, fun oid => ?_, fun other apart => ?_⟩
    · dsimp only
      rw [KnownHosts.bindingsOf?_record_self, KnownHosts.bindingsOf?_record_self, Option.map_some,
        Option.map_some, columns]
    · dsimp only
      rw [KnownHosts.bindingsOf?_record_of_ne apart, KnownHosts.bindingsOf?_record_of_ne apart]

/-- An identifier of the system is walked at the same place of the whole catalog. -/
theorem getElem?_full {place : Nat} {oid : Oid} (found : Catalog.system[place]? = some oid) :
    Catalog.full[place]? = some oid := by
  obtain ⟨inside, _⟩ := List.getElem?_eq_some_iff.mp found
  rw [Catalog.full, List.append_assoc, List.getElem?_append_left inside, found]

/-- What is carried over of a host whose answers keep to the identifiers is what its outputs said
when it was last read in full. -/
theorem Carried.outputs (faithful : outlook.Faithful) {made : List Visit} {now : Watcher}
    (carried : Carried outlook made now) {bindings : List Binding}
    (reported : now.known.bindingsOf? host = some bindings) :
    ∃ begun, lastWhole? outlook host made = some begun ∧ ∃ earlier : Oid → String,
      (∀ place oid, Catalog.full[place]? = some oid →
        answerTo outlook host (begun.walked + place) oid = .ok (earlier oid)) ∧
      systemBindings bindings =
        systemBindings (Catalog.full.flatMap fun oid => Binding.ofOutput oid (earlier oid)) := by
  obtain ⟨begun, last, text, count, ended, system⟩ := carried host bindings reported
  obtain ⟨earlier, answered⟩ := outputs_of_walks Catalog.full_nodup ended
  have joined := ended.symm.trans (walks_of_answers answered)
  rw [Prod.mk.injEq, Except.ok.injEq] at joined
  rw [joined.1, gathered_joined faithful (fun _ among => among) answered, List.append_nil] at system
  exact ⟨begun, last, earlier, answered, system⟩

/-- To read a catalog of hosts that answer the same and keep to the identifiers comes to what
recording their outputs comes to. -/
theorem result_read_answering (faithful : (outlook.answering fixed).Faithful) {catalog : Catalog}
    (covered : ∀ oid ∈ catalog, oid ∈ Catalog.full) {output : Oid → String}
    (answered : ∀ oid ∈ Catalog.full, fixed ⟨host, outlook.community, oid⟩ = .ok (output oid))
    (carried : List Binding) (watcher : Watcher) :
    result (read (outlook.answering fixed) host catalog carried) watcher =
      settle (outlook.answering fixed) host
        ((catalog.flatMap fun oid => Binding.ofOutput oid (output oid)) ++ carried)
        { watcher with walked := watcher.walked + catalog.length } := by
  have each (place : Nat) (oid : Oid) (found : catalog[place]? = some oid) :
      answerTo (outlook.answering fixed) host (watcher.walked + place) oid = .ok (output oid) :=
    answered oid (covered oid (List.mem_of_getElem? found))
  rw [result_read, walks_of_answers each]
  dsimp only
  rw [gathered_joined faithful covered each]

/-- A host that answers all walks has an output for every identifier. -/
theorem outputs_of_answered {community : String}
    (answered : ∀ oid ∈ Catalog.full, (fixed ⟨host, community, oid⟩).isOk) :
    ∃ output : Oid → String, ∀ oid ∈ Catalog.full,
      fixed ⟨host, community, oid⟩ = .ok (output oid) := by
  have each (oid : Oid) : ∃ output, oid ∈ Catalog.full →
      fixed ⟨host, community, oid⟩ = .ok output := by
    by_cases among : oid ∈ Catalog.full
    · cases came : fixed ⟨host, community, oid⟩ with
      | ok output => exact ⟨output, fun _ => rfl⟩
      | error failure =>
        have isOk := answered oid among
        rw [came] at isOk
        cases isOk
    · exact ⟨"", fun inside => absurd inside among⟩
  choose output outputs using each
  exact ⟨output, outputs⟩

/-- A rescan and a full reading of a host that answers all walks come to the same, if what is
carried over is what the host says of its system. -/
theorem sameReading_of_unchanged (faithful : (outlook.answering fixed).Faithful) {now : Watcher}
    {bindings : List Binding} (reported : now.known.bindingsOf? host = some bindings)
    {earlier output : Oid → String}
    (system : systemBindings bindings =
      systemBindings (Catalog.full.flatMap fun oid => Binding.ofOutput oid (earlier oid)))
    (outputs : ∀ oid ∈ Catalog.full, fixed ⟨host, outlook.community, oid⟩ = .ok (output oid))
    (unchanged : ∀ oid ∈ Catalog.system, earlier oid = output oid) :
    SameReading host (result (refreshTables (outlook.answering fixed) host) now)
      (result (refresh (outlook.answering fixed) host) now) := by
  have covered : ∀ oid ∈ Catalog.tables, oid ∈ Catalog.full := fun _ inside =>
    mem_full.mpr (.inr inside)
  have rescanned : result (refreshTables (outlook.answering fixed) host) now = _ :=
    (result_refreshTables_of_known reported).trans
      (result_read_answering faithful covered outputs (systemBindings bindings) now)
  have refreshed : result (refresh (outlook.answering fixed) host) now = _ :=
    result_read_answering faithful (fun _ among => among) outputs [] now
  rw [rescanned, refreshed, system, List.append_nil]
  exact sameReading_settle (column_rescan unchanged) ⟨rfl, rfl⟩

/-- A rescan of a known host agrees with a full reading of it. The outputs of walks keep to the
identifiers that were walked, at all times, and the host answers all walks. Then it was read in full
with success before; and if it says of its system what it said the last time, to read its tables
comes to the same as to read all of it. On a store that the program wrote both succeed. -/
theorem rescan_agrees_with_refresh (faithful : outlook.Faithful)
    (laterFaithful : (outlook.answering fixed).Faithful) (store : Store) (traps : TrapBuffer)
    (activities : List Activity)
    (isKnown : host ∈ (afterAll outlook activities (start store traps)).known.addresses)
    (answered : ∀ oid ∈ Catalog.full, (fixed ⟨host, outlook.community, oid⟩).isOk) :
    let now := afterAll outlook activities (start store traps)
    let later := outlook.answering fixed
    ∃ begun, lastWhole? outlook host (visits outlook activities (start store traps)) = some begun ∧
      ((∀ place oid, Catalog.system[place]? = some oid →
          answerTo outlook host (begun.walked + place) oid =
            fixed ⟨host, outlook.community, oid⟩) →
        SameReading host (result (refreshTables later host) now)
          (result (refresh later host) now)) ∧
      (store.Written → (result (refreshTables later host) now).1.isOk ∧
        (result (refresh later host) now).1.isOk) := by
  intro now later
  have reached := reaches_afterAll outlook activities (start store traps)
  obtain ⟨bindings, reported⟩ := KnownHosts.mem_addresses.mp isKnown
  obtain ⟨begun, last, earlier, before, system⟩ :=
    (carried_reached reached).outputs faithful reported
  refine ⟨begun, last, fun unchanged => ?_, fun written => ?_⟩
  · obtain ⟨output, outputs⟩ := outputs_of_answered answered
    apply sameReading_of_unchanged laterFaithful reported system outputs
    intro oid inside
    obtain ⟨place, found⟩ := List.mem_iff_getElem?.mp inside
    have said := before place oid (getElem?_full found)
    rw [unchanged place oid found, outputs oid (mem_full.mpr (.inl inside))] at said
    exact (Except.ok.inj said).symm
  · obtain ⟨tables, sound, stored⟩ := reached.sound written.sound
    constructor
    · refine (succeeds_of_settled sound stored (.tables host) isKnown).trans ?_
      exact List.all_eq_true.mpr fun oid among => answered oid (mem_full.mpr (.inr among))
    · refine (succeeds_of_settled sound stored (.whole host) trivial).trans ?_
      exact List.all_eq_true.mpr answered

/-- The outputs of the switch keep to the identifiers that were walked. -/
theorem edgeSwitch_keepsTo : ∀ isUp, ∀ oid ∈ Catalog.full, Binding.KeepsTo oid
    (((edgeSwitch isUp).outputs.lookup oid).getD ((edgeSwitch isUp).linesOf oid)) := by
  decide +kernel

/-- Only one host of the network answers, with the outputs of its switch as it was at the time. -/
theorem value_edgeNetwork (made : Nat) (walk : Walk) : (edgeNetwork.answers made walk).value =
    if walk.host = ⟨10, 0, 0, 1⟩ then
      .ok (((edgeSwitch (made < 18)).outputs.lookup walk.oid).getD
        ((edgeSwitch (made < 18)).linesOf walk.oid))
    else .error Recording.unanswered := by
  unfold edgeNetwork Recording.answers
  rw [Traced.value_pure]
  by_cases own : walk.host = ⟨10, 0, 0, 1⟩
  · rw [if_pos own, own, List.lookup_cons_self]
    rfl
  · rw [if_neg own, List.lookup_cons, beq_eq_false_iff_ne.mpr own]
    rfl

/-- Each output of the network mentions only what was walked. -/
theorem edgeNetwork_faithful : edgeNetwork.Faithful := by
  intro made walk output among answered
  rw [value_edgeNetwork] at answered
  split at answered
  · obtain rfl := Except.ok.inj answered
    exact edgeSwitch_keepsTo _ _ among
  · cases answered

/-- What the switch says of its system does not depend on its port. -/
theorem edgeNetwork_system {oid : Oid} (system : oid ∈ Catalog.system) (made : Nat) :
    answerTo edgeNetwork ⟨10, 0, 0, 1⟩ made oid =
      .ok (((edgeSwitch false).outputs.lookup oid).getD ((edgeSwitch false).linesOf oid)) := by
  have outputs : ∀ isUp, ∀ oid ∈ Catalog.system,
      (edgeSwitch isUp).outputs.lookup oid = (edgeSwitch false).outputs.lookup oid := by
    decide +kernel
  rw [← outputs (made < 18) oid system, answerTo, value_edgeNetwork, if_pos rfl]
  rfl

/-- A rescan of the switch agrees with a full reading of it, after its port went down. -/
theorem edgeNetwork_rescan_agrees :
    let now := afterAll edgeNetwork [.refresh ⟨10, 0, 0, 1⟩]
      (start (Store.after (Store.openAt "edge" .root) ⟨none, none, none⟩) (.ofCapacity 4))
    let later := edgeNetwork.answering fun walk => (edgeNetwork.answers 18 walk).value
    SameReading ⟨10, 0, 0, 1⟩ (result (refreshTables later ⟨10, 0, 0, 1⟩) now)
        (result (refresh later ⟨10, 0, 0, 1⟩) now) ∧
      (result (refresh later ⟨10, 0, 0, 1⟩) now).1.isOk := by
  intro now later
  have isKnown := edgeNetwork_known _ _ (agrees_opened edgeNetwork "edge" .root (.ofCapacity 4))
  have laterFaithful : later.Faithful := fun _ walk => edgeNetwork_faithful 18 walk
  have answered : ∀ oid ∈ Catalog.full,
      ((edgeNetwork.answers 18 ⟨⟨10, 0, 0, 1⟩, edgeNetwork.community, oid⟩).value).isOk :=
    fun _ _ => rfl
  obtain ⟨begun, _, agrees, succeed⟩ := rescan_agrees_with_refresh edgeNetwork_faithful
    laterFaithful _ _ _ isKnown answered
  refine ⟨agrees fun place oid found => ?_, (succeed ⟨"edge", .root, [], rfl⟩).2⟩
  have system := List.mem_of_getElem? found
  exact (edgeNetwork_system system _).trans (edgeNetwork_system system 18).symm

end Watcher

end CableMap
