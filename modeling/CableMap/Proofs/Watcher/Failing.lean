import CableMap.Proofs.Watcher.Agreement

/-!
# Hosts that fail do not show

A sweep reads one host after the other, and a host of which a walk fails is reported and skipped.
While the hosts answer as they do, it makes no difference to the store and to the known hosts where
in the sweep such a host stands and which of its walks fails: they are the same, row numbers
included, as if only the other hosts were read. Those are all read with success, since on a store
that the program wrote an observation is never refused.
-/
namespace CableMap

/-- The outlook on hosts that answer each walk the same, whenever it is made. -/
def Outlook.answering (outlook : Outlook) (fixed : Walk → Except Failure String) : Outlook :=
  { outlook with answers := fun _ walk => pure (fixed walk) }

namespace Watcher

variable {outlook : Outlook} {fixed : Walk → Except Failure String}

/-! ## Walks of hosts that answer the same -/

/-- Every walk of a catalog is answered on a host. -/
def answersAll (fixed : Walk → Except Failure String) (community : String) (catalog : Catalog)
    (host : Ipv4) : Bool :=
  catalog.all fun oid => (fixed ⟨host, community, oid⟩).isOk

/-- What the walks come to does not depend on how many were made before. -/
theorem walks_answering_congr (outlook : Outlook) (fixed : Walk → Except Failure String)
    (host : Ipv4) (catalog : Catalog) (text : String)
    (walked other : Nat) :
    (walks (outlook.answering fixed) host catalog text walked).1 =
      (walks (outlook.answering fixed) host catalog text other).1 := by
  induction catalog generalizing text walked other with
  | nil => rfl
  | cons oid catalog ih =>
    have answer (made : Nat) : ((outlook.answering fixed).answers made
        ⟨host, (outlook.answering fixed).community, oid⟩).value =
          fixed ⟨host, outlook.community, oid⟩ := rfl
    rw [walks, walks, answer, answer]
    cases fixed ⟨host, outlook.community, oid⟩ with
    | ok output => exact ih _ _ _
    | error failure => rfl

/-- The walks of a catalog succeed exactly if every one of them is answered. -/
theorem isOk_walks_answering (host : Ipv4) (catalog : Catalog) (text : String) (walked : Nat) :
    (walks (outlook.answering fixed) host catalog text walked).1.isOk =
      answersAll fixed outlook.community catalog host := by
  induction catalog generalizing text walked with
  | nil => rfl
  | cons oid catalog ih =>
    have answer : ((outlook.answering fixed).answers walked
        ⟨host, (outlook.answering fixed).community, oid⟩).value =
          fixed ⟨host, outlook.community, oid⟩ := rfl
    rw [walks, answer, answersAll, List.all_cons]
    cases fixed ⟨host, outlook.community, oid⟩ with
    | ok output => exact ih _ _
    | error failure => rfl

/-! ## Readings that fail and readings that succeed -/

/-- The catalog that a reading of a known host walks. -/
def Reading.catalog : Reading → Catalog
  | whole _ => .full
  | tables _ => .tables

/-- The reading is in full, or of the tables of a known host. -/
def Reading.Settled (known : KnownHosts) : Reading → Prop
  | whole _ => True
  | tables host => host ∈ known.addresses

/-- A settled reading walks its own catalog. -/
theorem Reading.plan_of_settled {known : KnownHosts} {reading : Reading}
    (settled : reading.Settled known) : (reading.plan known).1 = reading.catalog := by
  cases reading with
  | whole host => rfl
  | tables host =>
    obtain ⟨bindings, reported⟩ := KnownHosts.mem_addresses.mp settled
    rw [plan_tables_of_known reported]
    rfl

/-- A reading stays settled when more is recorded of any host. -/
theorem Reading.Settled.record {known : KnownHosts} {reading : Reading}
    (settled : reading.Settled known) (host : Ipv4) (bindings : List Binding) :
    reading.Settled (known.record host bindings) := by
  cases reading with
  | whole other => trivial
  | tables other =>
    apply KnownHosts.mem_addresses.mpr
    rw [KnownHosts.bindingsOf?_record]
    split
    · exact ⟨bindings, rfl⟩
    · exact KnownHosts.mem_addresses.mp settled

/-- Two watchers have the same store and know the same of the same hosts. -/
structure SameRecords (left right : Watcher) : Prop where
  store : left.store = right.store
  known : left.known = right.known

/-- To record an observation comes to the same store and the same known hosts where these were the
same before. -/
theorem SameRecords.settle {left right : Watcher} (same : SameRecords left right) (host : Ipv4)
    (bindings : List Binding) :
    SameRecords (settle outlook host bindings left).2 (settle outlook host bindings right).2 := by
  unfold Watcher.settle
  rw [same.store]
  rcases Store.result (Store.record (observed outlook host bindings) (hostLogger outlook host))
    right.store with ⟨failure | recorded, store⟩
  · exact ⟨rfl, same.known⟩
  · exact ⟨rfl, congrArg (·.record host bindings) same.known⟩

/-- A reading of hosts that answer the same comes to the same store and the same known hosts,
however many walks were made before. -/
theorem SameRecords.read {left right : Watcher} (same : SameRecords left right)
    (reading : Reading) :
    SameRecords (reading.after (outlook.answering fixed) left)
      (reading.after (outlook.answering fixed) right) := by
  rw [Reading.after, Reading.after, Reading.result_steps, Reading.result_steps, same.known,
    result_read, result_read]
  have outcome := walks_answering_congr outlook fixed reading.host (reading.plan right.known).1 ""
    left.walked right.walked
  generalize walks (outlook.answering fixed) reading.host (reading.plan right.known).1 ""
    left.walked = first at outcome ⊢
  generalize walks (outlook.answering fixed) reading.host (reading.plan right.known).1 ""
    right.walked = second at outcome ⊢
  obtain ⟨first, leftWalked⟩ := first
  obtain ⟨second, rightWalked⟩ := second
  obtain rfl : first = second := outcome
  cases first with
  | error failure => exact ⟨same.store, same.known⟩
  | ok text =>
    have counted : SameRecords { left with walked := leftWalked }
        { right with walked := rightWalked } := ⟨same.store, same.known⟩
    exact counted.settle reading.host _

/-! ## Readings without those that fail -/

/-- Every walk of a reading is answered. -/
def Reading.isAnswered (fixed : Walk → Except Failure String) (community : String)
    (reading : Reading) : Bool :=
  answersAll fixed community reading.catalog reading.host

/-- On tables that fit together a reading succeeds exactly if every walk of it is answered. -/
theorem succeeds_of_settled {watcher : Watcher} {tables : Store.Tables} (sound : tables.Sound)
    (stored : watcher.store = tables.store) (reading : Reading)
    (settled : reading.Settled watcher.known) :
    Visit.succeeds (outlook.answering fixed) ⟨watcher, reading⟩ =
      reading.isAnswered fixed outlook.community := by
  rw [succeeds_of_sound sound stored, isOk_walks_answering, Reading.plan_of_settled settled,
    Reading.isAnswered]

/-- A settled reading succeeds exactly if all its walks are answered. -/
theorem Agrees.succeeds_eq {watcher : Watcher}
    (agrees : Agrees (outlook.answering fixed) watcher) {reading : Reading}
    (settled : reading.Settled watcher.known) :
    Visit.succeeds (outlook.answering fixed) ⟨watcher, reading⟩ =
      reading.isAnswered fixed outlook.community := by
  obtain ⟨tables, stored, agree⟩ := agrees
  exact succeeds_of_settled agree.sound stored reading settled

/-- A reading leaves a settled reading settled. -/
theorem Reading.Settled.read {watcher : Watcher} {other : Reading}
    (settled : other.Settled watcher.known) (reading : Reading) :
    other.Settled (reading.after outlook watcher).known := by
  rcases known_after outlook watcher reading with same | ⟨bindings, recorded⟩
  · rw [same]
    exact settled
  · rw [recorded]
    exact settled.record reading.host bindings

/-- Readings come to the same store and the same known hosts as those of them that are answered,
and as many succeed. -/
theorem Agrees.skip_unanswered {watcher alone : Watcher}
    (agrees : Agrees (outlook.answering fixed) watcher) (same : SameRecords watcher alone)
    {readings : List Reading} (settled : ∀ reading ∈ readings, reading.Settled watcher.known) :
    (visitsOf (outlook.answering fixed) readings watcher).countP
        (·.succeeds (outlook.answering fixed)) =
      (readings.filter (·.isAnswered fixed outlook.community)).length ∧
    SameRecords (readings.foldl (Reading.after (outlook.answering fixed)) watcher)
      ((readings.filter (·.isAnswered fixed outlook.community)).foldl
        (Reading.after (outlook.answering fixed)) alone) := by
  induction readings generalizing watcher alone with
  | nil => exact ⟨rfl, same⟩
  | cons reading readings ih =>
    have outcome := agrees.succeeds_eq (settled reading List.mem_cons_self)
    have settled' : ∀ other ∈ readings,
        other.Settled (reading.after (outlook.answering fixed) watcher).known :=
      fun other inside => (settled other (List.mem_cons_of_mem _ inside)).read reading
    rw [visitsOf, List.countP_cons, List.foldl_cons, outcome]
    cases answered : reading.isAnswered fixed outlook.community with
    | true =>
      obtain ⟨count, rest⟩ := ih (agrees.read reading) (same.read reading) settled'
      rw [List.filter_cons_of_pos answered, List.length_cons, List.foldl_cons, count]
      exact ⟨rfl, rest⟩
    | false =>
      rw [answered] at outcome
      obtain ⟨store, known⟩ := after_of_failed outcome
      obtain ⟨count, rest⟩ := ih (agrees.read reading)
        ⟨store.trans same.store, known.trans same.known⟩ settled'
      rw [List.filter_cons_of_neg (by simp [answered]), count]
      exact ⟨rfl, rest⟩

/-! ## Sweeps, traps and rescans -/

/-- To leave out what is not kept and what came before can be done in either order. -/
theorem eraseDups_filter {α : Type} [DecidableEq α] (keep : α → Bool) (items : List α) :
    (items.filter keep).eraseDups = items.eraseDups.filter keep := by
  -- The first item is taken out of the rest wherever it is repeated, so the length decreases.
  induction long : items.length using Nat.strongRecOn generalizing items with
  | ind length ih =>
    cases items with
    | nil => rfl
    | cons first rest =>
      have shorter : (rest.filter fun other => ! other == first).length < length := by
        rw [← long]
        exact Nat.lt_succ_of_le (List.length_filter_le _ rest)
      have rest' := ih _ shorter _ rfl
      rw [List.filter_comm] at rest'
      rw [List.eraseDups_cons, List.filter_cons, List.filter_cons, ← rest']
      cases kept : keep first with
      | true => rw [if_pos rfl, if_pos rfl, List.eraseDups_cons]
      | false =>
        rw [if_neg Bool.false_ne_true, if_neg Bool.false_ne_true]
        apply congrArg List.eraseDups
        apply (List.filter_eq_self.mpr _).symm
        intro other inside
        have otherKept := (List.mem_filter.mp inside).2
        simp only [Bool.not_eq_true', beq_eq_false_iff_ne]
        intro same
        rw [same, kept] at otherKept
        cases otherKept

/-- A number of hosts was read, and what this came to is the same store and the same known hosts as
something else came to. -/
structure ComesTo (count : Nat) (came alone : Nat × Watcher) : Prop where
  /-- So many hosts were read. -/
  count : came.1 = count
  /-- The store and the known hosts are the same. -/
  records : SameRecords came.2 alone.2

/-- To read some hosts comes to the same as to read those of them that answer. -/
theorem Agrees.comesTo {watcher alone : Watcher}
    (agrees : Agrees (outlook.answering fixed) watcher) (same : SameRecords watcher alone)
    {reading : Ipv4 → Reading} {visit : Nat → Ipv4 → WatchM Nat}
    (counts : CountsReadings (outlook.answering fixed) reading visit) {hosts : List Ipv4}
    (settled : ∀ host ∈ hosts, (reading host).Settled watcher.known) :
    let answering := hosts.filter fun host =>
      (reading host).isAnswered fixed outlook.community
    ComesTo answering.length ((hosts.foldlM visit 0).run watcher).value
      ((answering.foldlM visit 0).run alone).value := by
  intro answering
  have settled' : ∀ made ∈ hosts.map reading, made.Settled watcher.known := by
    intro made inside
    obtain ⟨host, among, rfl⟩ := List.mem_map.mp inside
    exact settled host among
  obtain ⟨count, records⟩ := agrees.skip_unanswered same settled'
  have filtered : (hosts.map reading).filter (·.isAnswered fixed outlook.community) =
      answering.map reading :=
    List.filter_map
  rw [filtered] at count records
  constructor
  · rw [counts.value_foldlM, count, List.length_map, Nat.zero_add]
  · rw [counts.value_foldlM, counts.value_foldlM]
    exact records

/-- What answers walks makes no difference to whether the store agrees with the known hosts. -/
theorem Agrees.answering {watcher : Watcher} (agrees : Agrees outlook watcher)
    (fixed : Walk → Except Failure String) : Agrees (outlook.answering fixed) watcher := by
  obtain ⟨tables, stored, agree⟩ := agrees
  exact ⟨tables, stored, agree.sound, agree.housed, agree.named, agree.rising, agree.devices⟩

/-- In every run from a newly opened store, while the hosts answer each walk the same: to sweep some
hosts, to answer the traps that wait and to rescan the known hosts come to the same store and the
same known hosts as if only those hosts had been read of which every walk is answered, and the
count is how many these are. -/
theorem failing_hosts_do_not_show (outlook : Outlook) (activities : List Activity) (place : String)
    (log : Log.Logger) (traps : TrapBuffer) (fixed : Walk → Except Failure String)
    (hosts : List Ipv4) :
    let now := afterAll outlook activities (opened place log traps)
    let later := outlook.answering fixed
    let found := hosts.filter (answersAll fixed outlook.community .full)
    let heard := now.traps.waiting.filter (answersAll fixed outlook.community .full)
    let stillThere := now.known.addresses.filter (answersAll fixed outlook.community .tables)
    ComesTo found.length ((sweep later hosts).run now).value ((sweep later found).run now).value ∧
      ComesTo heard.toList.eraseDups.length ((answerTraps later).run now).value
        ((answerTraps later).run { now with traps := { now.traps with waiting := heard } }).value ∧
      ComesTo stillThere.length ((rescan later).run now).value
        ((stillThere.foldlM (attempt later "rescan" (refreshTables later ·)) 0).run now).value := by
  intro now later found heard stillThere
  have agrees : Agrees later now :=
    (agrees_afterAll outlook activities place log traps).answering fixed
  refine ⟨?_, ?_, ?_⟩
  · exact agrees.comesTo ⟨rfl, rfl⟩ (countsReadings_sync later) fun _ _ => trivial
  · have drained : Agrees later { now with traps := { now.traps with waiting := #[] } } := agrees
    have apart : heard.toList.eraseDups = now.traps.waiting.toList.eraseDups.filter
        (answersAll fixed outlook.community .full) := by
      rw [Array.toList_filter, eraseDups_filter]
    rw [Moment.value_answerTraps, Moment.value_answerTraps, apart]
    exact drained.comesTo ⟨rfl, rfl⟩ (countsReadings_answerTrap later) fun _ _ => trivial
  · exact agrees.comesTo ⟨rfl, rfl⟩ (countsReadings_rescan later) fun _ isKnown => isKnown

end Watcher

end CableMap
