import CableMap.Proofs.Store.Result
import CableMap.Watcher

/-!
# What reading a host comes to

To read a host is to walk a catalog, to make the bindings of the text an observation, and to record
it. The walks are made in order until one fails; each counts, and nothing else of the watcher
changes before the observation is recorded. The host is known from then on, if that succeeds.
-/
namespace CableMap.Watcher

variable {α β : Type} {outlook : Outlook} {host : Ipv4} {watcher : Watcher}

/-- What steps of a watcher come to: their outcome and the watcher after them. -/
def result (steps : ExceptT Failure WatchM α) (watcher : Watcher) : Except Failure α × Watcher :=
  (steps watcher).value

/-- A value that is there comes to itself. -/
@[simp] theorem result_pure (value : α) (watcher : Watcher) :
    result (pure value) watcher = (.ok value, watcher) := rfl

/-- Steps that succeed are followed by the next from where they ended. -/
theorem result_bind_ok {first : ExceptT Failure WatchM α} {next : α → ExceptT Failure WatchM β}
    {watcher middle : Watcher} {value : α}
    (succeeded : result first watcher = (.ok value, middle)) :
    result (first >>= next) watcher = result (next value) middle :=
  Traced.value_bind_ok succeeded

/-- Steps that fail are followed by nothing. -/
theorem result_bind_error {first : ExceptT Failure WatchM α} {next : α → ExceptT Failure WatchM β}
    {watcher middle : Watcher} {failure : Failure}
    (failed : result first watcher = (.error failure, middle)) :
    result (first >>= next) watcher = (.error failure, middle) :=
  Traced.value_bind_error failed

/-- What is only computed and logged leaves the watcher. -/
@[simp] theorem result_liftM (traced : Traced α) (watcher : Watcher) :
    result (liftM traced) watcher = (.ok traced.value, watcher) := rfl

/-- To look at the watcher comes to the watcher. -/
@[simp] theorem result_get (watcher : Watcher) :
    result (get : ExceptT Failure WatchM Watcher) watcher = (.ok watcher, watcher) := rfl

/-- A transaction changes nothing of the watcher but its store. -/
theorem result_transact (transaction : StoreM α) (watcher : Watcher) :
    result (transact transaction) watcher =
      ((Store.result transaction watcher.store).1,
        { watcher with store := (Store.result transaction watcher.store).2 }) := rfl

/-- A walk is answered and counted. -/
theorem result_ask (outlook : Outlook) (host : Ipv4) (oid : Oid) (watcher : Watcher) :
    result (ask outlook host oid) watcher =
      ((outlook.answers watcher.walked ⟨host, outlook.community, oid⟩).value,
        { watcher with walked := watcher.walked + 1 }) := rfl

/-! ## The walks of a catalog -/

/-- What the walks of a catalog come to after some walks that gave a text: the text of all of
them or the first failure, and the number of walks that were made. -/
def walks (outlook : Outlook) (host : Ipv4) : Catalog → String → Nat → Except Failure String × Nat
  | [], text, walked => (.ok text, walked)
  | oid :: catalog, text, walked =>
    match (outlook.answers walked ⟨host, outlook.community, oid⟩).value with
    | .ok output => walks outlook host catalog (Walk.endLine (text ++ output)) (walked + 1)
    | .error failure => (.error failure, walked + 1)

/-- The walks of a catalog come to a text if all of them are answered. -/
theorem isOk_walks {catalog : Catalog} (answered : ∀ made, ∀ oid ∈ catalog,
      (outlook.answers made ⟨host, outlook.community, oid⟩).value.isOk) (text : String)
    (walked : Nat) : (walks outlook host catalog text walked).1.isOk := by
  induction catalog generalizing text walked with
  | nil => rfl
  | cons oid catalog ih =>
    have first := answered walked oid List.mem_cons_self
    rw [walks]
    cases answer : (outlook.answers walked ⟨host, outlook.community, oid⟩).value with
    | ok output => exact ih (fun made other inside => answered made other (.tail _ inside)) _ _
    | error failure =>
      rw [answer] at first
      cases first

/-- To walk a catalog comes to the text of all its walks or to the failure of the first that fails.
-/
theorem result_walks (catalog : Catalog) (text : String) (watcher : Watcher) :
    result (catalog.foldlM
        (fun text oid => do pure (Walk.endLine (text ++ (← ask outlook host oid)))) text) watcher =
      ((walks outlook host catalog text watcher.walked).1,
        { watcher with walked := (walks outlook host catalog text watcher.walked).2 }) := by
  induction catalog generalizing text watcher with
  | nil => rfl
  | cons oid catalog ih =>
    rw [List.foldlM_cons, walks]
    have asked := result_ask outlook host oid watcher
    cases answer : (outlook.answers watcher.walked ⟨host, outlook.community, oid⟩).value with
    | ok output =>
      rw [answer] at asked
      have first : result (do pure (Walk.endLine (text ++ (← ask outlook host oid)))) watcher =
          (.ok (Walk.endLine (text ++ output)), { watcher with walked := watcher.walked + 1 }) :=
        result_bind_ok asked
      exact (result_bind_ok first).trans (ih _ _)
    | error failure =>
      rw [answer] at asked
      have first : result (do pure (Walk.endLine (text ++ (← ask outlook host oid)))) watcher =
          (.error failure, { watcher with walked := watcher.walked + 1 }) :=
        result_bind_error asked
      exact result_bind_error first

/-- Walking a catalog changes nothing of the watcher but the number of walks. -/
theorem result_batch (outlook : Outlook) (host : Ipv4) (catalog : Catalog) (watcher : Watcher) :
    result (Walk.batch (ask outlook host) catalog) watcher =
      ((walks outlook host catalog "" watcher.walked).1,
        { watcher with walked := (walks outlook host catalog "" watcher.walked).2 }) :=
  result_walks catalog "" watcher

/-! ## The whole reading -/

/-- The logger of what is done for a host. -/
def hostLogger (outlook : Outlook) (host : Ipv4) : Log.Logger :=
  (logger outlook).child "host" (toString host)

/-- The bindings that a host gives: those of the text and those carried over. -/
def gathered (outlook : Outlook) (host : Ipv4) (catalog : Catalog) (carried : List Binding)
    (text : String) : List Binding :=
  (Binding.readAll catalog host (hostLogger outlook host) text).value ++ carried

/-- The observation that bindings of a host make. -/
def observed (outlook : Outlook) (host : Ipv4) (bindings : List Binding) : Observation :=
  (Observation.ofBindings host bindings (hostLogger outlook host)).value

/-- The watcher after an observation of a host was recorded or refused. -/
def settle (outlook : Outlook) (host : Ipv4) (bindings : List Binding) (watcher : Watcher)
    (point : Store.Savepoint := .granted) : Except Failure Store.Recorded × Watcher :=
  match Store.result (Store.record (observed outlook host bindings) (hostLogger outlook host) point)
      watcher.store with
  | (.ok recorded, store) =>
    (.ok recorded, { watcher with store, known := watcher.known.record host bindings })
  | (.error failure, store) => (.error failure, { watcher with store })

/-- The part of a reading that follows the walks: to make their text an observation and to record
it. -/
def conclude (outlook : Outlook) (host : Ipv4) (catalog : Catalog) (carried : List Binding)
    (text : String) (point : Store.Savepoint) : ExceptT Failure WatchM Store.Recorded := do
  let log := hostLogger outlook host
  let bindings := (← Binding.readAll catalog host log text) ++ carried
  let observation ← Observation.ofBindings host bindings log
  let recorded ← transact (Store.record observation log point)
  log.write .debug "reconciled"
    [⟨"ports", toString recorded.ports⟩, ⟨"links", toString recorded.linked⟩,
      ⟨"stale", toString recorded.unlinked⟩]
  modify fun watcher => { watcher with known := watcher.known.record host bindings }
  pure recorded

/-- What follows the walks makes an observation of their text and settles it. -/
theorem result_conclude (outlook : Outlook) (host : Ipv4) (catalog : Catalog)
    (carried : List Binding) (text : String) (point : Store.Savepoint) (watcher : Watcher) :
    result (conclude outlook host catalog carried text point) watcher =
      settle outlook host (gathered outlook host catalog carried text) watcher point := by
  unfold conclude
  refine (result_bind_ok (result_liftM _ _)).trans ?_
  refine (result_bind_ok (result_liftM _ _)).trans ?_
  have recording := result_transact (Store.record (observed outlook host
    (gathered outlook host catalog carried text)) (hostLogger outlook host) point) watcher
  unfold settle
  rcases came : Store.result (Store.record (observed outlook host
    (gathered outlook host catalog carried text)) (hostLogger outlook host) point) watcher.store
    with ⟨failure | recorded, store⟩
  · rw [came] at recording
    exact result_bind_error recording
  · rw [came] at recording
    exact (result_bind_ok recording).trans rfl

/-- Reading a host comes to the failure of a walk, or to what recording the text of the walks
comes to. -/
theorem result_read (outlook : Outlook) (host : Ipv4) (catalog : Catalog) (carried : List Binding)
    (watcher : Watcher) {point : Store.Savepoint} :
    result (read outlook host catalog carried point) watcher =
      match walks outlook host catalog "" watcher.walked with
      | (.error failure, walked) => (.error failure, { watcher with walked })
      | (.ok text, walked) =>
        settle outlook host (gathered outlook host catalog carried text)
          { watcher with walked } point := by
  have walked := result_batch outlook host catalog watcher
  rcases came : walks outlook host catalog "" watcher.walked with ⟨failure | text, count⟩
  · rw [came] at walked
    exact result_bind_error walked
  · rw [came] at walked
    refine (result_bind_ok walked).trans ((result_bind_ok (result_liftM _ _)).trans ?_)
    have rest := result_conclude outlook host catalog carried text point
      { watcher with walked := count }
    -- Whether an identifier is missing in the text decides only what is logged.
    dsimp only
    split
    · exact rest
    · exact (result_bind_ok (result_liftM _ _)).trans rest

/-- Of a known host the tables are read, and what it said outside them is carried over. -/
theorem result_refreshTables_of_known {bindings : List Binding}
    (reported : watcher.known.bindingsOf? host = some bindings) {point : Store.Savepoint} :
    result (refreshTables outlook host point) watcher =
      result (read outlook host .tables (systemBindings bindings) point) watcher := by
  unfold refreshTables
  refine (result_bind_ok (result_get watcher)).trans ?_
  rw [reported]

/-- Of a host that is not known all is read. -/
theorem result_refreshTables_of_unknown (absent : watcher.known.bindingsOf? host = none)
    {point : Store.Savepoint} :
    result (refreshTables outlook host point) watcher =
      result (refresh outlook host point) watcher := by
  unfold refreshTables
  refine (result_bind_ok (result_get watcher)).trans ?_
  rw [absent]

/-- Reading a host leaves the traps that wait, and does not look at them. -/
theorem result_read_traps (outlook : Outlook) (host : Ipv4) (catalog : Catalog)
    (carried : List Binding) (watcher : Watcher) (traps : TrapBuffer) :
    result (read outlook host catalog carried) { watcher with traps } =
      ((result (read outlook host catalog carried) watcher).1,
        { (result (read outlook host catalog carried) watcher).2 with traps }) := by
  rw [result_read, result_read]
  rcases walks outlook host catalog "" watcher.walked with ⟨failure | text, walked⟩
  · rfl
  · dsimp only
    unfold settle
    rcases Store.result (Store.record (observed outlook host
      (gathered outlook host catalog carried text)) (hostLogger outlook host)) watcher.store with
      ⟨failure | recorded, store⟩
    · rfl
    · rfl

/-- An attempt counts its host if that could be read, and the watcher is as the reading leaves
it. -/
theorem value_attempt (outlook : Outlook) (purpose : String)
    (readHost : Ipv4 → ExceptT Failure WatchM Store.Recorded) (succeeded : Nat) (host : Ipv4)
    (watcher : Watcher) :
    ((attempt outlook purpose readHost succeeded host).run watcher).value =
      (if (result (readHost host) watcher).1.isOk then succeeded + 1 else succeeded,
        (result (readHost host) watcher).2) := by
  have ended : ((readHost host).run.run watcher).value = result (readHost host) watcher := rfl
  unfold attempt
  rcases came : result (readHost host) watcher with ⟨failure | recorded, later⟩
  · rw [came] at ended
    rw [StateT.run_bind, Traced.value_bind, ended]
    rfl
  · rw [came] at ended
    rw [StateT.run_bind, Traced.value_bind, ended]
    rfl

end CableMap.Watcher
