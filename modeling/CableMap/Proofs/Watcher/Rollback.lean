import CableMap.Proofs.Store.Rollback
import CableMap.Proofs.Watcher.Read

/-!
# A host that fails leaves no trace

The watcher keeps what a host reported beside the store. It takes note of it only after the
observation was recorded, and nothing that follows can fail, so where a walk or the recording fails
both are as they were before. For the store this rests on the savepoint around the recording, which
must be one that can be ended.
-/
namespace CableMap.Watcher

variable {α : Type} {point : Store.Savepoint}

/-- Steps succeed, or fail and leave the store and the known hosts as they were. -/
def AllOrNothing (steps : ExceptT Failure WatchM α) : Prop :=
  ∀ watcher, (∃ value later, result steps watcher = (.ok value, later)) ∨
    ∃ failure later, result steps watcher = (.error failure, later) ∧
      later.store = watcher.store ∧ later.known = watcher.known

/-- What is done as a whole or not at all leaves the store and the known hosts as they were where it
fails. -/
theorem AllOrNothing.unchanged {steps : ExceptT Failure WatchM α} (whole : AllOrNothing steps)
    {watcher : Watcher} {failure : Failure}
    (failed : (result steps watcher).1 = .error failure) :
    ∃ later, result steps watcher = (.error failure, later) ∧
      later.store = watcher.store ∧ later.known = watcher.known := by
  rcases whole watcher with ⟨value, later, ended⟩ | ⟨cause, later, ended, same⟩
  · rw [ended] at failed
    cases failed
  · rw [ended] at failed
    cases failed
    exact ⟨later, ended, same⟩

/-- An observation that is refused leaves the watcher as it was. -/
theorem settle_error (ends : point.Ends) {outlook : Outlook} {host : Ipv4}
    {bindings : List Binding} {watcher later : Watcher} {failure : Failure}
    (refused : settle outlook host bindings watcher point = (.error failure, later)) :
    later = watcher := by
  unfold settle at refused
  rcases Store.allOrNothing_record ends (observed outlook host bindings) (hostLogger outlook host)
    watcher.store with ⟨recorded, store, ended⟩ | ⟨cause, ended⟩
  · simp [ended] at refused
  · simp only [ended, Prod.mk.injEq, Except.error.injEq] at refused
    exact refused.2.symm

/-- Reading a host is done as a whole or not at all. -/
theorem allOrNothing_read (ends : point.Ends) (outlook : Outlook) (host : Ipv4)
    (catalog : Catalog) (carried : List Binding) :
    AllOrNothing (read outlook host catalog carried point) := by
  intro watcher
  rw [result_read]
  rcases walks outlook host catalog "" watcher.walked with ⟨failure | text, walked⟩
  · exact .inr ⟨failure, _, rfl, rfl, rfl⟩
  · rcases ended : settle outlook host (gathered outlook host catalog carried text)
      { watcher with walked } point with ⟨failure | recorded, later⟩
    · rw [settle_error ends ended] at ended
      exact .inr ⟨failure, _, ended, rfl, rfl⟩
    · exact .inl ⟨recorded, later, ended⟩

/-- Reading the tables of a host is done as a whole or not at all, whether the host is known or
not. -/
theorem allOrNothing_refreshTables (ends : point.Ends) (outlook : Outlook) (host : Ipv4) :
    AllOrNothing (refreshTables outlook host point) := by
  intro watcher
  cases reported : watcher.known.bindingsOf? host with
  | some bindings =>
    rw [result_refreshTables_of_known reported]
    exact allOrNothing_read ends outlook host .tables (systemBindings bindings) watcher
  | none =>
    rw [result_refreshTables_of_unknown reported]
    exact allOrNothing_read ends outlook host .full [] watcher

end CableMap.Watcher
