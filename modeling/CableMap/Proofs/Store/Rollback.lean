import CableMap.Proofs.Store.Result
import CableMap.Store.Record

/-!
# All or nothing

A transaction that may fail after it has changed the store leaves no trace of that where it stands
in a savepoint that can be ended, whatever the store was like before: tables may be missing, and
rows may be there that cannot be read. Steps before the savepoint must only ask, and steps after it
must not fail. That the savepoint can be ended is needed: if it is not released what was changed
stays, though the transaction is told to have failed.
-/
namespace CableMap.Store

variable {α β : Type}

/-- Once it is set a savepoint is ended as asked for, as it is where nobody else has the store
open. It may be that it cannot be set. -/
structure Savepoint.Ends (point : Savepoint) : Prop where
  /-- It is released after a transaction that succeeds. -/
  released : point.release = .ok ()
  /-- It is rolled back to after a transaction that fails. -/
  rolledBack : point.rollback = .ok ()

/-- A savepoint of which every statement is carried out can be ended. -/
theorem Savepoint.granted_ends : granted.Ends := ⟨rfl, rfl⟩

/-- A transaction succeeds, or fails and leaves the store as it was. -/
def AllOrNothing (transaction : StoreM α) : Prop :=
  ∀ store, (∃ value later, result transaction store = (.ok value, later)) ∨
    ∃ failure, result transaction store = (.error failure, store)

/-- What is done as a whole or not at all leaves the store as it was where it fails. -/
theorem AllOrNothing.unchanged {transaction : StoreM α} (whole : AllOrNothing transaction)
    {store : Store} {failure : Failure}
    (failed : (result transaction store).1 = .error failure) :
    result transaction store = (.error failure, store) := by
  rcases whole store with ⟨value, later, ended⟩ | ⟨cause, ended⟩
  · rw [ended] at failed
    cases failed
  · rw [ended] at failed
    cases failed
    exact ended

/-- What stands in a savepoint that can be ended is done as a whole or not at all. -/
theorem allOrNothing_savepoint {point : Savepoint} (ends : point.Ends) (transaction : StoreM α) :
    AllOrNothing (savepoint point transaction) := by
  intro store
  cases set : point.set with
  | error refusal => exact .inr ⟨refusal, result_savepoint_unset set⟩
  | ok =>
    rcases ended : result transaction store with ⟨failure | value, later⟩
    · exact .inr ⟨failure, result_savepoint_error set ends.rolledBack ended⟩
    · exact .inl ⟨value, later, result_savepoint_ok set ends.released ended⟩

/-- An observation is recorded as a whole or not at all. -/
theorem allOrNothing_record {point : Savepoint} (ends : point.Ends) (observation : Observation)
    (log : Log.Logger) : AllOrNothing (record observation log point) :=
  allOrNothing_savepoint ends _

/-- What comes to a value in a savepoint of which every statement is carried out comes to the same
where the savepoint is not released, but is told to have failed. -/
theorem result_savepoint_of_granted {point : Savepoint} {refusal : Failure}
    (set : point.set = .ok ()) (refused : point.release = .error refusal)
    {transaction : StoreM α} {store later : Store} {value : α}
    (granted : result (savepoint .granted transaction) store = (.ok value, later)) :
    result (savepoint point transaction) store = (.error refusal, later) := by
  rcases ended : result transaction store with ⟨failure | own, last⟩
  · rw [result_savepoint_error rfl rfl ended] at granted
    cases granted
  · rw [result_savepoint_ok rfl rfl ended] at granted
    cases granted
    exact result_savepoint_unreleased set refused ended

/-- An observation that would be recorded is recorded also where the savepoint is not released, but
the recording is told to have failed. -/
theorem result_record_unreleased {point : Savepoint} {refusal : Failure}
    (set : point.set = .ok ()) (refused : point.release = .error refusal)
    {observation : Observation} {log : Log.Logger} {store later : Store} {done : Recorded}
    (granted : result (record observation log) store = (.ok done, later)) :
    result (record observation log point) store = (.error refusal, later) :=
  result_savepoint_of_granted set refused granted

/-- The device of a host stays where another reader keeps the savepoint from being released. -/
example :
    let busy := Failure.store (.because "database is locked")
    (result (record ⟨.ofAddress ⟨10, 0, 0, 1⟩, [], []⟩ .root ⟨.ok (), .error busy, .ok ()⟩)
      .empty).1 = .error busy ∧
    (result (record ⟨.ofAddress ⟨10, 0, 0, 1⟩, [], []⟩ .root ⟨.ok (), .error busy, .ok ()⟩)
      .empty).2.devices?.map (·.rows.length) = some 1 :=
  ⟨rfl, rfl⟩

end CableMap.Store
