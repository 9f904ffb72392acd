import CableMap.Proofs.Trace
import CableMap.Store.Transaction

/-!
# What transactions come to

A transaction that starts from a store comes to an outcome and a store after it. Both are read off
step by step: the steps after a failure are not taken, and a savepoint gives back the store that a
failed transaction began with. Nothing that is logged has a part in it.
-/
namespace CableMap.Store

variable {α β : Type}

/-- What a transaction comes to: its outcome and the store after it. -/
def result (transaction : StoreM α) (store : Store) : Except Failure α × Store :=
  (transaction store).value

/-- The store after a transaction, whether it failed or not. -/
def after (transaction : StoreM α) (store : Store) : Store := (result transaction store).2

/-- The store after some transactions, each of which may fail. -/
def afterAll (transactions : List (StoreM Unit)) (store : Store) : Store :=
  transactions.foldl (fun store transaction => after transaction store) store

/-- A value that is there comes to itself. -/
@[simp] theorem result_pure (value : α) (store : Store) :
    result (pure value : StoreM α) store = (.ok value, store) := rfl

/-- A failure comes to itself and changes nothing. -/
@[simp] theorem result_throw (failure : Failure) (store : Store) :
    result (throw failure : StoreM α) store = (.error failure, store) := rfl

/-- A transaction that succeeds is followed by the next from where it ended. -/
theorem result_bind_ok {first : StoreM α} {next : α → StoreM β} {store middle : Store} {value : α}
    (succeeded : result first store = (.ok value, middle)) :
    result (first >>= next) store = result (next value) middle :=
  Traced.value_bind_ok succeeded

/-- A transaction that fails is followed by nothing. -/
theorem result_bind_error {first : StoreM α} {next : α → StoreM β} {store middle : Store}
    {failure : Failure} (failed : result first store = (.error failure, middle)) :
    result (first >>= next) store = (.error failure, middle) :=
  Traced.value_bind_error failed

/-- To let the value of a transaction go is to go on with none. -/
theorem discard_eq_bind (transaction : StoreM α) :
    discard transaction = transaction >>= fun _ => (pure () : StoreM Unit) := by
  funext store
  simp only [discard, Functor.mapConst, Function.comp, ExceptT.map, bind, ExceptT.bind, ExceptT.mk,
    StateT.bind, Traced.andThen]
  congr 1

/-- A transaction that succeeds comes to the same store when its value is let go. -/
theorem result_discard_ok {transaction : StoreM α} {store later : Store} {value : α}
    (succeeded : result transaction store = (.ok value, later)) :
    result (discard transaction) store = (.ok (), later) := by
  rw [discard_eq_bind, result_bind_ok succeeded]
  rfl

/-- A transaction that fails still fails when its value is let go. -/
theorem result_discard_error {transaction : StoreM α} {store later : Store} {failure : Failure}
    (failed : result transaction store = (.error failure, later)) :
    result (discard transaction) store = (.error failure, later) := by
  rw [discard_eq_bind, result_bind_error failed]

/-- To let the value of a transaction go makes no difference to the store after it. -/
theorem after_discard (transaction : StoreM α) (store : Store) :
    after (discard transaction) store = after transaction store := by
  unfold after
  rcases ended : result transaction store with ⟨outcome, later⟩
  cases outcome with
  | ok value => rw [result_discard_ok ended]
  | error failure => rw [result_discard_error ended]

/-- A question comes to its answer and changes nothing. -/
@[simp] theorem result_ask (question : Store → Except Failure α) (store : Store) :
    result (ask question) store = (question store, store) := rfl

/-- A question that is answered comes to the answer. -/
theorem result_ask_ok {question : Store → Except Failure α} {store : Store} {answer : α}
    (asked : question store = .ok answer) :
    result (ask question) store = (.ok answer, store) := by
  rw [result_ask, asked]

/-- A statement that is carried out comes to its answer and the store that it leaves. -/
theorem result_execute_ok {statement : Statement α} {store later : Store} {answer : α}
    (accepted : statement store = .ok (answer, later)) :
    result (execute statement) store = (.ok answer, later) := by
  simp only [result, execute, ExceptT.mk, accepted]
  rfl

/-- A statement that is refused changes nothing. -/
theorem result_execute_error {statement : Statement α} {store : Store} {failure : Failure}
    (refused : statement store = .error failure) :
    result (execute statement) store = (.error failure, store) := by
  simp only [result, execute, ExceptT.mk, refused]
  rfl

section Savepoint

variable {point : Savepoint} {transaction : StoreM α} {store later : Store}
  {failure refusal : Failure}

/-- A savepoint keeps what a transaction that succeeds changed. -/
theorem result_savepoint_ok {value : α} (set : point.set = .ok ())
    (released : point.release = .ok ())
    (succeeded : result transaction store = (.ok value, later)) :
    result (savepoint point transaction) store = (.ok value, later) := by
  have ended : (transaction store).value = (.ok value, later) := succeeded
  simp only [result, savepoint, ExceptT.mk, bind, Traced.andThen, set, ended, released]
  rfl

/-- A savepoint around a transaction that fails gives back the store that it began with. -/
theorem result_savepoint_error (set : point.set = .ok ()) (rolledBack : point.rollback = .ok ())
    (failed : result transaction store = (.error failure, later)) :
    result (savepoint point transaction) store = (.error failure, store) := by
  have ended : (transaction store).value = (.error failure, later) := failed
  simp only [result, savepoint, ExceptT.mk, bind, Traced.andThen, set, ended, rolledBack]
  rfl

/-- Where a savepoint cannot be set the transaction is not begun. -/
theorem result_savepoint_unset (refused : point.set = .error refusal) :
    result (savepoint point transaction) store = (.error refusal, store) := by
  simp only [result, savepoint, ExceptT.mk, refused]
  rfl

/-- Where a savepoint cannot be released the transaction is done, and told to have failed. -/
theorem result_savepoint_unreleased {value : α} (set : point.set = .ok ())
    (refused : point.release = .error refusal)
    (succeeded : result transaction store = (.ok value, later)) :
    result (savepoint point transaction) store = (.error refusal, later) := by
  have ended : (transaction store).value = (.ok value, later) := succeeded
  simp only [result, savepoint, ExceptT.mk, bind, Traced.andThen, set, ended, refused]
  rfl

/-- Where a savepoint cannot be rolled back to, a transaction that fails leaves what it changed. -/
theorem result_savepoint_kept (set : point.set = .ok ()) (refused : point.rollback = .error refusal)
    (failed : result transaction store = (.error failure, later)) :
    result (savepoint point transaction) store = (.error failure, later) := by
  have ended : (transaction store).value = (.error failure, later) := failed
  simp only [result, savepoint, ExceptT.mk, bind, Traced.andThen, set, ended, refused]
  rfl

end Savepoint

/-- What is only logged or printed changes nothing. -/
@[simp] theorem result_liftM (traced : Traced α) (store : Store) :
    result (liftM traced : StoreM α) store = (.ok traced.value, store) := rfl

end CableMap.Store
