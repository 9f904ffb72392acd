import CableMap.Trace

/-!
# What traced computations come to

What steps that change a state and may fail come to is read off one after the other: a success is
followed by the next steps from the state where it ended, and a failure by nothing.
-/
namespace CableMap.Traced

/-- What is computed for each of some members, whatever is logged on the way. -/
theorem value_mapM {α β : Type} (compute : α → Traced β) (members : List α) :
    (members.mapM compute).value = members.map fun member => (compute member).value := by
  induction members with
  | nil => rfl
  | cons member members ih =>
    rw [List.mapM_cons, value_bind, value_bind, value_pure, ih]
    rfl

/-- The events on the way to what is computed for each of some members. -/
theorem events_mapM {α β : Type} (compute : α → Traced β) (members : List α) :
    (members.mapM compute).events = members.flatMap fun member => (compute member).events := by
  induction members with
  | nil => rfl
  | cons member members ih =>
    rw [List.mapM_cons, events_bind, events_bind, events_pure, List.append_nil, ih,
      List.flatMap_cons]

/-- To compute further from a value adds no event. -/
theorem bind_pure_eq {α β : Type} (traced : Traced α) (compute : α → β) :
    (do pure (compute (← traced))) = (⟨compute traced.value, traced.events⟩ : Traced β) :=
  congrArg (Traced.mk _) (List.append_nil _)

/-- Of events that only log, all that was logged is kept. -/
theorem entries_of_logged {α : Type} (value : α) (entries : List Log.Entry) :
    (⟨value, entries.map .logged⟩ : Traced α).entries = entries := by
  rw [Traced.entries, List.filterMap_map]
  exact List.filterMap_some

/-- Steps that cannot fail are followed by the next, the events of both in order. -/
theorem run_bind {σ α β : Type} {first : StateT σ Traced α} {next : α → StateT σ Traced β}
    {state middle : σ} {value : α} {events : List Event}
    (ran : first state = ⟨(value, middle), events⟩) : (first >>= next) state =
      ⟨(next value middle).value, events ++ (next value middle).events⟩ := by
  simp only [bind, StateT.bind, Traced.andThen, ran]

variable {ε σ α β : Type} {first : ExceptT ε (StateT σ Traced) α}
  {next : α → ExceptT ε (StateT σ Traced) β} {state middle : σ}

/-- Steps that succeed are followed by the next from where they ended. -/
theorem value_bind_ok {value : α} (succeeded : (first state).value = (.ok value, middle)) :
    ((first >>= next) state).value = (next value middle).value := by
  simp only [bind, ExceptT.bind, ExceptT.mk, StateT.bind, Traced.andThen, succeeded,
    ExceptT.bindCont]

/-- The events of steps that succeed come before those of the next. -/
theorem events_bind_ok {value : α} (succeeded : (first state).value = (.ok value, middle)) :
    ((first >>= next) state).events = (first state).events ++ (next value middle).events := by
  simp only [bind, ExceptT.bind, ExceptT.mk, StateT.bind, Traced.andThen, succeeded,
    ExceptT.bindCont]

/-- Steps that go alike from two states are followed by the same. -/
theorem bind_congr {other : σ} (same : first state = first other) :
    (first >>= next) state = (first >>= next) other := by
  simp only [bind, ExceptT.bind, ExceptT.mk, StateT.bind, same]

/-- Steps that fail are followed by nothing. -/
theorem value_bind_error {failure : ε} (failed : (first state).value = (.error failure, middle)) :
    ((first >>= next) state).value = (.error failure, middle) := by
  simp only [bind, ExceptT.bind, ExceptT.mk, StateT.bind, Traced.andThen, failed,
    ExceptT.bindCont]
  rfl

/-- Steps that succeed are followed by the next, the events of both in order. -/
theorem bind_eq_of_ok {value : α} {events : List Event}
    (succeeded : first state = ⟨(.ok value, middle), events⟩) : (first >>= next) state =
      ⟨(next value middle).value, events ++ (next value middle).events⟩ := by
  simp only [bind, ExceptT.bind, ExceptT.mk, StateT.bind, Traced.andThen, succeeded,
    ExceptT.bindCont]

/-- Steps that fail are followed by no event either. -/
theorem bind_eq_of_error {failure : ε} {events : List Event}
    (failed : first state = ⟨(.error failure, middle), events⟩) :
    (first >>= next) state = ⟨(.error failure, middle), events⟩ := by
  simp only [bind, ExceptT.bind, ExceptT.mk, StateT.bind, Traced.andThen, failed,
    ExceptT.bindCont]
  exact congrArg (Traced.mk _) (List.append_nil events)

end CableMap.Traced
