import Mathlib.Data.List.Sort

/-!
# Lists in rising order

To sort a list and then drop each member that repeats the one before it leaves the members of the
list, each once and in rising order. There is only one such list, whatever procedure finds it.
Texts are in the order of their first difference, so behind starts of one length it is the starts
that decide unless they are the same.
-/
namespace CableMap

variable {α : Type}

/-! ## Each member once and in rising order -/

/-- A list holds the members of another, each once and in rising order. -/
structure Arranged (less : α → α → Prop) (given arranged : List α) : Prop where
  /-- Each member is less than all behind it. -/
  rising : arranged.Pairwise less
  /-- The members are the same. -/
  mem_iff : ∀ x, x ∈ arranged ↔ x ∈ given

/-- There is one such list. -/
theorem Arranged.eq {less : α → α → Prop} [Std.Asymm less] {given left right : List α}
    (first : Arranged less given left) (second : Arranged less given right) : left = right :=
  first.rising.eq_of_mem_iff second.rising fun x => (first.mem_iff x).trans (second.mem_iff x).symm

/-- Repetitions are dropped from the front on; those already kept stay as they are. -/
theorem eraseReps_loop [BEq α] (kept others : List α) (first : α) :
    List.eraseRepsBy.loop (· == ·) first others kept =
      kept.reverse ++ (first :: others).eraseReps := by
  induction others generalizing kept first with
  | nil => simp [List.eraseRepsBy.loop, List.eraseReps, List.eraseRepsBy]
  | cons second others ih =>
    rw [List.eraseReps, List.eraseRepsBy, List.eraseRepsBy.loop, List.eraseRepsBy.loop]
    cases first == second with
    | true =>
      dsimp only
      rw [ih, ih, List.reverse_nil, List.nil_append]
    | false =>
      dsimp only
      rw [ih, ih]
      simp

/-- The first of two members is dropped if the second is the same. -/
theorem eraseReps_cons_cons [DecidableEq α] (first second : α) (others : List α) :
    (first :: second :: others).eraseReps =
      if first = second then (first :: others).eraseReps
      else first :: (second :: others).eraseReps := by
  rw [List.eraseReps, List.eraseRepsBy, List.eraseRepsBy.loop]
  by_cases same : first = second
  · rw [if_pos same, beq_iff_eq.mpr same, eraseReps_loop]
    rfl
  · rw [if_neg same, beq_eq_false_iff_ne.mpr same]
    exact eraseReps_loop [first] others second

/-! ## Sorting -/

/-- How a list is sorted: of any two members one may stand before the other, and both before each
other only if they are the same. -/
structure Sorts (atMost : α → α → Bool) : Prop where
  trans : ∀ a b c, atMost a b = true → atMost b c = true → atMost a c = true
  total : ∀ a b, (atMost a b || atMost b a) = true
  antisymm : ∀ a b, atMost a b = true → atMost b a = true → a = b

/-- From a sorted list the repetitions are dropped, and nothing else. -/
theorem Sorts.arranged_eraseReps [DecidableEq α] {atMost : α → α → Bool} (sorts : Sorts atMost)
    {sorted : List α} (rising : sorted.Pairwise (atMost · · = true)) :
    Arranged (fun a b => atMost a b = true ∧ a ≠ b) sorted sorted.eraseReps := by
  cases sorted with
  | nil => exact ⟨.nil, fun x => Iff.rfl⟩
  | cons first others =>
    induction others generalizing first with
    | nil => exact ⟨List.pairwise_singleton _ _, fun x => Iff.rfl⟩
    | cons second others ih =>
      rw [eraseReps_cons_cons]
      obtain ⟨least, behind⟩ := List.pairwise_cons.mp rising
      by_cases same : first = second
      · subst same
        obtain ⟨steps, members⟩ := ih first behind
        rw [if_pos rfl]
        exact ⟨steps, fun x => by simp [members x]⟩
      · obtain ⟨steps, members⟩ := ih second behind
        rw [if_neg same]
        refine ⟨List.pairwise_cons.mpr ⟨fun x kept => ?_, steps⟩, fun x => by simp [members x]⟩
        have later : x ∈ second :: others := (members x).mp kept
        refine ⟨least x later, fun again => same ?_⟩
        -- Were the first member to come back, the second would stand before it and behind it.
        subst again
        rcases List.mem_cons.mp later with here | there
        · exact here
        · exact sorts.antisymm _ _ (least second List.mem_cons_self)
            ((List.pairwise_cons.mp behind).1 first there)

/-- Sorting and dropping repetitions arranges any list. -/
theorem Sorts.arranged_mergeSort [DecidableEq α] {atMost : α → α → Bool} (sorts : Sorts atMost)
    (given : List α) :
    Arranged (fun a b => atMost a b = true ∧ a ≠ b) given (given.mergeSort atMost).eraseReps := by
  have rising := List.pairwise_mergeSort sorts.trans sorts.total given
  obtain ⟨steps, members⟩ := sorts.arranged_eraseReps rising
  exact ⟨steps, fun x => (members x).trans List.mem_mergeSort⟩

/-! ## Behind starts of one length -/

/-- Behind starts of one length the order is that of the starts unless they are the same. -/
theorem append_lt_append_iff [LT α] [Std.Irrefl (α := α) (· < ·)] {left right : List α}
    (length : left.length = right.length) {behind other : List α} :
    left ++ behind < right ++ other ↔ left < right ∨ left = right ∧ behind < other := by
  induction left generalizing right with
  | nil =>
    obtain rfl := List.length_eq_zero_iff.mp length.symm
    simp [List.lt_irrefl]
  | cons x left ih =>
    cases right with
    | nil => cases length
    | cons y right =>
      simp only [List.cons_append, List.cons_lt_cons_iff, ih (Nat.succ.inj length),
        List.cons.injEq]
      tauto

end CableMap
