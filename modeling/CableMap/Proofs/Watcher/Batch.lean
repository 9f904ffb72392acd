import CableMap.Proofs.Binding.Batch
import CableMap.Proofs.Watcher.Read

/-!
# A batch is its walks

The walks of a catalog are made in order. If each of them gives an output, the text of all of them is
read as the outputs are one by one; if one fails, its failure is that of all, and what stands behind
it in the catalog is not walked.
-/
namespace CableMap.Watcher

variable {outlook : Outlook} {host : Ipv4} {catalog : Catalog} {outputs : List String}

/-- The walks of a catalog behind some walks that were made before, each with its answer. -/
def answered (outlook : Outlook) (host : Ipv4) (walked : Nat) (catalog : Catalog) :
    List (Walk × Traced (Except Failure String)) :=
  catalog.mapIdx fun place oid =>
    let walk : Walk := ⟨host, outlook.community, oid⟩
    (walk, outlook.answers (walked + place) walk)

/-- What the walks of a catalog come to, each by itself. -/
def outcomes (outlook : Outlook) (host : Ipv4) (walked : Nat) (catalog : Catalog) :
    List (Except Failure String) :=
  (answered outlook host walked catalog).map fun (_, answer) => answer.value

/-- What is seen of the walks of a catalog: that each is asked for, and what happens on the way to
its answer. -/
def seen (outlook : Outlook) (host : Ipv4) (walked : Nat) (catalog : Catalog) : List Event :=
  (answered outlook host walked catalog).flatMap fun (walk, answer) =>
    .walked walk :: answer.events

/-- The watcher when some more walks were made. -/
def further (watcher : Watcher) (walks : Nat) : Watcher :=
  { watcher with walked := watcher.walked + walks }

/-- Walks that are made in two goes are as many as in one. -/
theorem further_further (watcher : Watcher) (walks more : Nat) :
    (watcher.further walks).further more = watcher.further (walks + more) := by
  rw [further, further, further, Nat.add_assoc]

/-- What the walks of a catalog make as a batch. -/
structure Batches (outlook : Outlook) (host : Ipv4) (catalog : Catalog) (watcher : Watcher) :
    Prop where
  /-- If each walk gives an output, all of the catalog is walked, and the text is read as the outputs
  are unless one ends in a return. -/
  whole : ∀ outputs : List String, outcomes outlook host watcher.walked catalog = outputs.map .ok →
    ∃ text, Walk.batch (ask outlook host) catalog watcher =
      ⟨(.ok text, watcher.further catalog.length),
        seen outlook host watcher.walked catalog⟩ ∧
      ((∀ output ∈ outputs, output.toList.getLast? ≠ some '\r') → Binding.ReadsAs text outputs)
  /-- If a walk is the first that fails, the batch fails for it, and the catalog is walked up to it
  and no further. -/
  failing : ∀ (outputs : List String) (failure : Failure) (later : List (Except Failure String)),
    outcomes outlook host watcher.walked catalog = outputs.map .ok ++ .error failure :: later →
    Walk.batch (ask outlook host) catalog watcher =
      ⟨(.error failure, watcher.further (outputs.length + 1)),
        seen outlook host watcher.walked (catalog.take (outputs.length + 1))⟩

/-- The walks of two catalogs are those of the first and then, later by as many, those of the
second. -/
theorem answered_append (walked : Nat) (before later : Catalog) :
    answered outlook host walked (before ++ later) =
      answered outlook host walked before ++
        answered outlook host (walked + before.length) later := by
  unfold answered
  rw [List.mapIdx_append]
  simp only [Nat.add_assoc, Nat.add_comm before.length]

/-- The outcomes of a catalog are that of the first walk and those of the others. -/
theorem outcomes_cons (walked : Nat) (oid : Oid) (catalog : Catalog) :
    outcomes outlook host walked (oid :: catalog) =
      (outlook.answers walked ⟨host, outlook.community, oid⟩).value ::
        outcomes outlook host (walked + 1) catalog := by
  rw [outcomes, ← List.singleton_append, answered_append, List.map_append]
  rfl

/-- What is seen of two catalogs, one behind the other, is what is seen of each. -/
theorem seen_append (walked : Nat) (before later : Catalog) :
    seen outlook host walked (before ++ later) =
      seen outlook host walked before ++ seen outlook host (walked + before.length) later := by
  rw [seen, answered_append, List.flatMap_append]
  rfl

/-! ## One walk of a batch -/

/-- A walk is asked for, answered and counted. -/
theorem ask_eq (outlook : Outlook) (host : Ipv4) (oid : Oid) (watcher : Watcher) :
    ask outlook host oid watcher =
      ⟨((outlook.answers watcher.walked ⟨host, outlook.community, oid⟩).value,
          watcher.further 1),
        seen outlook host watcher.walked [oid]⟩ := rfl

/-- One step of a batch: to make a walk and add its output to the text. -/
def extend (outlook : Outlook) (host : Ipv4) (text : String) (oid : Oid) :
    ExceptT Failure WatchM String := do
  pure (Walk.endLine (text ++ (← ask outlook host oid)))

/-- A walk that is answered adds its output to the text. -/
theorem extend_of_ok {watcher : Watcher} {oid : Oid} {output : String}
    (given : (outlook.answers watcher.walked ⟨host, outlook.community, oid⟩).value = .ok output)
    (text : String) :
    extend outlook host text oid watcher =
      ⟨(.ok (Walk.endLine (text ++ output)), watcher.further 1),
        seen outlook host watcher.walked [oid]⟩ := by
  have asked := ask_eq outlook host oid watcher
  rw [given] at asked
  refine (Traced.bind_eq_of_ok asked).trans ?_
  exact congrArg (Traced.mk _) (List.append_nil _)

/-- A walk that is not answered ends the batch. -/
theorem extend_of_error {watcher : Watcher} {oid : Oid} {failure : Failure}
    (given : (outlook.answers watcher.walked ⟨host, outlook.community, oid⟩).value = .error failure)
    (text : String) :
    extend outlook host text oid watcher =
      ⟨(.error failure, watcher.further 1),
        seen outlook host watcher.walked [oid]⟩ := by
  have asked := ask_eq outlook host oid watcher
  rw [given] at asked
  exact Traced.bind_eq_of_error asked

/-! ## All walks of a batch -/

/-- Walks that all give outputs join these to the text. -/
theorem extend_all {watcher : Watcher} {text : String}
    (given : outcomes outlook host watcher.walked catalog = outputs.map .ok) :
    catalog.foldlM (extend outlook host) text watcher =
      ⟨(.ok (Walk.joined text outputs), watcher.further catalog.length),
        seen outlook host watcher.walked catalog⟩ := by
  induction catalog generalizing text watcher outputs with
  | nil =>
    obtain rfl : outputs = [] := List.map_eq_nil_iff.mp given.symm
    rfl
  | cons oid catalog ih =>
    rw [outcomes_cons] at given
    obtain ⟨output, outputs, rfl, first, rest⟩ := List.map_eq_cons_iff.mp given.symm
    have ahead : (watcher.further 1).further catalog.length =
        watcher.further (catalog.length + 1) := by
      rw [further_further, Nat.add_comm]
    rw [List.foldlM_cons]
    refine (Traced.bind_eq_of_ok (extend_of_ok first.symm text)).trans ?_
    rw [ih rest.symm, ahead, ← List.singleton_append (l := catalog), seen_append]
    rfl

/-- Walks of which one is the first that fails come to its failure, and those behind it are not
made. -/
theorem extend_until_error {watcher : Watcher} {text : String} {failure : Failure}
    {later : List (Except Failure String)}
    (given : outcomes outlook host watcher.walked catalog =
      outputs.map .ok ++ .error failure :: later) :
    catalog.foldlM (extend outlook host) text watcher =
      ⟨(.error failure, watcher.further (outputs.length + 1)),
        seen outlook host watcher.walked (catalog.take (outputs.length + 1))⟩ := by
  induction catalog generalizing text watcher outputs with
  | nil => simp [outcomes, answered] at given
  | cons oid catalog ih =>
    rw [outcomes_cons] at given
    rw [List.foldlM_cons]
    cases outputs with
    | nil =>
      obtain ⟨first, _⟩ := List.cons.inj given
      exact Traced.bind_eq_of_error (extend_of_error first text)
    | cons output outputs =>
      obtain ⟨first, rest⟩ := List.cons.inj given
      have ahead : (watcher.further 1).further (outputs.length + 1) =
          watcher.further (outputs.length + 1 + 1) := by
        rw [further_further, Nat.add_comm]
      refine (Traced.bind_eq_of_ok (extend_of_ok first text)).trans ?_
      rw [ih rest, ahead, List.length_cons, List.take_succ_cons,
        ← List.singleton_append (l := catalog.take _), seen_append]
      rfl

/-- Whatever the walks of a catalog give, the batch is what they make. -/
theorem batch_is_its_walks (outlook : Outlook) (host : Ipv4) (catalog : Catalog)
    (watcher : Watcher) : Batches outlook host catalog watcher where
  whole _ given := ⟨_, extend_all given, Binding.readsAs_joined⟩
  failing _ _ _ given := extend_until_error given

end CableMap.Watcher
