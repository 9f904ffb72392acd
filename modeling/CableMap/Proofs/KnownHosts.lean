import CableMap.KnownHosts
import CableMap.Proofs.Address.Ipv4

/-!
# What the known hosts reported

To record what a host reported puts it in place of what it reported before and leaves what the
others did. The hosts stay in the order of their addresses, so each is known once.
-/
namespace CableMap.KnownHosts

variable {known : KnownHosts} {host other : Ipv4} {bindings : List Binding}

/-! ## Look-ups -/

/-- What was put in place for a host is found for it. -/
theorem lookup_place_self (host : Ipv4) (bindings : List Binding)
    (hosts : List (Ipv4 × List Binding)) :
    (place host bindings hosts).lookup host = some bindings := by
  induction hosts with
  | nil => exact List.lookup_cons_self
  | cons entry hosts ih =>
    obtain ⟨first, kept⟩ := entry
    unfold place
    split
    · exact List.lookup_cons_self
    · rename_i apart
      split
      · exact List.lookup_cons_self
      · rw [List.lookup_cons, beq_eq_false_iff_ne.mpr apart]
        exact ih

/-- What is put in place for one host does not change what is found for another. -/
theorem lookup_place_of_ne (apart : other ≠ host) (bindings : List Binding)
    (hosts : List (Ipv4 × List Binding)) :
    (place host bindings hosts).lookup other = hosts.lookup other := by
  have passed (rest : List (Ipv4 × List Binding)) :
      ((host, bindings) :: rest).lookup other = rest.lookup other := by
    rw [List.lookup_cons, beq_eq_false_iff_ne.mpr apart]
  induction hosts with
  | nil => exact passed []
  | cons entry hosts ih =>
    obtain ⟨first, kept⟩ := entry
    unfold place
    split
    · rename_i same
      rw [passed, List.lookup_cons, ← same, beq_eq_false_iff_ne.mpr apart]
    · split
      · exact passed _
      · rw [List.lookup_cons, List.lookup_cons, ih]

/-- What a host reported last is what was recorded last of it. -/
@[simp] theorem bindingsOf?_record_self (known : KnownHosts) (host : Ipv4)
    (bindings : List Binding) : (known.record host bindings).bindingsOf? host = some bindings :=
  lookup_place_self host bindings known.hosts

/-- To record what one host reported leaves what the others did. -/
theorem bindingsOf?_record_of_ne (apart : other ≠ host) :
    (known.record host bindings).bindingsOf? other = known.bindingsOf? other :=
  lookup_place_of_ne apart bindings known.hosts

/-- What any host reported after one was recorded. -/
theorem bindingsOf?_record (known : KnownHosts) (host : Ipv4) (bindings : List Binding)
    (other : Ipv4) : (known.record host bindings).bindingsOf? other =
      if other = host then some bindings else known.bindingsOf? other := by
  by_cases same : other = host
  · rw [if_pos same, same, bindingsOf?_record_self]
  · rw [if_neg same, bindingsOf?_record_of_ne same]

/-- The known hosts are those that reported something. -/
theorem mem_addresses :
    host ∈ known.addresses ↔ ∃ bindings, known.bindingsOf? host = some bindings := by
  obtain ⟨hosts⟩ := known
  unfold addresses bindingsOf?
  induction hosts with
  | nil => simp
  | cons entry hosts ih =>
    obtain ⟨first, kept⟩ := entry
    by_cases same : host = first
    · subst same
      exact iff_of_true List.mem_cons_self ⟨kept, List.lookup_cons_self⟩
    · rw [List.lookup_cons, beq_eq_false_iff_ne.mpr same, ← ih]
      exact List.mem_cons.trans (or_iff_right same)

/-! ## Order -/

/-- The hosts stand by rising address. -/
def Rising (known : KnownHosts) : Prop :=
  known.hosts.Pairwise fun left right => left.1.toNat < right.1.toNat

/-- Of no hosts all stand by rising address. -/
theorem Rising.empty : Rising .empty := List.Pairwise.nil

/-- After a host was put in place there is no entry but its own and those before. -/
theorem mem_place {entry : Ipv4 × List Binding} {hosts : List (Ipv4 × List Binding)}
    (inside : entry ∈ place host bindings hosts) : entry = (host, bindings) ∨ entry ∈ hosts := by
  induction hosts with
  | nil => exact .inl (List.mem_singleton.mp inside)
  | cons head hosts ih =>
    obtain ⟨first, kept⟩ := head
    unfold place at inside
    split at inside
    · rcases List.mem_cons.mp inside with placed | rest
      · exact .inl placed
      · exact .inr (List.mem_cons_of_mem _ rest)
    · split at inside
      · exact List.mem_cons.mp inside
      · rcases List.mem_cons.mp inside with front | rest
        · exact .inr (front ▸ List.mem_cons_self)
        · exact (ih rest).imp_right (List.mem_cons_of_mem _)

/-- The hosts stand by rising address after one reported. -/
theorem Rising.record (rising : known.Rising) (host : Ipv4) (bindings : List Binding) :
    (known.record host bindings).Rising := by
  obtain ⟨hosts⟩ := known
  show (place host bindings hosts).Pairwise fun left right => left.1.toNat < right.1.toNat
  unfold Rising at rising
  induction hosts with
  | nil => exact List.pairwise_singleton _ _
  | cons entry hosts ih =>
    obtain ⟨first, kept⟩ := entry
    obtain ⟨lowest, rest⟩ := List.pairwise_cons.mp rising
    unfold place
    split
    · rename_i same
      subst same
      exact List.pairwise_cons.mpr ⟨lowest, rest⟩
    · rename_i apart
      split
      · rename_i before
        refine List.pairwise_cons.mpr ⟨fun entry inside => ?_, rising⟩
        rcases List.mem_cons.mp inside with rfl | later
        · exact before
        · have higher := lowest entry later
          exact Nat.lt_trans before higher
      · rename_i notBefore
        refine List.pairwise_cons.mpr ⟨fun entry inside => ?_, ih rest⟩
        rcases mem_place inside with rfl | later
        · have distinct : host.toNat ≠ first.toNat := fun same => apart (Ipv4.toNat_inj.mp same)
          show first.toNat < host.toNat
          omega
        · exact lowest entry later

/-- No host is known twice. -/
theorem Rising.nodup (rising : known.Rising) : known.addresses.Nodup := by
  refine List.pairwise_map.mpr (List.Pairwise.imp ?_ rising)
  intro left right rises same
  rw [same] at rises
  exact Nat.lt_irrefl _ rises

end CableMap.KnownHosts
