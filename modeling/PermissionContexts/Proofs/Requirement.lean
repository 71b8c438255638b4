import Mathlib.Order.Lattice
import Mathlib.Order.BoundedOrder.Basic
import PermissionContexts.Proofs.Satisfaction

/-! # The order of requirements

    A set may be a requirement that another set has to meet in full: every value of every
    key has to be there. This orders the sets that can be made, and unions are joins in
    this order.

    * **Meeting** a requirement in full is to hold all that it holds (`Proper.metBy_iff`), so
      that sets which meet each other are the same.
    * **Unions** hold what either side holds, and nothing else. So `BuiltSet`, the type of all
      sets that can be made, is a join semilattice with the empty set at its bottom, and the
      laws of unions are those of joins.
    * **Sizes** add up, but for the contexts that both sides hold (`Sorted.size_union`).

    Main statement: `unions_are_joins`.
-/

namespace PermissionContexts

namespace ContextSet

variable {s t u : ContextSet}

/-! ### Requirements that are met in full -/

/-- `t` has every value of every key of `s`. -/
def MetBy (s t : ContextSet) : Prop :=
  s.isSatisfiedBy t .allValuesPerKey = true

/-- A requirement is met in full by what holds all its contexts. -/
theorem Proper.metBy_iff (hs : s.Proper) (ht : t.Proper) :
    s.MetBy t ↔ ∀ c ∈ s.contexts, c ∈ t.contexts := by
  unfold MetBy
  rw [hs.isSatisfiedBy_iff]
  constructor
  · intro h c hc
    have hv : c.value ∈ s.valuesAt c.key := hs.sorted.mem_valuesAt.mpr hc
    have hk : c.key ∈ s.keys := hs.filled.mem_keys_iff.mpr ⟨c.value, hv⟩
    exact ht.sorted.mem_valuesAt.mp (h c.key hk c.value hv)
  · intro h k _ v hv
    exact ht.sorted.mem_valuesAt.mpr (h _ (hs.sorted.mem_valuesAt.mp hv))

/-! ### Unions as joins -/

/-- The sets that can be made. -/
def BuiltSet : Type :=
  { s : ContextSet // s.Built }

namespace BuiltSet

/-- A set that can be made is met in full by what holds all its contexts. -/
theorem metBy_iff (a b : BuiltSet) : a.1.MetBy b.1 ↔ ∀ c ∈ a.1.contexts, c ∈ b.1.contexts :=
  a.2.proper.metBy_iff b.2.proper

/-- A set is below those that meet it in full. -/
instance : PartialOrder BuiltSet where
  le a b := a.1.MetBy b.1
  le_refl a := (metBy_iff a a).mpr fun _ hc => hc
  le_trans a b c hab hbc := by
    apply (metBy_iff a c).mpr
    intro x hx
    exact (metBy_iff b c).mp hbc x ((metBy_iff a b).mp hab x hx)
  le_antisymm a b hab hba := by
    have hsets : a.1 = b.1 := by
      apply a.2.proper.ext b.2.proper
      intro x
      exact ⟨(metBy_iff a b).mp hab x, (metBy_iff b a).mp hba x⟩
    exact Subtype.ext hsets

instance : SemilatticeSup BuiltSet where
  sup a b := ⟨a.1.union b.1, .union a.2 b.2⟩
  le_sup_left a b := (metBy_iff a ⟨_, .union a.2 b.2⟩).mpr fun _ hc => mem_union.mpr (Or.inl hc)
  le_sup_right a b := (metBy_iff b ⟨_, .union a.2 b.2⟩).mpr fun _ hc => mem_union.mpr (Or.inr hc)
  sup_le a b c hac hbc := by
    apply (metBy_iff ⟨_, .union a.2 b.2⟩ c).mpr
    intro x hx
    rcases mem_union.mp hx with hx | hx
    · exact (metBy_iff a c).mp hac x hx
    · exact (metBy_iff b c).mp hbc x hx

instance : OrderBot BuiltSet where
  bot := ⟨.empty, .empty⟩
  bot_le a := (metBy_iff ⟨_, .empty⟩ a).mpr fun c hc => absurd hc (not_mem_empty c)

end BuiltSet

/-! ### Sizes -/

/-- The contexts that both sets hold. -/
def common (s t : ContextSet) : List Context :=
  s.contexts.filter (· ∈ t.contexts)

theorem size_eq_length (s : ContextSet) : s.size = s.contexts.length := by
  unfold contexts
  rw [size_eq_length_pairs, List.length_map]

/-- A union has the contexts of one side, and of the other those that are not common. -/
theorem Sorted.union_perm (hs : s.Sorted) (ht : t.Sorted) :
    (s.union t).contexts.Perm (t.contexts ++ s.contexts.filter (· ∉ t.contexts)) := by
  have hdisjoint : t.contexts.Disjoint (s.contexts.filter (· ∉ t.contexts)) := by
    intro c hc hc'
    exact of_decide_eq_true (List.mem_filter.mp hc').2 hc
  have hnodup : (t.contexts ++ s.contexts.filter (· ∉ t.contexts)).Nodup :=
    ht.nodup.append (hs.nodup.filter _) hdisjoint
  -- neither list repeats a context, so it is enough that they have the same ones
  apply (List.perm_ext_iff_of_nodup (hs.union ht).nodup hnodup).mpr
  intro c
  rw [mem_union, List.mem_append, List.mem_filter, decide_eq_true_eq]
  tauto

theorem Sorted.size_union (hs : s.Sorted) (ht : t.Sorted) :
    (s.union t).size + (s.common t).length = s.size + t.size := by
  have hunion : (s.union t).contexts.length =
      t.contexts.length + (s.contexts.filter (· ∉ t.contexts)).length := by
    rw [(hs.union_perm ht).length_eq, List.length_append]
  have hsplit : s.contexts.length = (s.contexts.filter (· ∈ t.contexts)).length +
      (s.contexts.filter (· ∉ t.contexts)).length := by
    simp only [← List.countP_eq_length_filter]
    rw [List.length_eq_countP_add_countP (· ∈ t.contexts)]
    simp
  simp only [size_eq_length]
  unfold common
  omega

/-! ### Main statement -/

/-- **Unions are joins** of the sets that can be made, ordered by what meets them in full.

    1. This is an order with the empty set at the bottom.
    2. The union of two sets is their least upper bound.
    3. So unions are commutative, associative and idempotent, and the empty set changes
       nothing.
    4. The size of a union is the sum of the sizes less the number of common contexts. -/
theorem unions_are_joins :
    (∀ s : ContextSet, s.Built → s.MetBy s ∧ empty.MetBy s) ∧
    (∀ s t : ContextSet, s.Built → t.Built → s.MetBy t → t.MetBy s → s = t) ∧
    (∀ s t u : ContextSet, s.Built → t.Built → u.Built →
      (s.MetBy t → t.MetBy u → s.MetBy u) ∧
      (s.MetBy u ∧ t.MetBy u ↔ (s.union t).MetBy u) ∧
      (s.union t).union u = s.union (t.union u)) ∧
    ∀ s t : ContextSet, s.Built → t.Built →
      s.union t = t.union s ∧ s.union s = s ∧ s.union empty = s ∧ empty.union s = s ∧
      (s.union t).size + (s.common t).length = s.size + t.size := by
  refine ⟨?_, ?_, ?_, ?_⟩
  · intro s hs
    let a : BuiltSet := ⟨s, hs⟩
    have hbot : (⊥ : BuiltSet) ≤ a := bot_le
    exact ⟨le_refl a, hbot⟩
  · intro s t hs ht hst hts
    let a : BuiltSet := ⟨s, hs⟩
    let b : BuiltSet := ⟨t, ht⟩
    have hab : a = b := le_antisymm hst hts
    exact congrArg Subtype.val hab
  · intro s t u hs ht hu
    let a : BuiltSet := ⟨s, hs⟩
    let b : BuiltSet := ⟨t, ht⟩
    let c : BuiltSet := ⟨u, hu⟩
    have htrans : a ≤ b → b ≤ c → a ≤ c := le_trans
    have hleast : a ≤ c ∧ b ≤ c ↔ a ⊔ b ≤ c := sup_le_iff.symm
    exact ⟨htrans, hleast, congrArg Subtype.val (sup_assoc a b c)⟩
  · intro s t hs ht
    let a : BuiltSet := ⟨s, hs⟩
    let b : BuiltSet := ⟨t, ht⟩
    have hsize : (s.union t).size + (s.common t).length = s.size + t.size :=
      hs.proper.sorted.size_union ht.proper.sorted
    exact ⟨congrArg Subtype.val (sup_comm a b), congrArg Subtype.val (sup_idem a),
      congrArg Subtype.val (sup_bot_eq a), congrArg Subtype.val (bot_sup_eq a), hsize⟩

/-- Two requirements with a context in common, and what meets both. -/
theorem unions_are_joins_lobby :
    let s := ofPairs [("world", "arena"), ("world", "lobby")]
    let t := ofPairs [("world", "lobby"), ("gamemode", "creative")]
    let u := ofPairs [("gamemode", "creative"), ("region", "east"), ("world", "arena"),
      ("world", "lobby")]
    (s.union t).MetBy u ∧ s.union t = t.union s ∧ (s.union t).size + 1 = s.size + t.size := by
  intro s t u
  obtain ⟨-, -, hjoins, hlaws⟩ := unions_are_joins
  have hs : s.Built := .ofPairs _
  have ht : t.Built := .ofPairs _
  have hmet : s.MetBy u ∧ t.MetBy u := by
    unfold MetBy
    decide +kernel
  obtain ⟨hcomm, -, -, -, hsize⟩ := hlaws s t hs ht
  have hcommon : (s.common t).length = 1 := by decide +kernel
  rw [hcommon] at hsize
  exact ⟨(hjoins s t u hs ht (.ofPairs _)).2.1.mp hmet, hcomm, hsize⟩

end ContextSet

end PermissionContexts
