import PermissionContexts.Proofs.Membership

/-! # The two ways to meet a requirement

    A requirement may list several values for one key. It is met **in full** when all of
    them are present, and **in part** when one of them is. Either way it is met key by key
    (`Proper.isSatisfiedBy_iff`), and to meet one key is a matter of the values on both
    sides (`MeetsKey`):

    * More values on the side that is present do no harm (`MeetsKey.mono`).
    * No key of a requirement that can be made is without a value (`Filled.mem_keys_iff`).
      This is why meeting it in full is the stronger way. A key with the empty set of
      values would be met in full by any set with this key, and in part by none.
    * The values of a union are those of both sides (`Sorted.mem_valuesAt_union`).

    Main statement: `satisfaction_grows_with_what_is_present`.
-/

namespace PermissionContexts

namespace ContextSet

variable {s t u : ContextSet} {k v : String} {mode : SatisfyMode}

/-! ### Keys and their values -/

theorem Sorted.valuesAt_eq {values : List String} (hs : s.Sorted) (h : (k, values) ∈ s.groups) :
    s.valuesAt k = values := by
  unfold ContextSet.valuesAt
  rw [hs.mem_groups.mp h, Option.getD_some]

theorem Sorted.mem_valuesAt_union (hs : s.Sorted) (ht : t.Sorted) :
    v ∈ (s.union t).valuesAt k ↔ v ∈ s.valuesAt k ∨ v ∈ t.valuesAt k := by
  rw [(hs.union ht).mem_valuesAt, hs.mem_valuesAt, ht.mem_valuesAt, mem_union]

/-! ### One key of a requirement -/

/-- `t` has what the requirement `s` lists for the key `k`: one value of it or all of them. -/
def MeetsKey (s t : ContextSet) (k : String) : SatisfyMode → Prop
  | .atLeastOneValuePerKey => ∃ v ∈ s.valuesAt k, v ∈ t.valuesAt k
  | .allValuesPerKey => ∀ v ∈ s.valuesAt k, v ∈ t.valuesAt k

/-- That the key is there is tested on its own, and follows from what is tested then if the key
    of the requirement has a value. -/
theorem Proper.meets_iff {values : List String} (hs : s.Proper) (h : (k, values) ∈ s.groups) :
    t.meets mode (k, values) = true ↔ s.MeetsKey t k mode := by
  obtain ⟨v, hv⟩ := List.exists_mem_of_ne_nil _ (hs.filled _ h)
  have hvalues : s.valuesAt k = values := hs.sorted.valuesAt_eq h
  unfold meets
  cases hlookup : t.groups.lookup k with
  | none =>
    have hnone : t.valuesAt k = [] := by simp [valuesAt, hlookup]
    cases mode with
    | atLeastOneValuePerKey => simp [MeetsKey, hnone]
    | allValuesPerKey =>
      simp only [MeetsKey, hvalues, hnone, List.not_mem_nil, imp_false]
      exact ⟨fun hfalse => Bool.noConfusion hfalse, fun hno => absurd hv (hno v)⟩
  | some present =>
    have hpresent : t.valuesAt k = present := by simp [valuesAt, hlookup]
    cases mode with
    | atLeastOneValuePerKey => simp [MeetsKey, hvalues, hpresent]
    | allValuesPerKey => simp [MeetsKey, hvalues, hpresent]

/-- A requirement is met if each of its keys is. -/
theorem Proper.isSatisfiedBy_iff (hs : s.Proper) :
    s.isSatisfiedBy t mode = true ↔ ∀ k ∈ s.keys, s.MeetsKey t k mode := by
  unfold isSatisfiedBy keys Keyed.keys
  rw [List.all_eq_true, List.forall_mem_map]
  exact forall₂_congr fun g hg => hs.meets_iff hg

theorem MeetsKey.mono (h : s.MeetsKey t k mode) (htu : ∀ v ∈ t.valuesAt k, v ∈ u.valuesAt k) :
    s.MeetsKey u k mode := by
  cases mode with
  | atLeastOneValuePerKey =>
    obtain ⟨v, hs, ht⟩ := h
    exact ⟨v, hs, htu v ht⟩
  | allValuesPerKey => exact fun v hv => htu v (h v hv)

/-- Of a key that has a value, all values are enough. -/
theorem MeetsKey.one_of_all (h : s.MeetsKey t k .allValuesPerKey) (hs : s.Filled)
    (hk : k ∈ s.keys) : s.MeetsKey t k .atLeastOneValuePerKey := by
  obtain ⟨v, hv⟩ := hs.mem_keys_iff.mp hk
  exact ⟨v, hv, h v hv⟩

/-- A requirement whose key has the empty set of values is met in full and not in part. -/
example :
    (ContextSet.mk [("world", [])]).isSatisfiedBy ⟨[("world", ["arena"])]⟩ .allValuesPerKey = true ∧
      (ContextSet.mk [("world", [])]).isSatisfiedBy ⟨[("world", ["arena"])]⟩
        .atLeastOneValuePerKey = false := by
  decide

/-- Of a key with one value, one is all. -/
theorem MeetsKey.all_of_one (h : s.MeetsKey t k .atLeastOneValuePerKey)
    (hone : (s.valuesAt k).length = 1) : s.MeetsKey t k .allValuesPerKey := by
  obtain ⟨w, hw⟩ := List.length_eq_one_iff.mp hone
  obtain ⟨v, hv, ht⟩ := h
  intro v' hv'
  rw [hw, List.mem_singleton] at hv hv'
  rw [hv', ← hv]
  exact ht

/-- A key of a union is met if it is met for each side that lists it. -/
theorem Proper.meetsKey_union (hs : s.Proper) (ht : t.Proper)
    (hmeets : k ∈ s.keys → s.MeetsKey u k mode) (hmeets' : k ∈ t.keys → t.MeetsKey u k mode)
    (hk : k ∈ (s.union t).keys) : (s.union t).MeetsKey u k mode := by
  have hvalues : ∀ {v}, v ∈ (s.union t).valuesAt k ↔ v ∈ s.valuesAt k ∨ v ∈ t.valuesAt k :=
    hs.sorted.mem_valuesAt_union ht.sorted
  cases mode with
  | atLeastOneValuePerKey =>
    -- the side that has a value for the key has one that is present
    obtain ⟨v, hv⟩ := (hs.union ht).filled.mem_keys_iff.mp hk
    rcases hvalues.mp hv with hv | hv
    · obtain ⟨w, hw, hu⟩ := hmeets (hs.filled.mem_keys_iff.mpr ⟨v, hv⟩)
      exact ⟨w, hvalues.mpr (Or.inl hw), hu⟩
    · obtain ⟨w, hw, hu⟩ := hmeets' (ht.filled.mem_keys_iff.mpr ⟨v, hv⟩)
      exact ⟨w, hvalues.mpr (Or.inr hw), hu⟩
  | allValuesPerKey =>
    intro v hv
    rcases hvalues.mp hv with hv | hv
    · exact hmeets (hs.filled.mem_keys_iff.mpr ⟨v, hv⟩) v hv
    · exact hmeets' (ht.filled.mem_keys_iff.mpr ⟨v, hv⟩) v hv

/-! ### Main statement -/

/-- **Satisfaction grows with what is present.** Of any sets that can be made,

    1. a requirement is met if each of its keys is,
    2. what meets it in full meets it in part, and if each key has one value, then the other
       way round too,
    3. it is still met when more is present, in either way, and
    4. what meets two requirements in one way meets their union in this way. -/
theorem satisfaction_grows_with_what_is_present :
    (∀ r c : ContextSet, r.Built → c.Built → ∀ mode : SatisfyMode,
      (r.isSatisfiedBy c mode = true ↔ ∀ k ∈ r.keys, r.MeetsKey c k mode)) ∧
    (∀ r c : ContextSet, r.Built → c.Built →
      (r.isSatisfiedBy c .allValuesPerKey = true →
        r.isSatisfiedBy c .atLeastOneValuePerKey = true) ∧
      ((∀ k ∈ r.keys, (r.valuesAt k).length = 1) →
        r.isSatisfiedBy c .allValuesPerKey = r.isSatisfiedBy c .atLeastOneValuePerKey)) ∧
    (∀ r b c : ContextSet, r.Built → b.Built → c.Built → ∀ mode : SatisfyMode,
      r.isSatisfiedBy c mode = true → r.isSatisfiedBy (c.union b) mode = true) ∧
    ∀ a b c : ContextSet, a.Built → b.Built → c.Built → ∀ mode : SatisfyMode,
      a.isSatisfiedBy c mode = true → b.isSatisfiedBy c mode = true →
        (a.union b).isSatisfiedBy c mode = true := by
  have hfull : ∀ r c : ContextSet, r.Proper → r.isSatisfiedBy c .allValuesPerKey = true →
      r.isSatisfiedBy c .atLeastOneValuePerKey = true := by
    intro r c hr h
    apply hr.isSatisfiedBy_iff.mpr
    intro k hk
    exact (hr.isSatisfiedBy_iff.mp h k hk).one_of_all hr.filled hk
  refine ⟨fun r c hr _ mode => hr.proper.isSatisfiedBy_iff, ?_, ?_, ?_⟩
  · intro r c hr _
    refine ⟨hfull r c hr.proper, ?_⟩
    intro hone
    rw [Bool.eq_iff_iff]
    refine ⟨hfull r c hr.proper, ?_⟩
    intro h
    apply hr.proper.isSatisfiedBy_iff.mpr
    intro k hk
    exact (hr.proper.isSatisfiedBy_iff.mp h k hk).all_of_one (hone k hk)
  · intro r b c hr hb hc mode h
    apply hr.proper.isSatisfiedBy_iff.mpr
    intro k hk
    apply (hr.proper.isSatisfiedBy_iff.mp h k hk).mono
    intro v hv
    exact (hc.proper.sorted.mem_valuesAt_union hb.proper.sorted).mpr (Or.inl hv)
  · intro a b c ha hb _ mode hac hbc
    apply (ha.proper.union hb.proper).isSatisfiedBy_iff.mpr
    intro k hk
    exact ha.proper.meetsKey_union hb.proper (ha.proper.isSatisfiedBy_iff.mp hac k)
      (hb.proper.isSatisfiedBy_iff.mp hbc k) hk

/-- A requirement with two worlds is met in part only, and one with a game mode in full. -/
theorem satisfaction_grows_with_what_is_present_lobby :
    let a := ofPairs [("world", "arena"), ("world", "lobby")]
    let b := ofPairs [("gamemode", "creative")]
    let c := ofPairs [("gamemode", "creative"), ("world", "lobby")]
    let d := ofPairs [("world", "nether")]
    a.isSatisfiedBy c .allValuesPerKey = false ∧
      b.isSatisfiedBy c .atLeastOneValuePerKey = true ∧
      a.isSatisfiedBy d .allValuesPerKey = false ∧
      b.isSatisfiedBy d .allValuesPerKey = b.isSatisfiedBy d .atLeastOneValuePerKey ∧
      a.isSatisfiedBy (c.union d) .atLeastOneValuePerKey = true ∧
      (a.union b).isSatisfiedBy c .atLeastOneValuePerKey = true := by
  intro a b c d
  obtain ⟨-, hways, hmore, hunion⟩ := satisfaction_grows_with_what_is_present
  have hbuilt : ∀ ps, (ofPairs ps).Built := Built.ofPairs
  have ha : a.isSatisfiedBy c .atLeastOneValuePerKey = true := by decide +kernel
  have hb : b.isSatisfiedBy c .atLeastOneValuePerKey = true :=
    (hways b c (hbuilt _) (hbuilt _)).1 (by decide +kernel)
  have hone : ∀ k ∈ b.keys, (b.valuesAt k).length = 1 := by decide +kernel
  exact ⟨by decide +kernel, hb, by decide +kernel,
    (hways b d (hbuilt _) (hbuilt _)).2 hone,
    hmore a d c (hbuilt _) (hbuilt _) (hbuilt _) _ ha,
    hunion a b c (hbuilt _) (hbuilt _) (hbuilt _) _ ha hb⟩

end ContextSet

end PermissionContexts
