import Mathlib.Logic.Relation
import PermissionContexts.Proofs.ContextInvariant

/-! # Sets are known by what they answer

    A set can be asked for any raw pair, and that tells all about it: two sets that give
    the same answers are the same map of sets (`eq_iff_contains`), since neither has a key
    that no answer tells of. A pair that is offered to a set is refused, and the set is
    left as it is, or it is the only one that the set gains (`tryAdd_cases`).

    So a set made of raw pairs depends only on what becomes of them (`ofPairs_eq_iff`).
    A list may be **reworded** without making another set, and in one of four ways at a
    time (`Reword`):

    * the pairs are put in another order,
    * a pair is written once more,
    * a pair is written in another way that has the same normal form, or
    * a pair is added that is not valid.

    These are all the ways there are: two lists that make the same set are rewordings of
    each other, since each is one of the pairs of that set (`reworded_pairs`).

    Main statement: `sets_are_known_by_membership`.
-/

namespace PermissionContexts

namespace Context

/-- What becomes of a raw pair depends on its normal form only. -/
theorem ofRaw_congr {key value key' value' : String} (hkey : normalForm key = normalForm key')
    (hvalue : normalForm value = normalForm value') : ofRaw key value = ofRaw key' value' := by
  unfold ofRaw
  rw [hkey, hvalue]

end Context

namespace ContextSet

variable {s t : ContextSet} {c : Context}

/-! ### Answers -/

/-- A set of raw pairs has a pair if a valid one of them has the same normal form. -/
theorem contains_ofPairs {ps : List (String × String)} {key value : String} :
    (ofPairs ps).contains key value = true ↔ ∃ p ∈ ps,
      (∃ c, Context.ofRaw p.1 p.2 = .ok c) ∧
        normalForm p.1 = normalForm key ∧ normalForm p.2 = normalForm value := by
  rw [(sorted_ofPairs ps).contains_iff, mem_ofPairs]
  constructor
  · rintro ⟨p, hp, hc⟩
    obtain ⟨-, -, hpair⟩ := Context.ofRaw_eq_ok.mp hc
    obtain ⟨hkey, hvalue⟩ := Context.mk.inj hpair
    exact ⟨p, hp, ⟨_, hc⟩, hkey.symm, hvalue.symm⟩
  · rintro ⟨p, hp, ⟨c, hc⟩, hkey, hvalue⟩
    obtain ⟨-, -, rfl⟩ := Context.ofRaw_eq_ok.mp hc
    rw [hkey, hvalue] at hc
    exact ⟨p, hp, hc⟩

/-- A set that is asked for a context in normal form is asked for this context. -/
theorem Sorted.contains_iff_of_normal (hs : s.Sorted) (hc : c.Normal) :
    s.contains c.key c.value = true ↔ c ∈ s.contexts := by
  obtain ⟨hkey, -, hvalue, -⟩ := Context.normal_iff.mp hc
  rw [hs.contains_iff, hkey, hvalue]

theorem Proper.mem_of_contains (hs : s.Proper) (ht : t.Sorted)
    (h : ∀ key value, s.contains key value = t.contains key value) (hc : c ∈ s.contexts) :
    c ∈ t.contexts := by
  have hnormal : c.Normal := hs.normal c hc
  rw [← ht.contains_iff_of_normal hnormal, ← h]
  exact (hs.sorted.contains_iff_of_normal hnormal).mpr hc

/-- Sets that give the same answers are the same. -/
theorem Proper.eq_iff_contains (hs : s.Proper) (ht : t.Proper) :
    s = t ↔ ∀ key value, s.contains key value = t.contains key value := by
  constructor
  · intro h key value
    rw [h]
  · intro h
    apply hs.ext ht
    intro c
    have h' : ∀ key value, t.contains key value = s.contains key value :=
      fun key value => (h key value).symm
    exact ⟨hs.mem_of_contains ht.sorted h, ht.mem_of_contains hs.sorted h'⟩

/-- A map with an empty set of values gives the answers of the map without it. -/
example (key value : String) :
    (ContextSet.mk [("world", [])]).contains key value = empty.contains key value := by
  by_cases h : "world" = normalForm key <;>
    simp [contains, values, valuesAt, empty, Keyed.lookup, h]

/-! ### One more pair -/

/-- To add what is there already changes nothing. -/
theorem Proper.insert_eq_self (hs : s.Proper) (hc : c ∈ s.contexts) : s.insert c = s := by
  apply (hs.sorted.insert c).ext_of_filled hs.sorted (hs.filled.insert c) hs.filled
  intro d
  rw [mem_insert]
  constructor
  · rintro (rfl | hd)
    · exact hc
    · exact hd
  · exact Or.inr

/-- A pair is refused and nothing changes, or its normal form is added and nothing else. -/
theorem Built.tryAdd_cases (hs : s.Built) (key value : String) :
    (∃ e, Context.ofRaw key value = .error e ∧ s.tryAdd key value = (.error e, s)) ∨
    ∃ s', Context.ofRaw key value = .ok ⟨normalForm key, normalForm value⟩ ∧
      s.tryAdd key value = (.ok (), s') ∧ s'.Built ∧
      ∀ c, c ∈ s'.contexts ↔ c = ⟨normalForm key, normalForm value⟩ ∨ c ∈ s.contexts := by
  cases h : Context.ofRaw key value with
  | error e =>
    left
    exact ⟨e, rfl, tryAdd_of_refused h⟩
  | ok c =>
    right
    obtain ⟨-, -, hc⟩ := Context.ofRaw_eq_ok.mp h
    have hadded : s.tryAdd key value = (.ok (), s.insert c) := tryAdd_of_ofRaw h
    have hbuilt : (s.tryAdd key value).2.Built := hs.tryAdd key value
    rw [hadded] at hbuilt
    rw [← hc]
    exact ⟨s.insert c, rfl, hadded, hbuilt, fun _ => mem_insert⟩

/-! ### Sets of the same pairs -/

/-- The set of raw pairs is told by what becomes of them. -/
theorem ofPairs_eq_iff {ps qs : List (String × String)} : ofPairs ps = ofPairs qs ↔
    ∀ c, (∃ p ∈ ps, Context.ofRaw p.1 p.2 = .ok c) ↔ ∃ q ∈ qs, Context.ofRaw q.1 q.2 = .ok c := by
  constructor
  · intro h c
    rw [← mem_ofPairs, ← mem_ofPairs, h]
  · intro h
    apply (proper_ofPairs ps).ext (proper_ofPairs qs)
    intro c
    rw [mem_ofPairs, mem_ofPairs, h]

/-- It depends on neither their order nor their number. -/
theorem ofPairs_congr {ps qs : List (String × String)} (h : ∀ p, p ∈ ps ↔ p ∈ qs) :
    ofPairs ps = ofPairs qs := by
  rw [ofPairs_eq_iff]
  intro c
  simp only [h]

/-- A proper set is the set of its pairs. -/
theorem Proper.ofPairs_pairs (h : s.Proper) : ofPairs s.pairs = s := by
  apply (proper_ofPairs s.pairs).ext h
  intro c
  rw [mem_ofPairs]
  constructor
  · rintro ⟨p, hp, hc⟩
    have hmem : ⟨p.1, p.2⟩ ∈ s.contexts := mem_pairs_iff.mp hp
    -- the pair is one that is added unchanged
    have hnormal : Context.ofRaw p.1 p.2 = .ok ⟨p.1, p.2⟩ := h.normal ⟨p.1, p.2⟩ hmem
    obtain rfl : ⟨p.1, p.2⟩ = c := Except.ok.inj (hnormal.symm.trans hc)
    exact hmem
  · intro hc
    exact ⟨(c.key, c.value), mem_contexts_iff.mp hc, h.normal c hc⟩

/-! ### Rewording -/

/-- One change to a list of raw pairs that leaves alone what becomes of them. -/
inductive Reword : List (String × String) → List (String × String) → Prop where
  /-- The pairs are put in another order. -/
  | reorder {ps qs : List (String × String)} : ps.Perm qs → Reword ps qs
  /-- A pair is written once more. -/
  | again {p : String × String} {ps : List (String × String)} : p ∈ ps → Reword ps (p :: ps)
  /-- A pair is written in another way, with the same normal form. -/
  | recase {p q : String × String} (ps : List (String × String)) :
      normalForm p.1 = normalForm q.1 → normalForm p.2 = normalForm q.2 →
      Reword (p :: ps) (q :: ps)
  /-- A pair is written that is not valid. -/
  | refused {p : String × String} {e : ContextError} (ps : List (String × String)) :
      Context.ofRaw p.1 p.2 = .error e → Reword ps (p :: ps)

/-- One list can be made of the other by rewording it any number of times, forwards and
    backwards. -/
def Reworded : List (String × String) → List (String × String) → Prop :=
  Relation.EqvGen Reword

variable {ps qs : List (String × String)}

theorem Reword.ofPairs_eq (h : Reword ps qs) : ofPairs ps = ofPairs qs := by
  rw [ofPairs_eq_iff]
  intro c
  cases h with
  | reorder hperm => simp only [hperm.mem_iff]
  | again hp =>
    rw [List.exists_mem_cons_iff]
    constructor
    · exact Or.inr
    · rintro (hc | hc)
      · exact ⟨_, hp, hc⟩
      · exact hc
  | recase ps hkey hvalue =>
    rw [List.exists_mem_cons_iff, List.exists_mem_cons_iff, Context.ofRaw_congr hkey hvalue]
  | refused ps he =>
    rw [List.exists_mem_cons_iff, he]
    simp

theorem Reworded.ofPairs_eq (h : Reworded ps qs) : ofPairs ps = ofPairs qs := by
  induction h with
  | rel ps qs h => exact h.ofPairs_eq
  | refl ps => rfl
  | symm ps qs _ ih => exact ih.symm
  | trans ps qs rs _ _ ih ih' => exact ih.trans ih'

/-- A context that is new is added as one more pair. -/
theorem Sorted.pairs_insert_perm (hs : s.Sorted) (hc : c ∉ s.contexts) :
    (s.insert c).pairs.Perm ((c.key, c.value) :: s.pairs) := by
  have hnodup : ((c.key, c.value) :: s.pairs).Nodup :=
    List.nodup_cons.mpr ⟨fun hp => hc (mem_contexts_iff.mpr hp), hs.nodup_pairs⟩
  apply (List.perm_ext_iff_of_nodup (hs.insert c).nodup_pairs hnodup).mpr
  rintro ⟨k, v⟩
  obtain ⟨key, value⟩ := c
  rw [List.mem_cons, mem_pairs_iff, mem_pairs_iff, mem_insert, Context.mk.injEq, Prod.mk.injEq]

/-- A pair that becomes a context can be written in normal form. -/
theorem reworded_of_ofRaw {p : String × String} (h : Context.ofRaw p.1 p.2 = .ok c)
    (ps : List (String × String)) : Reworded (p :: ps) ((c.key, c.value) :: ps) := by
  obtain ⟨hkey, -, hvalue, -⟩ := Context.normal_iff.mp (Context.normal_of_ofRaw h)
  obtain ⟨-, -, hpair⟩ := Context.ofRaw_eq_ok.mp h
  apply Relation.EqvGen.rel
  apply Reword.recase
  · rw [hkey, hpair]
  · rw [hvalue, hpair]

/-- The pair that comes after the pairs of a set can be taken up into the set. -/
theorem reworded_add (hs : s.Proper) (p : String × String) (ps : List (String × String)) :
    Reworded (s.pairs ++ p :: ps) ((s.add p.1 p.2).pairs ++ ps) := by
  have hfront : Reworded (s.pairs ++ p :: ps) (p :: (s.pairs ++ ps)) :=
    .rel _ _ (.reorder List.perm_middle)
  cases h : Context.ofRaw p.1 p.2 with
  | error e =>
    rw [add_of_refused h]
    exact .trans _ _ _ hfront (.symm _ _ (.rel _ _ (.refused _ h)))
  | ok c =>
    rw [add_of_ofRaw h]
    have hstart := Relation.EqvGen.trans _ _ _ hfront (reworded_of_ofRaw h (s.pairs ++ ps))
    by_cases hc : c ∈ s.contexts
    · -- the pair is there already
      have hmem : (c.key, c.value) ∈ s.pairs ++ ps :=
        List.mem_append_left _ (mem_pairs_iff.mpr hc)
      rw [hs.insert_eq_self hc]
      exact .trans _ _ _ hstart (.symm _ _ (.rel _ _ (.again hmem)))
    · have hperm : ((c.key, c.value) :: (s.pairs ++ ps)).Perm ((s.insert c).pairs ++ ps) :=
        ((hs.sorted.pairs_insert_perm hc).append_right ps).symm
      exact .trans _ _ _ hstart (.rel _ _ (.reorder hperm))

/-- So can all of them, pair by pair. -/
theorem reworded_foldl_add (hs : s.Proper) (ps : List (String × String)) :
    Reworded (s.pairs ++ ps) (ps.foldl (fun s p => s.add p.1 p.2) s).pairs := by
  induction ps generalizing s with
  | nil =>
    rw [List.append_nil]
    exact .refl _
  | cons p ps ih =>
    rw [List.foldl_cons]
    exact .trans _ _ _ (reworded_add hs p ps) (ih (hs.add p.1 p.2))

/-- Every list is a rewording of the pairs of its set. -/
theorem reworded_pairs (ps : List (String × String)) : Reworded ps (ofPairs ps).pairs :=
  reworded_foldl_add proper_empty ps

theorem ofPairs_eq_iff_reworded : ofPairs ps = ofPairs qs ↔ Reworded ps qs := by
  constructor
  · intro h
    have hps : Reworded ps (ofPairs qs).pairs := h ▸ reworded_pairs ps
    exact .trans _ _ _ hps (.symm _ _ (reworded_pairs qs))
  · intro h
    exact h.ofPairs_eq

/-! ### Main statement -/

/-- **Sets are known by membership**.

    1. A set of raw pairs has a pair if one of them is valid and has the same normal form.
    2. A set to which a pair is offered refuses it and is given back as it is, or takes its
       normal form and nothing else.
    3. Two sets are the same map of sets if they give the same answers.
    4. Two lists of raw pairs make the same set if one is a rewording of the other, and only
       then. -/
theorem sets_are_known_by_membership :
    (∀ (ps : List (String × String)) (key value : String),
      (ofPairs ps).contains key value = true ↔ ∃ p ∈ ps,
        (∃ c, Context.ofRaw p.1 p.2 = .ok c) ∧
          normalForm p.1 = normalForm key ∧ normalForm p.2 = normalForm value) ∧
    (∀ s : ContextSet, s.Built → ∀ key value,
      (∃ e, Context.ofRaw key value = .error e ∧ s.tryAdd key value = (.error e, s)) ∨
      ∃ s', Context.ofRaw key value = .ok ⟨normalForm key, normalForm value⟩ ∧
        s.tryAdd key value = (.ok (), s') ∧ s'.Built ∧
        ∀ c, c ∈ s'.contexts ↔ c = ⟨normalForm key, normalForm value⟩ ∨ c ∈ s.contexts) ∧
    (∀ s t : ContextSet, s.Built → t.Built →
      (s = t ↔ ∀ key value, s.contains key value = t.contains key value)) ∧
    ∀ ps qs : List (String × String), ofPairs ps = ofPairs qs ↔ Reworded ps qs := by
  refine ⟨?_, ?_, ?_, ?_⟩
  · intro ps key value
    exact contains_ofPairs
  · intro s hs key value
    exact hs.tryAdd_cases key value
  · intro s t hs ht
    exact hs.proper.eq_iff_contains ht.proper
  · intro ps qs
    exact ofPairs_eq_iff_reworded

/-- Capitals, blanks, repetition and a pair that is not valid make no difference, and neither
    does the way that a set is made. -/
theorem sets_are_known_by_membership_arena :
    ofPairs [("World", " ARENA "), ("a=b", "c")] = ofPairs [("world", "arena"), ("world", "arena")] ∧
      (ofPairs [("World", " ARENA "), ("a=b", "c")]).contains "WORLD" "Arena" = true ∧
      ∀ key value, ((empty.add "world" "arena").merge (empty.add "world" "lobby")).contains key value =
        (ofPairs [("world", "lobby"), ("world", "arena")]).contains key value := by
  obtain ⟨hcontains, -, hsets, hlists⟩ := sets_are_known_by_membership
  have hdrop : Reworded [("World", " ARENA "), ("a=b", "c")] [("World", " ARENA ")] :=
    .trans _ [("a=b", "c"), ("World", " ARENA ")] _ (.rel _ _ (.reorder (.swap _ _ _)))
      (.symm _ _ (.rel _ _ (.refused (e := .invalidKey "a=b") _ (by decide +kernel))))
  have hrecase : Reworded [("World", " ARENA ")] [("world", "arena")] :=
    .rel _ _ (.recase _ (by decide +kernel) (by decide +kernel))
  have hagain : Reworded [("world", "arena")] [("world", "arena"), ("world", "arena")] :=
    .rel _ _ (.again List.mem_cons_self)
  have hreworded := Relation.EqvGen.trans _ _ _ hdrop (.trans _ _ _ hrecase hagain)
  refine ⟨(hlists _ _).mpr hreworded, ?_, ?_⟩
  · apply (hcontains _ _ _).mpr
    exact ⟨("World", " ARENA "), List.mem_cons_self, ⟨⟨"world", "arena"⟩, by decide +kernel⟩,
      by decide +kernel, by decide +kernel⟩
  · have hmerged := Built.merge (.add "world" "arena" .empty) (.add "world" "lobby" .empty)
    exact (hsets _ _ hmerged (.ofPairs _)).mp (by decide +kernel)

end ContextSet

end PermissionContexts
