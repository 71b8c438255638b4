import Mathlib.Data.List.Nodup
import Mathlib.Order.Bounds.Basic
import PermissionContexts.Proofs.Cache

/-! # What an entry keeps of many stores

    Computations for one subject may end in any order, and several of them may have begun at
    one generation. The entry takes their sets one by one, and keeps the set that
    **prevails** (`Prevails`): none was stored at a greater generation, and none at the same
    generation after it.

    * Of one store more than before, the new one prevails if it is not overtaken
      (`prevails_new`), and otherwise what did so before (`Prevails.concat`).
    * What an entry kept at first counts as a store before all others, and so the entry
      **reflects** its whole history (`reflects_storeAll`).
    * Next to a store of a greater generation a store leaves no trace, on whichever side it
      stands (`store_store_of_le`, `store_store_of_lt`). So stores at different generations
      may change places (`storeAll_perm`).

    Main statement: `stores_keep_the_last_of_the_greatest`.
-/

namespace PermissionContexts

/-! ### What prevails -/

/-- The generations at which the given stores were made. -/
def generations (stores : List Computed) : Set Nat :=
  {g | ∃ s ∈ stores, s.generation = g}

/-- Of `stores`, in the order in which they were made, `k` **prevails**. -/
structure Prevails (stores : List Computed) (k : Computed) : Prop where
  /-- No store has a greater generation. -/
  greatest : ∀ s ∈ stores, s.generation ≤ k.generation
  /-- It is the last store of its generation. -/
  last : ∃ before after, stores = before ++ k :: after ∧
    ∀ s ∈ after, s.generation ≠ k.generation

variable {stores stores' : List Computed} {k s : Computed}

theorem Prevails.mem (h : Prevails stores k) : k ∈ stores := by
  obtain ⟨before, after, rfl, -⟩ := h.last
  exact List.mem_append_right before (List.mem_cons_self ..)

theorem Prevails.isGreatest (h : Prevails stores k) :
    IsGreatest (generations stores) k.generation := by
  refine ⟨⟨k, h.mem, rfl⟩, ?_⟩
  rintro g ⟨s, hs, rfl⟩
  exact h.greatest s hs

/-- A new store prevails if none before it is of a later generation. -/
theorem prevails_new (h : ∀ t ∈ stores, t.generation ≤ s.generation) :
    Prevails (stores ++ [s]) s := by
  refine ⟨?_, stores, [], rfl, by simp⟩
  rw [List.forall_mem_append, List.forall_mem_singleton]
  exact ⟨h, Nat.le_refl _⟩

/-- What prevails still does so after a store of an earlier generation. -/
theorem Prevails.concat (h : Prevails stores k) (hlt : s.generation < k.generation) :
    Prevails (stores ++ [s]) k := by
  obtain ⟨hgreatest, before, after, rfl, hafter⟩ := h
  refine ⟨?_, before, after ++ [s], by simp, ?_⟩
  · rw [List.forall_mem_append, List.forall_mem_singleton]
    exact ⟨hgreatest, Nat.le_of_lt hlt⟩
  · rw [List.forall_mem_append, List.forall_mem_singleton]
    exact ⟨hafter, Nat.ne_of_lt hlt⟩

theorem Prevails.unique (h : Prevails stores k) (h' : Prevails stores s) : k = s := by
  have hsame : k.generation = s.generation := h.isGreatest.unique h'.isGreatest
  obtain ⟨before, after, hsplit, hafter⟩ := h.last
  obtain ⟨before', after', hsplit', hafter'⟩ := h'.last
  -- of two different ones the former would have the latter after it
  rcases List.append_eq_append_iff.mp (hsplit.symm.trans hsplit') with
    ⟨between, -, heq⟩ | ⟨between, -, heq⟩
  · cases between with
    | nil => exact (List.cons.inj heq).1
    | cons t between =>
      have hs : s ∈ after := by simp [(List.cons.inj heq).2]
      exact absurd hsame.symm (hafter s hs)
  · cases between with
    | nil => exact (List.cons.inj heq).1.symm
    | cons t between =>
      have hk : k ∈ after' := by simp [(List.cons.inj heq).2]
      exact absurd hsame (hafter' k hk)

namespace Entry

variable {e : Entry} {g g' : Nat}

/-! ### One store and two -/

/-- Something as late as what was stored is kept. -/
theorem exists_computed_store (e : Entry) (g : Nat) (contexts : ContextSet) :
    ∃ k, (e.store g contexts).computed = some k ∧ g ≤ k.generation := by
  rcases e.store_cases g contexts with ⟨hs, k, hk, hlt⟩ | ⟨hs, -⟩
  · exact ⟨k, by rw [hs, hk], Nat.le_of_lt hlt⟩
  · exact ⟨⟨g, contexts⟩, by rw [hs], Nat.le_refl g⟩

/-- A store leaves no trace before one that is not of an earlier generation. -/
theorem store_store_of_le (e : Entry) (h : g ≤ g') (contexts contexts' : ContextSet) :
    (e.store g contexts).store g' contexts' = e.store g' contexts' := by
  rcases e.store_cases g contexts with ⟨hs, -⟩ | ⟨hs, hle⟩
  · rw [hs]
  · have hnew : ∀ k, e.computed = some k → k.generation ≤ g' := fun k hk =>
      Nat.le_trans (hle k hk) h
    rw [hs, store_of_forall_le (by simpa using h), store_of_forall_le hnew]

/-- A store leaves no trace after one of a later generation. -/
theorem store_store_of_lt (e : Entry) (h : g < g') (contexts contexts' : ContextSet) :
    (e.store g' contexts').store g contexts = e.store g' contexts' := by
  obtain ⟨k, hk, hle⟩ := e.exists_computed_store g' contexts'
  exact store_of_lt hk (Nat.lt_of_lt_of_le h hle) contexts

theorem store_comm (e : Entry) (h : g ≠ g') (contexts contexts' : ContextSet) :
    (e.store g contexts).store g' contexts' = (e.store g' contexts').store g contexts := by
  rcases Nat.lt_or_gt_of_ne h with hlt | hlt
  · rw [e.store_store_of_le (Nat.le_of_lt hlt), e.store_store_of_lt hlt]
  · rw [e.store_store_of_le (Nat.le_of_lt hlt), e.store_store_of_lt hlt]

/-! ### Many stores -/

/-- The entry after the given stores, one after the other. -/
def storeAll (e : Entry) (stores : List Computed) : Entry :=
  stores.foldl (fun e s => e.store s.generation s.contexts) e

/-- What the entry kept at first, and then the given stores. -/
def history (e : Entry) (stores : List Computed) : List Computed :=
  e.computed.toList ++ stores

/-- The entry **reflects** the given stores. -/
structure Reflects (e : Entry) (stores : List Computed) : Prop where
  /-- What it keeps prevails. -/
  kept : ∀ k, e.computed = some k → Prevails stores k
  /-- It keeps nothing only if nothing was stored. -/
  nothing : e.computed = none → stores = []

theorem reflects_kept (e : Entry) : e.Reflects e.computed.toList := by
  cases hc : e.computed with
  | none => exact ⟨by simp [hc], fun _ => rfl⟩
  | some k =>
    refine ⟨?_, by simp [hc]⟩
    intro k' hk'
    obtain rfl := Option.some.inj (hc.symm.trans hk')
    show Prevails ([] ++ [k]) k
    exact prevails_new (by simp)

theorem Reflects.store (h : e.Reflects stores) (s : Computed) :
    (e.store s.generation s.contexts).Reflects (stores ++ [s]) := by
  rcases e.store_cases s.generation s.contexts with ⟨hs, k, hk, hlt⟩ | ⟨hs, hle⟩
  · -- the store is refused, and what prevailed does so still
    rw [hs]
    refine ⟨?_, ?_⟩
    · intro k' hk'
      obtain rfl := Option.some.inj (hk.symm.trans hk')
      exact (h.kept k hk).concat hlt
    · intro hnone
      rw [hk] at hnone
      contradiction
  · rw [hs]
    refine ⟨?_, nofun⟩
    intro k hk
    obtain rfl := Option.some.inj hk
    apply prevails_new
    intro t ht
    cases hc : e.computed with
    | none =>
      rw [h.nothing hc] at ht
      contradiction
    | some k => exact Nat.le_trans ((h.kept k hc).greatest t ht) (hle k hc)

/-- Along any stores an entry goes on reflecting what was stored. -/
theorem Reflects.storeAll (h : e.Reflects stores) (more : List Computed) :
    (e.storeAll more).Reflects (stores ++ more) := by
  induction more generalizing e stores with
  | nil => rwa [List.append_nil]
  | cons s more ih =>
    rw [← List.singleton_append, ← List.append_assoc]
    exact ih (h.store s)

theorem reflects_storeAll (e : Entry) (stores : List Computed) :
    (e.storeAll stores).Reflects (e.history stores) :=
  e.reflects_kept.storeAll stores

theorem Reflects.exists_kept (h : e.Reflects stores) (hs : s ∈ stores) :
    ∃ k, e.computed = some k := by
  rw [← Option.ne_none_iff_exists']
  intro hnone
  exact List.ne_nil_of_mem hs (h.nothing hnone)

/-- Stores at different generations may be made in any order. -/
theorem storeAll_perm (e : Entry) (hperm : stores.Perm stores')
    (hnodup : (stores.map (·.generation)).Nodup) : e.storeAll stores = e.storeAll stores' := by
  refine hperm.foldl_eq' ?_ e
  intro s hs t ht e
  by_cases hst : s.generation = t.generation
  · rw [List.inj_on_of_nodup_map hnodup hs ht hst]
  · exact e.store_comm hst s.contexts t.contexts

/-! ### Main statement -/

theorem cachedAt_storeAll {contexts : ContextSet} :
    (e.storeAll stores).cachedAt g = some contexts ↔
      Prevails (e.history stores) ⟨g, contexts⟩ := by
  have hreflects := e.reflects_storeAll stores
  rw [cachedAt_eq_some]
  refine ⟨hreflects.kept _, ?_⟩
  intro h
  obtain ⟨k, hk⟩ := hreflects.exists_kept h.mem
  rw [hk, (hreflects.kept k hk).unique h]

/-- **The last store of the greatest generation is kept.** Let any stores be made on an
    entry, in any order of generations and with repeats; what it kept at first counts as a
    store before them.

    1. The entry answers a query at generation `h` with a set exactly if no generation in
       its history is greater than `h` and the set belongs to the last store at `h`.
    2. It has no answer exactly if `h` is not the greatest generation in its history.
    3. Stores at different generations make the same of the entry in whichever order they
       are made. -/
theorem stores_keep_the_last_of_the_greatest (e : Entry) (stores : List Computed) :
    (∀ h contexts, (e.storeAll stores).cachedAt h = some contexts ↔
      Prevails (e.history stores) ⟨h, contexts⟩) ∧
    (∀ h, (e.storeAll stores).cachedAt h = none ↔
      ¬ IsGreatest (generations (e.history stores)) h) ∧
    ∀ stores', stores.Perm stores' → (stores.map (·.generation)).Nodup →
      e.storeAll stores' = e.storeAll stores := by
  refine ⟨fun h contexts => cachedAt_storeAll, ?_, ?_⟩
  · intro h
    constructor
    · intro hnone hgreatest
      have hreflects := e.reflects_storeAll stores
      obtain ⟨s, hs, -⟩ := hgreatest.1
      obtain ⟨k, hk⟩ := hreflects.exists_kept hs
      obtain rfl : k.generation = h := (hreflects.kept k hk).isGreatest.unique hgreatest
      rw [cachedAt_eq_some.mpr hk] at hnone
      contradiction
    · intro hnot
      rw [Option.eq_none_iff_forall_ne_some]
      intro contexts hsome
      exact hnot (cachedAt_storeAll.mp hsome).isGreatest
  · intro stores' hperm hnodup
    exact (e.storeAll_perm hperm hnodup).symm

/-- The set of the computation that began first comes in late, between two of one later
    generation. -/
def lateStores : List Computed :=
  [⟨2, .ofPairs [("world", "lobby")]⟩, ⟨1, .ofPairs [("world", "spawn")]⟩,
    ⟨2, .ofPairs [("world", "arena")]⟩]

/-- The latter of the two is kept, and without it the late set may come first as well. -/
theorem stores_keep_the_last_of_the_greatest_lateStores :
    (new.storeAll lateStores).cachedAt 2 = some (.ofPairs [("world", "arena")]) ∧
      (new.storeAll lateStores).cachedAt 1 = none ∧
      new.storeAll (lateStores.take 2).reverse = new.storeAll (lateStores.take 2) := by
  obtain ⟨hsome, hnone, -⟩ := stores_keep_the_last_of_the_greatest new lateStores
  obtain ⟨-, -, hperm⟩ := stores_keep_the_last_of_the_greatest new (lateStores.take 2)
  refine ⟨(hsome 2 _).mpr ⟨?_, lateStores.take 2, [], rfl, by simp⟩, (hnone 1).mpr ?_, ?_⟩
  · decide
  · intro hgreatest
    have hle : 2 ≤ 1 := hgreatest.2 ⟨_, List.mem_cons_self .., rfl⟩
    exact absurd hle (by decide)
  · exact hperm _ (List.reverse_perm _).symm (by decide)

end Entry

end PermissionContexts
