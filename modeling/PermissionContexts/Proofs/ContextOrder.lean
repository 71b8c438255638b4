import Mathlib.Data.List.Sort
import Mathlib.Data.Set.Function
import Mathlib.Data.String.Basic
import PermissionContexts.Proofs.ContextSet

/-! # Sets that hold the same contexts are the same

    Contexts are ordered by key and then by value (`Before`), and the contexts of a sorted map of
    sets come in that order (`Sorted.contexts`). If no key has an empty set of values, the
    map is known by its contexts (`Sorted.ext_of_filled`), so that laws about sets are laws
    about membership. A map with an empty set is not: it has the contexts of the map without
    it.

    So the map of sets stands for a flat list, and every increasing list of contexts is
    that of one map (`contexts_bijOn`). What each operation does to the list is told by
    its members: `mem_insert`, `mem_add`, `mem_addAll`, `mem_merge` and `mem_union`.
-/

namespace PermissionContexts

/-! ### The order of contexts -/

namespace Context

variable {a b c : Context}

theorem before_irrefl (a : Context) : ¬ a.Before a := by
  rintro (h | ⟨_, h⟩) <;> exact lt_irrefl _ h

theorem Before.trans (h : a.Before b) (h' : b.Before c) : a.Before c := by
  rcases h with h | ⟨hk, hv⟩ <;> rcases h' with h' | ⟨hk', hv'⟩
  · exact Or.inl (h.trans h')
  · exact Or.inl (hk' ▸ h)
  · exact Or.inl (hk ▸ h')
  · exact Or.inr ⟨hk.trans hk', hv.trans hv'⟩

instance : Std.Irrefl Before := ⟨before_irrefl⟩

instance : Std.Antisymm Before :=
  ⟨fun a _ hab hba => absurd (hab.trans hba) (before_irrefl a)⟩

end Context

namespace ContextSet

variable {s t : ContextSet}

/-! ### The contexts of a sorted set -/

/-- The pairs of a sorted set come in order. -/
theorem Sorted.pairs (hs : s.Sorted) : s.pairs.Pairwise (Prod.Lex (· < ·) (· < ·)) := by
  unfold ContextSet.pairs ungroup
  rw [List.pairwise_flatMap]
  constructor
  · -- pairs of one key are in the order of their values
    intro g hg
    rw [List.pairwise_map]
    refine (hs.values g hg).imp ?_
    intro v w hlt
    exact Prod.lex_iff.mpr (Or.inr ⟨rfl, hlt⟩)
  · -- and those of two keys in that of their keys
    refine hs.groups.imp ?_
    intro g g' hlt p hp p' hp'
    obtain ⟨v, -, rfl⟩ := List.mem_map.mp hp
    obtain ⟨v', -, rfl⟩ := List.mem_map.mp hp'
    exact Prod.lex_iff.mpr (Or.inl hlt)

theorem Sorted.contexts (hs : s.Sorted) : s.contexts.Pairwise Context.Before := by
  unfold ContextSet.contexts
  rw [List.pairwise_map]
  exact hs.pairs.imp fun h => Prod.lex_iff.mp h

theorem Sorted.nodup (hs : s.Sorted) : s.contexts.Nodup :=
  hs.contexts.nodup

/-! ### Sets that hold the same -/

theorem Sorted.valuesAt (hs : s.Sorted) (k : String) : (s.valuesAt k).Pairwise (· < ·) := by
  unfold ContextSet.valuesAt
  cases h : s.groups.lookup k with
  | none => exact List.Pairwise.nil
  | some values => exact hs.values _ (Keyed.mem_of_lookup h)

/-- A sorted map is known by its keys and what it holds. -/
theorem Sorted.ext (hs : s.Sorted) (ht : t.Sorted) (hkeys : ∀ k, k ∈ s.keys ↔ k ∈ t.keys)
    (h : ∀ c, c ∈ s.contexts ↔ c ∈ t.contexts) : s = t := by
  have hvalues : ∀ k, s.valuesAt k = t.valuesAt k := by
    intro k
    -- an increasing list is determined by its members
    refine List.Pairwise.eq_of_mem_iff (hs.valuesAt k) (ht.valuesAt k) ?_
    intro v
    rw [hs.mem_valuesAt, ht.mem_valuesAt, h]
  have hgroups : s.groups = t.groups := by
    apply hs.groups.ext ht.groups
    intro k
    by_cases hk : k ∈ s.keys
    · rw [lookup_of_mem_keys hk, lookup_of_mem_keys ((hkeys k).mp hk), hvalues]
    · rw [Keyed.lookup_eq_none_iff.mpr hk, Keyed.lookup_eq_none_iff.mpr fun ht => hk ((hkeys k).mpr ht)]
  exact congrArg ContextSet.mk hgroups

/-- If no key is without a value, it is known by what it holds. -/
theorem Sorted.ext_of_filled (hs : s.Sorted) (ht : t.Sorted) (hs' : s.Filled) (ht' : t.Filled)
    (h : ∀ c, c ∈ s.contexts ↔ c ∈ t.contexts) : s = t := by
  refine hs.ext ht ?_ h
  intro k
  simp only [hs'.mem_keys_iff, ht'.mem_keys_iff, hs.mem_valuesAt, ht.mem_valuesAt, h]

/-- With an empty set of values a map holds what it holds without it. -/
example : (ContextSet.mk [("world", [])]).contexts = empty.contexts ∧
    ContextSet.mk [("world", [])] ≠ empty := by
  decide

/-- The set of a list of contexts. -/
def ofContexts (cs : List Context) : ContextSet :=
  cs.foldl (fun s c => s.insert c) empty

theorem mem_ofContexts {cs : List Context} {c : Context} :
    c ∈ (ofContexts cs).contexts ↔ c ∈ cs := by
  have hstep : ∀ (s : ContextSet) (d : Context), c ∈ (s.insert d).contexts ↔
      c ∈ s.contexts ∨ c = d := by
    intro s d
    rw [mem_insert, or_comm]
  unfold ofContexts
  rw [mem_foldl hstep]
  simp

theorem ofContexts_wellFormed (cs : List Context) :
    (ofContexts cs).Sorted ∧ (ofContexts cs).Filled := by
  unfold ofContexts
  apply List.foldlRecOn (motive := fun s : ContextSet => s.Sorted ∧ s.Filled) cs _
    ⟨sorted_empty, filled_empty⟩
  intro s hs c _
  exact ⟨hs.1.insert c, hs.2.insert c⟩

/-- **Maps of sets are flat lists**: the sorted maps without empty sets are the increasing lists
    of contexts, each map that of its own contexts. -/
theorem contexts_bijOn :
    Set.BijOn contexts {s | s.Sorted ∧ s.Filled} {cs | cs.Pairwise Context.Before} := by
  refine ⟨?_, ?_, ?_⟩
  · rintro s ⟨hs, -⟩
    exact hs.contexts
  · rintro s ⟨hs, hs'⟩ t ⟨ht, ht'⟩ hcontexts
    apply hs.ext_of_filled ht hs' ht'
    intro c
    rw [hcontexts]
  · intro cs hcs
    obtain ⟨hsorted, hfilled⟩ := ofContexts_wellFormed cs
    refine ⟨ofContexts cs, ⟨hsorted, hfilled⟩, ?_⟩
    exact List.Pairwise.eq_of_mem_iff hsorted.contexts hcs fun c => mem_ofContexts

end ContextSet

end PermissionContexts
