import Mathlib.Data.List.Nodup
import Mathlib.Data.List.Perm.Basic
import Mathlib.Data.String.Basic
import Mathlib.Order.Basic
import PermissionContexts.Keyed

/-! # Looking things up in tables

    What `lookup` finds after each change to a table, and how the pairs of the changed
    table relate to those of the old one. None of this needs the table to be sorted. That
    every table is sorted comes last, and what this says of its pairs.
-/

namespace PermissionContexts

namespace Keyed

variable {β : Type}

/-! ### Lookup after a change -/

theorem lookup_insert (k k' : String) (v : β) (m : Keyed β) :
    (m.insert k v).lookup k' = if k = k' then some v else m.lookup k' := by
  induction m with
  | nil => simp [insert, lookup]
  | cons e rest ih =>
    by_cases hlt : k < e.1
    · rw [insert, if_pos hlt]
      simp [lookup]
    · rw [insert, if_neg hlt]
      by_cases hek : e.1 = k
      · rw [if_pos hek]
        by_cases hkk : k = k'
        · simp [lookup, hkk]
        · have hek' : e.1 ≠ k' := fun h => hkk (hek.symm.trans h)
          simp [lookup, hkk, hek']
      · rw [if_neg hek]
        by_cases hek' : e.1 = k'
        · have hkk : k ≠ k' := fun h => hek (hek'.trans h.symm)
          simp [lookup, hek', hkk]
        · simp [lookup, hek', ih]

theorem lookup_erase (k k' : String) (m : Keyed β) :
    (m.erase k).lookup k' = if k = k' then none else m.lookup k' := by
  induction m with
  | nil => simp [erase, lookup]
  | cons e rest ih =>
    unfold erase at ih ⊢
    by_cases hek : e.1 = k
    · rw [List.filter_cons_of_neg (by simp [hek]), ih]
      by_cases hkk : k = k' <;> simp [lookup, hek, hkk]
    · rw [List.filter_cons_of_pos (by simp [hek])]
      by_cases hek' : e.1 = k'
      · have hkk : k ≠ k' := fun h => hek (hek'.trans h.symm)
        simp [lookup, hek', hkk]
      · simp [lookup, hek', ih]

/-! ### Lookup and membership -/

theorem mem_of_lookup {k : String} {v : β} {m : Keyed β} (h : m.lookup k = some v) :
    (k, v) ∈ m := by
  induction m with
  | nil => simp [lookup] at h
  | cons e rest ih =>
    simp only [lookup] at h
    split_ifs at h with hek
    · obtain rfl := Option.some.inj h
      exact List.mem_cons.mpr (Or.inl (by rw [← hek]))
    · exact List.mem_cons_of_mem _ (ih h)

theorem lookup_eq_none_iff {k : String} {m : Keyed β} : m.lookup k = none ↔ k ∉ m.keys := by
  induction m with
  | nil => simp [lookup, keys]
  | cons e rest ih =>
    unfold keys at ih ⊢
    rw [lookup, List.map_cons, List.mem_cons, not_or, ← ih]
    by_cases hek : e.1 = k
    · simp [hek]
    · simp [hek, Ne.symm hek]

theorem isSome_lookup_iff {k : String} {m : Keyed β} :
    (m.lookup k).isSome = true ↔ k ∈ m.keys := by
  rw [Option.isSome_iff_ne_none, ne_eq, lookup_eq_none_iff, not_not]

theorem mem_keys_insert {k k' : String} {v : β} {m : Keyed β} :
    k ∈ (m.insert k' v).keys ↔ k = k' ∨ k ∈ m.keys := by
  rw [← isSome_lookup_iff, ← isSome_lookup_iff, lookup_insert]
  by_cases hk : k' = k
  · simp [hk]
  · simp [hk, Ne.symm hk]

/-- A key that is not there is put in as one more pair. -/
theorem insert_perm {k : String} {m : Keyed β} (v : β) (h : m.lookup k = none) :
    (m.insert k v).Perm ((k, v) :: m) := by
  induction m with
  | nil => simp [insert]
  | cons e rest ih =>
    simp only [lookup] at h
    split_ifs at h with hek
    simp only [insert, hek, if_false]
    split_ifs with hlt
    · exact List.Perm.refl _
    · exact ((ih h).cons e).trans (List.Perm.swap _ _ _)

/-- Where no key stands twice, every pair is found. -/
theorem lookup_of_mem {m : Keyed β} (hm : m.keys.Nodup) {k : String} {v : β} (h : (k, v) ∈ m) :
    m.lookup k = some v := by
  induction m with
  | nil => exact absurd h List.not_mem_nil
  | cons e rest ih =>
    obtain ⟨hfirst, hrest⟩ := List.nodup_cons.mp hm
    rcases List.mem_cons.mp h with rfl | h
    · simp [lookup]
    · have hne : e.1 ≠ k := fun heq => hfirst (heq ▸ List.mem_map_of_mem h)
      rw [lookup, if_neg hne, ih hrest h]

theorem erase_sublist (k : String) (m : Keyed β) : (m.erase k).Sublist m :=
  List.filter_sublist

theorem nodup_keys_insert {m : Keyed β} (hm : m.keys.Nodup) {k : String} (v : β)
    (h : m.lookup k = none) : (m.insert k v).keys.Nodup := by
  have hperm : (m.insert k v).keys.Perm (k :: m.keys) := (insert_perm v h).map Prod.fst
  rw [hperm.nodup_iff, List.nodup_cons]
  exact ⟨lookup_eq_none_iff.mp h, hm⟩

theorem nodup_keys_erase {m : Keyed β} (hm : m.keys.Nodup) (k : String) : (m.erase k).keys.Nodup :=
  hm.sublist ((erase_sublist k m).map Prod.fst)

/-- Where no value stands twice, a value tells its key. -/
theorem lookup_inj {m : Keyed β} (hm : (m.map Prod.snd).Nodup) {k k' : String} {v : β}
    (h : m.lookup k = some v) (h' : m.lookup k' = some v) : k = k' := by
  have hp := List.inj_on_of_nodup_map hm (mem_of_lookup h) (mem_of_lookup h') rfl
  exact congrArg Prod.fst hp

/-! ### Sorted tables -/

theorem mem_insert {k : String} {v : β} {m : Keyed β} {e : String × β} (h : e ∈ m.insert k v) :
    e = (k, v) ∨ e ∈ m := by
  induction m with
  | nil => exact Or.inl (List.mem_singleton.mp h)
  | cons d rest ih =>
    simp only [insert] at h
    split_ifs at h with hlt heq
    · exact List.mem_cons.mp h
    · exact (List.mem_cons.mp h).imp_right (List.mem_cons_of_mem d)
    · rcases List.mem_cons.mp h with rfl | h
      · exact Or.inr (List.mem_cons_self ..)
      · exact (ih h).imp_right (List.mem_cons_of_mem d)

theorem Sorted.insert {m : Keyed β} (hm : m.Sorted) (k : String) (v : β) :
    (m.insert k v).Sorted := by
  induction m with
  | nil => exact List.pairwise_singleton ..
  | cons d rest ih =>
    obtain ⟨hd, hrest⟩ := List.pairwise_cons.mp hm
    simp only [Keyed.insert]
    split_ifs with hlt heq
    · refine List.pairwise_cons.mpr ⟨?_, hm⟩
      intro e he
      rcases List.mem_cons.mp he with rfl | he
      · exact hlt
      · exact hlt.trans (hd e he)
    · subst heq
      exact List.pairwise_cons.mpr ⟨hd, hrest⟩
    · refine List.pairwise_cons.mpr ⟨?_, ih hrest⟩
      intro e he
      rcases mem_insert he with rfl | he
      · exact lt_of_le_of_ne (not_lt.mp hlt) heq
      · exact hd e he

theorem Sorted.modifyEntry {m : Keyed β} (hm : m.Sorted) (d : β) (k : String) (f : β → β) :
    (m.modifyEntry d k f).Sorted :=
  hm.insert k _

/-- What holds of every value of a table, and of the value that new keys start with, holds after
    a change that keeps it. -/
theorem forall_modifyEntry {P : β → Prop} {m : Keyed β} {d : β} {f : β → β}
    (hm : ∀ e ∈ m, P e.2) (hd : P (f d)) (hf : ∀ v, P v → P (f v)) (k : String) :
    ∀ e ∈ m.modifyEntry d k f, P e.2 := by
  intro e he
  rcases mem_insert he with rfl | he
  · cases h : m.lookup k with
    | none => exact hd
    | some v => exact hf v (hm _ (mem_of_lookup h))
  · exact hm e he

theorem sorted_nil : Sorted ([] : Keyed β) :=
  List.Pairwise.nil

/-- However many pairs are put in, the table stays sorted. -/
theorem Sorted.foldl_insert {m : Keyed β} (hm : m.Sorted) (es : List (String × β)) :
    Sorted (es.foldl (fun m e => Keyed.insert e.1 e.2 m) m) := by
  apply List.foldlRecOn es _ hm
  intro m hm e _
  exact hm.insert e.1 e.2

theorem sorted_ofPairs (es : List (String × β)) : Sorted (ofPairs es) :=
  sorted_nil.foldl_insert es

/-- A table made of pairs holds no others. -/
theorem mem_foldl_insert {es : List (String × β)} {m : Keyed β} {e : String × β}
    (h : e ∈ es.foldl (fun m e => insert e.1 e.2 m) m) : e ∈ es ∨ e ∈ m := by
  induction es generalizing m with
  | nil => exact Or.inr h
  | cons d es ih =>
    rw [List.foldl_cons] at h
    rcases ih h with h | h
    · exact Or.inl (List.mem_cons_of_mem d h)
    · rcases mem_insert h with rfl | h
      · exact Or.inl (List.mem_cons_self ..)
      · exact Or.inr h

theorem mem_of_mem_ofPairs {es : List (String × β)} {e : String × β} (h : e ∈ ofPairs es) :
    e ∈ es :=
  (mem_foldl_insert h).resolve_right List.not_mem_nil

theorem Sorted.nodup_keys {m : Keyed β} (hm : m.Sorted) : m.keys.Nodup := by
  have hkeys : m.keys.Pairwise (· < ·) := List.pairwise_map.mpr hm
  exact hkeys.imp fun h => h.ne

/-- A sorted table is known by what is found in it. -/
theorem Sorted.ext {m n : Keyed β} (hm : m.Sorted) (hn : n.Sorted)
    (h : ∀ k, m.lookup k = n.lookup k) : m = n := by
  have hmem : ∀ {m n : Keyed β}, m.Sorted → n.Sorted → (∀ k, m.lookup k = n.lookup k) →
      ∀ e ∈ m, e ∈ n := by
    intro m n hm hn h e he
    exact mem_of_lookup ((h e.1).symm.trans (lookup_of_mem hm.nodup_keys he))
  have hperm : m.Perm n := by
    rw [List.perm_ext_iff_of_nodup hm.nodup_keys.of_map hn.nodup_keys.of_map]
    exact fun e => ⟨hmem hm hn h e, hmem hn hm (fun k => (h k).symm) e⟩
  refine hperm.eq_of_pairwise ?_ hm hn
  intro a b _ _ hab hba
  exact absurd (hab.trans hba) (lt_irrefl _)

/-- A key after all others is put in at the end. -/
theorem insert_of_forall_lt {m : Keyed β} {k : String} (h : ∀ e ∈ m, e.1 < k) (v : β) :
    m.insert k v = m ++ [(k, v)] := by
  induction m with
  | nil => rfl
  | cons d rest ih =>
    have hd : d.1 < k := h d (List.mem_cons_self ..)
    rw [insert, if_neg hd.not_gt, if_neg hd.ne, ih fun e he => h e (List.mem_cons_of_mem d he),
      List.cons_append]

theorem lookup_of_forall_lt {m : Keyed β} {k : String} (h : ∀ e ∈ m, e.1 < k) :
    m.lookup k = none := by
  rw [lookup_eq_none_iff]
  intro hk
  obtain ⟨e, he, rfl⟩ := List.mem_map.mp hk
  exact lt_irrefl _ (h e he)

/-- To put pairs that are in order after the pairs of a table is to append them. -/
theorem foldl_insert_of_sorted {es m : Keyed β} (h : Sorted (m ++ es)) :
    es.foldl (fun m e => insert e.1 e.2 m) m = m ++ es := by
  induction es generalizing m with
  | nil => simp
  | cons e es ih =>
    have hlt : ∀ d ∈ m, d.1 < e.1 := fun d hd =>
      (List.pairwise_append.mp h).2.2 d hd e (List.mem_cons_self ..)
    have happend : m ++ e :: es = (m ++ [e]) ++ es := by simp
    rw [List.foldl_cons, insert_of_forall_lt hlt, happend]
    exact ih (happend ▸ h)

/-- The table of pairs that are in order is these pairs. -/
theorem Sorted.ofPairs_eq {m : Keyed β} (hm : m.Sorted) : ofPairs m = m :=
  foldl_insert_of_sorted hm

/-- Pairs that are put into a table are found there before those that were in it. -/
theorem lookup_foldl_insert {es m : Keyed β} (hes : es.keys.Nodup) (k : String) :
    lookup k (es.foldl (fun m e => insert e.1 e.2 m) m) = (es.lookup k).or (m.lookup k) := by
  induction es generalizing m with
  | nil => rfl
  | cons e es ih =>
    obtain ⟨he, hes⟩ := List.nodup_cons.mp hes
    rw [List.foldl_cons, ih hes, lookup_insert, lookup]
    by_cases hk : e.1 = k
    · -- the key does not stand further back
      subst hk
      rw [lookup_eq_none_iff.mpr he, if_pos rfl, if_pos rfl]
      rfl
    · rw [if_neg hk, if_neg hk]

/-- The order of pairs with different keys does not matter to what is found. -/
theorem lookup_perm {m n : Keyed β} (h : m.Perm n) (hm : m.keys.Nodup) (k : String) :
    m.lookup k = n.lookup k := by
  have hn : n.keys.Nodup := (h.map Prod.fst).nodup_iff.mp hm
  refine Option.ext ?_
  intro v
  constructor
  · intro hv
    exact lookup_of_mem hn (h.mem_iff.mp (mem_of_lookup hv))
  · intro hv
    exact lookup_of_mem hm (h.mem_iff.mpr (mem_of_lookup hv))

/-- To make a table of pairs with different keys is to put them in order. -/
theorem ofPairs_of_perm {m n : Keyed β} (h : m.Perm n) (hn : n.Sorted) : ofPairs m = n := by
  have hm : m.keys.Nodup := (h.map Prod.fst).nodup_iff.mpr hn.nodup_keys
  refine (sorted_ofPairs m).ext hn ?_
  intro k
  rw [ofPairs, lookup_foldl_insert hm, ← lookup_perm h hm]
  exact Option.or_none

end Keyed

end PermissionContexts
