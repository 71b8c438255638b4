import Mathlib.Order.Bounds.Basic
import PermissionContexts.Context.Encoding
import PermissionContexts.Proofs.ContextOrder
import PermissionContexts.Proofs.NormalForm

/-! # What every context set is like

    Raw pairs are tested when they are added, and whole sets are merged without a test.
    All the same no set ever holds what was not tested: a set is **proper** if it is in
    order, no key is without a value, and each of its contexts is one that `Context.ofRaw`
    gives back unchanged, and every way to make a set (`Built`) keeps this up.

    * **Contexts** are one by one as normal form and the tests make them (`Normal`).
    * **Keys** are put in before their values. That they get one is seen of single pairs
      (`Filled.insert`), and of whole sets if those are proper (`Filled.addAll`).
    * **Order** makes keys, values and pairs strictly increasing.

    Main statement: `built_sets_are_canonical`.
-/

namespace PermissionContexts

/-! ### Contexts in normal form -/

namespace Context

/-- The context is one that stays as it is when it is offered again. -/
def Normal (c : Context) : Prop :=
  ofRaw c.key c.value = .ok c

variable {c : Context}

theorem normal_iff : c.Normal ↔ normalForm c.key = c.key ∧ validKey c.key = true ∧
    normalForm c.value = c.value ∧ validValue c.value = true := by
  obtain ⟨key, value⟩ := c
  unfold Normal
  rw [ofRaw_eq_ok, Context.mk.injEq]
  refine ⟨?_, ?_⟩
  · rintro ⟨hkey, hvalue, hk, hv⟩
    exact ⟨hk.symm, hk.symm ▸ hkey, hv.symm, hv.symm ▸ hvalue⟩
  · rintro ⟨hk, hkey, hv, hvalue⟩
    exact ⟨hk.symm ▸ hkey, hv.symm ▸ hvalue, hk.symm, hv.symm⟩

/-- What a raw pair becomes is in normal form: to make normal form of it again changes
    nothing. -/
theorem normal_of_ofRaw {key value : String} (h : ofRaw key value = .ok c) : c.Normal := by
  obtain ⟨hkey, hvalue, rfl⟩ := ofRaw_eq_ok.mp h
  exact normal_iff.mpr
    ⟨normalForm_normalForm key, hkey, normalForm_normalForm value, hvalue⟩

theorem trim_of_normalForm {s : String} (h : normalForm s = s) :
    Text.trim s.toList = s.toList := by
  have htrim := trim_toList_normalForm s
  rwa [h] at htrim

theorem Normal.length_value (h : c.Normal) : c.value.toList.length ≤ maxValueLength := by
  obtain ⟨-, -, hform, hvalid⟩ := normal_iff.mp h
  simp only [validValue, valueAllowed, trim_of_normalForm hform, Bool.and_eq_true,
    decide_eq_true_eq] at hvalid
  exact hvalid.1.2

/-- Neither half has a character that is not allowed. -/
theorem Normal.allowed (h : c.Normal) {x : Char} (hx : x ∈ c.key.toList ∨ x ∈ c.value.toList) :
    Text.isControl x = false ∧ x ≠ separator := by
  obtain ⟨hkey, hvalidKey, hvalue, hvalidValue⟩ := normal_iff.mp h
  simp only [validKey, keyAllowed, trim_of_normalForm hkey, Bool.and_eq_true,
    List.all_eq_true] at hvalidKey
  simp only [validValue, valueAllowed, trim_of_normalForm hvalue, Bool.and_eq_true,
    List.all_eq_true] at hvalidValue
  have hallowed : isAllowed x = true := hx.elim (hvalidKey.2 x) (hvalidValue.2 x)
  simpa [isAllowed] using hallowed

end Context

namespace ContextSet

/-! ### Sets that can be made -/

/-- The sets that can be made, in any way there is. A set that is being assembled and the
    finished set are the same map, so that nothing is to be said of going from one to the
    other. -/
inductive Built : ContextSet → Prop where
  /-- The set without any context. -/
  | empty : Built .empty
  /-- A raw pair is added, or dropped if it is not valid. -/
  | add {s : ContextSet} (key value : String) : Built s → Built (s.add key value)
  /-- A raw pair is added, or refused, and what is left then. -/
  | tryAdd {s : ContextSet} (key value : String) : Built s → Built (s.tryAdd key value).2
  /-- All contexts of another set are added. -/
  | addAll {s t : ContextSet} : Built s → Built t → Built (s.addAll t)
  /-- All contexts of another set are offered as raw pairs. -/
  | offerEach {s t : ContextSet} : Built s → Built t → Built (s.offerEach t)
  /-- Another set is merged into the first. -/
  | merge {s t : ContextSet} : Built s → Built t → Built (s.merge t)
  /-- The union of two sets is made. -/
  | union {s t : ContextSet} : Built s → Built t → Built (s.union t)
  /-- A set is made of raw pairs. -/
  | ofPairs (ps : List (String × String)) : Built (.ofPairs ps)
  /-- A set is decoded. -/
  | ofJson {s : ContextSet} (j : Json) : ofJson j = .ok s → Built s

/-! ### Proper sets -/

/-- What every operation keeps up. -/
structure Proper (s : ContextSet) : Prop where
  /-- Keys and values stand in strictly increasing order. -/
  sorted : s.Sorted
  /-- No key has an empty set of values. -/
  filled : s.Filled
  /-- Each context is in normal form and valid. -/
  normal : ∀ c ∈ s.contexts, c.Normal

variable {s s' t : ContextSet}

theorem proper_empty : Proper empty :=
  ⟨sorted_empty, filled_empty, fun c h => absurd h (not_mem_empty c)⟩

theorem Proper.add (hs : s.Proper) (key value : String) : (s.add key value).Proper := by
  refine ⟨hs.sorted.add key value, hs.filled.add key value, ?_⟩
  intro c hc
  rcases mem_add.mp hc with h | h
  · exact Context.normal_of_ofRaw h
  · exact hs.normal c h

theorem Proper.addAll (hs : s.Proper) (ht : t.Proper) : (s.addAll t).Proper := by
  refine ⟨hs.sorted.addAll t, hs.filled.addAll ht.filled, ?_⟩
  intro c hc
  exact (mem_addAll.mp hc).elim (hs.normal c) (ht.normal c)

theorem Proper.merge (hs : s.Proper) (ht : t.Proper) : (s.merge t).Proper :=
  hs.addAll ht

theorem Proper.union (hs : s.Proper) (ht : t.Proper) : (s.union t).Proper := by
  refine ⟨hs.sorted.union ht.sorted, hs.filled.union ht.filled, ?_⟩
  intro c hc
  exact (mem_union.mp hc).elim (hs.normal c) (ht.normal c)

/-- However many raw pairs are added, the set stays proper. -/
theorem Proper.foldl_add (hs : s.Proper) (ps : List (String × String)) :
    (ps.foldl (fun s p => s.add p.1 p.2) s).Proper := by
  apply List.foldlRecOn ps _ hs
  intro s hs p _
  exact hs.add p.1 p.2

theorem Proper.offerEach (hs : s.Proper) (t : ContextSet) : (s.offerEach t).Proper :=
  hs.foldl_add t.pairs

theorem proper_ofPairs (ps : List (String × String)) : (ofPairs ps).Proper :=
  proper_empty.foldl_add ps

theorem proper_ofJson {j : Json} (h : ofJson j = .ok s) : s.Proper := by
  unfold ofJson at h
  cases htable : Json.asTable Json.asTexts j with
  | error e => simp [htable, bind, Except.bind] at h
  | ok table =>
    obtain rfl : ContextSet.ofPairs (ungroup table) = s := by
      simpa [htable, bind, Except.bind] using h
    exact proper_ofPairs _

theorem Built.proper (h : s.Built) : s.Proper := by
  induction h with
  | empty => exact proper_empty
  | add key value _ ih => exact ih.add key value
  | tryAdd key value _ ih => exact ih.add key value
  | addAll _ _ ihs iht => exact ihs.addAll iht
  | offerEach _ _ ihs _ => exact ihs.offerEach _
  | merge _ _ ihs iht => exact ihs.merge iht
  | union _ _ ihs iht => exact ihs.union iht
  | ofPairs ps => exact proper_ofPairs ps
  | ofJson j hj => exact proper_ofJson hj

/-- A proper set is known by what it holds. -/
theorem Proper.ext (hs : s.Proper) (ht : t.Proper)
    (h : ∀ c, c ∈ s.contexts ↔ c ∈ t.contexts) : s = t :=
  hs.sorted.ext_of_filled ht.sorted hs.filled ht.filled h

/-! ### Keys, values and pairs in order -/

theorem Sorted.nodup_pairs (h : s.Sorted) : s.pairs.Nodup := by
  refine h.pairs.imp ?_
  rintro p _ hlt rfl
  rcases Prod.lex_iff.mp hlt with hk | ⟨-, hv⟩
  · exact lt_irrefl _ hk
  · exact lt_irrefl _ hv

theorem Sorted.mem_pairs {k v : String} (h : s.Sorted) : (k, v) ∈ s.pairs ↔ v ∈ s.valuesAt k :=
  mem_pairs_iff.trans h.mem_valuesAt.symm

/-- The size is how many pairs there are. -/
theorem size_eq_length_pairs (s : ContextSet) : s.size = s.pairs.length := by
  have hfold : ∀ (gs : Keyed (List String)) (n : Nat),
      gs.foldl (fun n g => n + g.2.length) n = n + (ungroup gs).length := by
    intro gs
    induction gs with
    | nil => exact fun n => rfl
    | cons g gs ih =>
      intro n
      rw [List.foldl_cons, ih]
      simp only [ungroup, List.flatMap_cons, List.length_append, List.length_map]
      omega
  exact (hfold s.groups 0).trans (Nat.zero_add _)

/-- A filled map without values is one without keys. -/
theorem Filled.isEmpty_iff (h : s.Filled) : s.isEmpty = true ↔ s.size = 0 := by
  constructor
  · intro hempty
    rw [eq_empty_of_isEmpty hempty]
    rfl
  · intro hsize
    rw [size_eq_length_pairs, List.length_eq_zero_iff] at hsize
    unfold isEmpty
    rw [List.isEmpty_iff, List.eq_nil_iff_forall_not_mem]
    intro g hg
    -- the group would have a value, and a pair would be listed
    obtain ⟨v, hv⟩ := List.exists_mem_of_ne_nil _ (h g hg)
    have hpair : (g.1, v) ∈ s.pairs := mem_ungroup.mpr ⟨g.2, hg, hv⟩
    rw [hsize] at hpair
    exact List.not_mem_nil hpair

/-- With an empty set of values a map has a size of zero and is not empty. -/
example : (ContextSet.mk [("world", [])]).size = 0 ∧
    (ContextSet.mk [("world", [])]).isEmpty = false := by
  decide

/-- The first of increasing values is the least of them. -/
theorem head_isLeast {vs : List String} (h : vs.Pairwise (· < ·)) {v : String} :
    vs.head? = some v ↔ IsLeast {w | w ∈ vs} v := by
  cases vs with
  | nil => simp [IsLeast]
  | cons w ws =>
    have hleast : IsLeast {x | x ∈ w :: ws} w := by
      refine ⟨List.mem_cons_self .., ?_⟩
      intro x hx
      rcases List.mem_cons.mp hx with rfl | hx
      · exact le_refl x
      · exact le_of_lt ((List.pairwise_cons.mp h).1 x hx)
    rw [List.head?_cons, Option.some.injEq]
    refine ⟨?_, fun hv => hleast.unique hv⟩
    rintro rfl
    exact hleast

/-! ### The invariant -/

/-- What every set is like that can be made. -/
structure Canonical (s : ContextSet) : Prop where
  /-- No key has an empty set of values. -/
  inhabited : ∀ key values, (key, values) ∈ s.groups → values ≠ []
  /-- Every key is its own normal form, and valid. -/
  key : ∀ key values, (key, values) ∈ s.groups →
    normalForm key = key ∧ Context.validKey key = true
  /-- Every value is its own normal form, and valid as it stands. -/
  value : ∀ key values, (key, values) ∈ s.groups → ∀ value ∈ values,
    normalForm value = value ∧ Context.validValue value = true ∧
      value.toList.length ≤ Context.maxValueLength
  /-- Neither half of a pair has a control character or the separator in it. -/
  allowed : ∀ key value, (key, value) ∈ s.pairs → ∀ x, x ∈ key.toList ∨ x ∈ value.toList →
    Text.isControl x = false ∧ x ≠ Context.separator
  /-- A set without keys is one without pairs. -/
  isEmpty : (s.isEmpty = true ↔ s.size = 0) ∧ (s.isEmpty = true ↔ s.pairs = [])
  /-- A key is there if it has a value. -/
  present : ∀ key, s.containsKey key = true ↔ ∃ value, value ∈ s.values key
  /-- The pairs that are listed are those of a key with one of its values. -/
  listed : ∀ key value, (key, value) ∈ s.pairs ↔ value ∈ s.valuesAt key
  /-- They are in strictly increasing order. -/
  increasing : s.pairs.Pairwise (Prod.Lex (· < ·) (· < ·))
  /-- Each is listed once. -/
  once : ∀ key value, value ∈ s.valuesAt key → s.pairs.count (key, value) = 1
  /-- The size is how many pairs there are. -/
  size : s.size = s.pairs.length
  /-- The value that is given for a key is the least one. -/
  least : ∀ key value, s.anyValue key = some value ↔ IsLeast {v | v ∈ s.values key} value

/-- A key that is there has a value, and with each of its values it is in normal form. -/
theorem Proper.exists_of_mem_groups {key : String} {values : List String} (hs : s.Proper)
    (h : (key, values) ∈ s.groups) :
    (∃ value, value ∈ values) ∧ ∀ value ∈ values, Context.Normal ⟨key, value⟩ := by
  refine ⟨List.exists_mem_of_ne_nil _ (hs.filled _ h), ?_⟩
  intro value hvalue
  have hpair : (key, value) ∈ s.pairs := mem_ungroup.mpr ⟨values, h, hvalue⟩
  exact hs.normal _ (mem_pairs_iff.mp hpair)

theorem Proper.canonical (h : s.Proper) : s.Canonical where
  inhabited key values hg := h.filled _ hg
  key key values hg := by
    -- the key is tested with the value that came with it
    obtain ⟨⟨value, hvalue⟩, hnormal⟩ := h.exists_of_mem_groups hg
    obtain ⟨hform, hvalid, -, -⟩ := Context.normal_iff.mp (hnormal value hvalue)
    exact ⟨hform, hvalid⟩
  value key values hg value hvalue := by
    have hnormal : Context.Normal ⟨key, value⟩ := (h.exists_of_mem_groups hg).2 value hvalue
    obtain ⟨-, -, hform, hvalid⟩ := Context.normal_iff.mp hnormal
    exact ⟨hform, hvalid, hnormal.length_value⟩
  allowed key value hp x hx := by
    have hnormal : Context.Normal ⟨key, value⟩ := h.normal _ (mem_pairs_iff.mp hp)
    exact hnormal.allowed hx
  isEmpty := by
    refine ⟨h.filled.isEmpty_iff, ?_⟩
    rw [h.filled.isEmpty_iff, size_eq_length_pairs, List.length_eq_zero_iff]
  present key := by
    unfold ContextSet.containsKey
    rw [Keyed.isSome_lookup_iff]
    exact h.filled.mem_keys_iff
  listed key value := h.sorted.mem_pairs
  increasing := h.sorted.pairs
  once key value hv := List.count_eq_one_of_mem h.sorted.nodup_pairs (h.sorted.mem_pairs.mpr hv)
  size := size_eq_length_pairs s
  least key value := head_isLeast (h.sorted.valuesAt (normalForm key))

/-- **Sets are canonical**: however a set is made, its keys and values are in normal form and
    valid, no key is without a value, and the pairs are listed in order, each once. -/
theorem built_sets_are_canonical (h : s.Built) : s.Canonical :=
  h.proper.canonical

/-- A set that is merged of two, one of which was offered something that is not valid. -/
def mergedSet : ContextSet :=
  (empty.add "World" " ARENA ").merge (.ofPairs [("world", "Lobby"), ("a=b", "c")])

theorem mergedSet_canonical :
    mergedSet.Canonical ∧ mergedSet.pairs = [("world", "arena"), ("world", "lobby")] :=
  ⟨built_sets_are_canonical (.merge (.add _ _ .empty) (.ofPairs _)), by decide +kernel⟩

end ContextSet

end PermissionContexts
