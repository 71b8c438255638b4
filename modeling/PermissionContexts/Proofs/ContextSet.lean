import PermissionContexts.Context.Set
import PermissionContexts.Proofs.Keyed
import PermissionContexts.Proofs.Text

/-! # Which raw pairs a context set holds

    A raw pair is tested in normal form. For a key that makes no difference
    (`validKey_normalForm`), and for a value only to its length
    (`validValue_normalForm`). A set made of raw pairs holds what is left of them
    (`mem_ofPairs`), and can be asked in raw form too (`contains_iff`).

    A set is a map of sets, and two things are to be said of the map:

    * **Sorted**: keys and values are in increasing order. Every map of sets is, whatever
      it holds, and what is looked up in it is what it lists (`mem_valuesAt`).
    * **Filled**: no key has the empty set of values. A key is put in with the empty set
      before it gets a value, so every operation has to be seen to give it one. To take up
      whole groups does not, if one of the groups is empty.
-/

namespace PermissionContexts

/-! ### Validity and normal form -/

namespace Context

theorem isAllowed_of_isLetter {c : Char} (h : Text.isLetter c = true) : isAllowed c = true := by
  have hc : c ≠ '=' := by
    rintro rfl
    exact absurd h (by decide)
  have hcontrol : Text.isControl c = false := by
    rw [Bool.eq_false_iff]
    intro hcontrol
    rw [Text.isLetter_of_isControl hcontrol] at h
    contradiction
  simp [isAllowed, separator, hc, hcontrol]

theorem keyAllowed_normal (s : List Char) : keyAllowed (Text.normal s) = keyAllowed s := by
  unfold keyAllowed Text.normal
  simp only [Text.trim_lower (Text.trim_trim s), Text.isEmpty_lower,
    Text.all_lower _ fun _ => isAllowed_of_isLetter]

/-- A value is a key of bounded length. -/
theorem valueAllowed_eq (s : List Char) :
    valueAllowed s = (keyAllowed s && decide ((Text.trim s).length ≤ maxValueLength)) := by
  unfold valueAllowed keyAllowed
  simp only [Bool.and_assoc, Bool.and_comm (decide _)]

theorem valueAllowed_normal (s : List Char) : valueAllowed (Text.normal s) =
    (keyAllowed s && decide ((Text.trim s).length + (Text.trim s).count Text.dottedI ≤
      maxValueLength)) := by
  rw [valueAllowed_eq, keyAllowed_normal]
  unfold Text.normal
  rw [Text.trim_lower (Text.trim_trim s), Text.length_lower]

/-- Whether a key is valid can be told from the raw key. -/
theorem validKey_normalForm (key : String) : validKey (normalForm key) = validKey key := by
  unfold validKey normalForm
  rw [String.toList_ofList]
  exact keyAllowed_normal key.toList

/-- Of a valid raw value the normal form is valid unless it is too long, and it is longer than
    the raw value by the dotted capitals in it. -/
theorem validValue_normalForm {value : String} (h : validValue value = true) :
    validValue (normalForm value) = true ↔
      (Text.trim value.toList).length + (Text.trim value.toList).count Text.dottedI ≤
        maxValueLength := by
  unfold validValue at h
  rw [valueAllowed_eq, Bool.and_eq_true] at h
  unfold validValue normalForm
  rw [String.toList_ofList, valueAllowed_normal, h.1]
  simp

/-- A value is not valid in raw form only to be so in normal form, which is never shorter. -/
theorem validValue_of_normalForm {value : String} (h : validValue (normalForm value) = true) :
    validValue value = true := by
  unfold validValue normalForm at h
  rw [String.toList_ofList, valueAllowed_normal, Bool.and_eq_true, decide_eq_true_eq] at h
  obtain ⟨hallowed, hlength⟩ := h
  unfold validValue
  rw [valueAllowed_eq, Bool.and_eq_true, decide_eq_true_eq]
  exact ⟨hallowed, by omega⟩

theorem ofRaw_eq_ok {key value : String} {c : Context} :
    ofRaw key value = .ok c ↔ validKey (normalForm key) = true ∧
      validValue (normalForm value) = true ∧ c = ⟨normalForm key, normalForm value⟩ := by
  unfold ofRaw
  by_cases hkey : validKey (normalForm key) = true
  · by_cases hvalue : validValue (normalForm value) = true
    · simp [hkey, hvalue, eq_comm]
    · simp [hkey, hvalue]
  · simp [hkey]

/-- What becomes a context is valid in raw form. -/
theorem valid_of_ofRaw {key value : String} {c : Context} (h : ofRaw key value = .ok c) :
    validKey key = true ∧ validValue value = true := by
  obtain ⟨hkey, hvalue, -⟩ := ofRaw_eq_ok.mp h
  rw [validKey_normalForm] at hkey
  exact ⟨hkey, validValue_of_normalForm hvalue⟩

/-- With a key that is not valid nothing becomes a context. -/
theorem ofRaw_of_invalid_key {key : String} (h : validKey key = false) (value : String) :
    ofRaw key value = .error (.invalidKey (normalForm key)) := by
  unfold ofRaw
  simp only [validKey_normalForm, h]
  rfl

/-- Nor does anything with a value that is not valid. The key is tested first. -/
theorem ofRaw_of_invalid_value {value : String} (h : validValue value = false) (key : String) :
    ofRaw key value = .error (if validKey key then .invalidValue (normalForm key) (normalForm value)
      else .invalidKey (normalForm key)) := by
  by_cases hkey : validKey key = true
  · have hnormal : ¬ validValue (normalForm value) = true := by
      intro hvalue
      rw [validValue_of_normalForm hvalue] at h
      exact Bool.noConfusion h
    unfold ofRaw
    simp only [validKey_normalForm, hkey, if_true, if_neg hnormal]
  · rw [ofRaw_of_invalid_key (Bool.eq_false_iff.mpr hkey), if_neg hkey]

/-- A raw pair becomes no context with another key than its own. -/
theorem ofRaw_ne_of_key {key value k v : String} (hkey : normalForm key ≠ k) :
    ofRaw key value ≠ .ok ⟨k, v⟩ := by
  intro h
  have hsame : k = normalForm key := congrArg Context.key (ofRaw_eq_ok.mp h).2.2
  exact hkey hsame.symm

end Context

/-! ### Sets of values -/

namespace ContextSet

theorem mem_insertValue {v w : String} {vs : List String} :
    w ∈ insertValue v vs ↔ w = v ∨ w ∈ vs := by
  induction vs with
  | nil => simp [insertValue]
  | cons x rest ih =>
    unfold insertValue
    split_ifs with hlt heq
    · simp
    · subst heq
      simp
    · simp only [List.mem_cons, ih]
      exact or_left_comm

theorem mem_extend {w : String} {vs ws : List String} : w ∈ extend vs ws ↔ w ∈ vs ∨ w ∈ ws := by
  unfold extend
  induction vs generalizing ws with
  | nil => simp
  | cons v vs ih =>
    rw [List.foldl_cons, ih, mem_insertValue, List.mem_cons]
    tauto

theorem insertValue_ne_nil (v : String) (vs : List String) : insertValue v vs ≠ [] :=
  List.ne_nil_of_mem (mem_insertValue.mpr (Or.inl rfl))

theorem extend_ne_nil {vs : List String} (h : vs ≠ []) (ws : List String) :
    extend vs ws ≠ [] := by
  obtain ⟨v, hv⟩ := List.exists_mem_of_ne_nil vs h
  exact List.ne_nil_of_mem (mem_extend.mpr (Or.inl hv))

theorem increasing_insertValue {vs : List String} (h : vs.Pairwise (· < ·)) (v : String) :
    (insertValue v vs).Pairwise (· < ·) := by
  induction vs with
  | nil => simp [insertValue]
  | cons w rest ih =>
    obtain ⟨hw, hrest⟩ := List.pairwise_cons.mp h
    unfold insertValue
    split_ifs with hlt heq
    · refine List.pairwise_cons.mpr ⟨?_, h⟩
      intro x hx
      rcases List.mem_cons.mp hx with rfl | hx
      · exact hlt
      · exact hlt.trans (hw x hx)
    · exact h
    · refine List.pairwise_cons.mpr ⟨?_, ih hrest⟩
      intro x hx
      rcases mem_insertValue.mp hx with rfl | hx
      · exact lt_of_le_of_ne (not_lt.mp hlt) heq
      · exact hw x hx

theorem increasing_extend {ws : List String} (h : ws.Pairwise (· < ·)) (vs : List String) :
    (extend vs ws).Pairwise (· < ·) := by
  unfold extend
  apply List.foldlRecOn vs _ h
  intro ws hws v _
  exact increasing_insertValue hws v

/-! ### Membership -/

variable {s t : ContextSet} {c d : Context} {p : String × String}

theorem mem_ungroup {t : Keyed (List String)} :
    p ∈ ungroup t ↔ ∃ values, (p.1, values) ∈ t ∧ p.2 ∈ values := by
  unfold ungroup
  rw [List.mem_flatMap]
  constructor
  · rintro ⟨g, hg, hp⟩
    obtain ⟨v, hv, rfl⟩ := List.mem_map.mp hp
    exact ⟨g.2, hg, hv⟩
  · rintro ⟨values, hg, hv⟩
    exact ⟨_, hg, List.mem_map_of_mem hv⟩

theorem mem_ungroup_cons {g : String × List String} {t : Keyed (List String)} :
    p ∈ ungroup (g :: t) ↔ (p.1 = g.1 ∧ p.2 ∈ g.2) ∨ p ∈ ungroup t := by
  obtain ⟨k, values⟩ := g
  simp only [mem_ungroup, List.mem_cons, Prod.mk.injEq, or_and_right, exists_or]
  rw [or_congr_left]
  constructor
  · rintro ⟨_, ⟨hk, rfl⟩, hv⟩
    exact ⟨hk, hv⟩
  · rintro ⟨hk, hv⟩
    exact ⟨values, ⟨hk, rfl⟩, hv⟩

/-- A key gets other values, and of those that it had none is left out. -/
theorem mem_ungroup_insert {k : String} {values : List String} {t : Keyed (List String)}
    (h : ∀ v ∈ (t.lookup k).getD [], v ∈ values) :
    p ∈ ungroup (t.insert k values) ↔ (p.1 = k ∧ p.2 ∈ values) ∨ p ∈ ungroup t := by
  induction t with
  | nil => exact mem_ungroup_cons
  | cons g rest ih =>
    unfold Keyed.insert
    split_ifs with hlt heq
    · exact mem_ungroup_cons
    · have hold : p.2 ∈ g.2 → p.2 ∈ values := fun hv => h _ (by simpa [Keyed.lookup, heq] using hv)
      rw [mem_ungroup_cons, mem_ungroup_cons, heq]
      tauto
    · rw [mem_ungroup_cons, mem_ungroup_cons, ih (by simpa [Keyed.lookup, heq] using h)]
      exact or_left_comm

/-- What an entry gains by a change that only puts values to it. -/
theorem mem_ungroup_modifyEntry {f : List String → List String} {gained : String → Prop}
    (hf : ∀ values v, v ∈ f values ↔ gained v ∨ v ∈ values) (k : String)
    (t : Keyed (List String)) :
    p ∈ ungroup (t.modifyEntry [] k f) ↔ (p.1 = k ∧ gained p.2) ∨ p ∈ ungroup t := by
  unfold Keyed.modifyEntry
  rw [mem_ungroup_insert fun v hv => (hf _ v).mpr (Or.inr hv), hf]
  -- what the entry had is there already
  have hold : p.1 = k → p.2 ∈ (t.lookup k).getD [] → p ∈ ungroup t := by
    rintro rfl hv
    cases h : t.lookup p.1 with
    | none => simp [h] at hv
    | some values =>
      rw [h] at hv
      exact mem_ungroup.mpr ⟨values, Keyed.mem_of_lookup h, hv⟩
  tauto

theorem mem_pairs_iff : p ∈ s.pairs ↔ ⟨p.1, p.2⟩ ∈ s.contexts := by
  unfold contexts
  rw [List.mem_map]
  constructor
  · intro hp
    exact ⟨p, hp, rfl⟩
  · rintro ⟨q, hq, heq⟩
    obtain ⟨hk, hv⟩ := Context.mk.inj heq
    exact (Prod.ext hk hv : q = p) ▸ hq

theorem mem_contexts_iff : c ∈ s.contexts ↔ (c.key, c.value) ∈ s.pairs :=
  (mem_pairs_iff (p := (c.key, c.value))).symm

@[simp] theorem not_mem_empty (c : Context) : c ∉ empty.contexts :=
  List.not_mem_nil

theorem mem_insert : d ∈ (s.insert c).contexts ↔ d = c ∨ d ∈ s.contexts := by
  obtain ⟨k, v⟩ := d
  obtain ⟨key, value⟩ := c
  rw [mem_contexts_iff, mem_contexts_iff, Context.mk.injEq]
  exact mem_ungroup_modifyEntry (fun _ _ => mem_insertValue) key s.groups

theorem tryAdd_of_ofRaw {key value : String} (h : Context.ofRaw key value = .ok c) :
    s.tryAdd key value = (.ok (), s.insert c) := by
  unfold tryAdd
  rw [h]

theorem tryAdd_of_refused {key value : String} {e : ContextError}
    (h : Context.ofRaw key value = .error e) : s.tryAdd key value = (.error e, s) := by
  unfold tryAdd
  rw [h]

theorem add_of_ofRaw {key value : String} (h : Context.ofRaw key value = .ok c) :
    s.add key value = s.insert c :=
  congrArg Prod.snd (tryAdd_of_ofRaw h)

theorem add_of_refused {key value : String} {e : ContextError}
    (h : Context.ofRaw key value = .error e) : s.add key value = s :=
  congrArg Prod.snd (tryAdd_of_refused h)

theorem mem_add {key value : String} : c ∈ (s.add key value).contexts ↔
    Context.ofRaw key value = .ok c ∨ c ∈ s.contexts := by
  cases h : Context.ofRaw key value with
  | error e => simp [add_of_refused h]
  | ok d => rw [add_of_ofRaw h, mem_insert, Except.ok.injEq, eq_comm]

/-- What can be said of a set after a fold, told by what can be said after one step. -/
theorem foldl_iff {α : Type} {step : ContextSet → α → ContextSet} {Q : ContextSet → Prop}
    {P : α → Prop} (hstep : ∀ s a, Q (step s a) ↔ Q s ∨ P a) (as : List α) (s : ContextSet) :
    Q (as.foldl step s) ↔ Q s ∨ ∃ a ∈ as, P a := by
  induction as generalizing s with
  | nil => simp
  | cons a as ih => rw [List.foldl_cons, ih, hstep, List.exists_mem_cons_iff, or_assoc]

/-- What a fold has put into a set, told by what one step puts into it. -/
theorem mem_foldl {α : Type} {step : ContextSet → α → ContextSet} {P : α → Prop} {c : Context}
    (hstep : ∀ s a, c ∈ (step s a).contexts ↔ c ∈ s.contexts ∨ P a) (as : List α)
    (s : ContextSet) : c ∈ (as.foldl step s).contexts ↔ c ∈ s.contexts ∨ ∃ a ∈ as, P a :=
  foldl_iff (Q := fun s => c ∈ s.contexts) hstep as s

theorem mem_foldl_add {ps : List (String × String)} {s : ContextSet} {c : Context} :
    c ∈ (ps.foldl (fun s p => s.add p.1 p.2) s).contexts ↔
      (∃ p ∈ ps, Context.ofRaw p.1 p.2 = .ok c) ∨ c ∈ s.contexts := by
  have hstep : ∀ (s : ContextSet) (p : String × String), c ∈ (s.add p.1 p.2).contexts ↔
      c ∈ s.contexts ∨ Context.ofRaw p.1 p.2 = .ok c := by
    intro s p
    rw [mem_add, or_comm]
  rw [mem_foldl hstep, or_comm]

/-- A set made of raw pairs holds what becomes of the valid ones. -/
theorem mem_ofPairs {ps : List (String × String)} {c : Context} :
    c ∈ (ofPairs ps).contexts ↔ ∃ p ∈ ps, Context.ofRaw p.1 p.2 = .ok c := by
  unfold ofPairs
  rw [mem_foldl_add]
  simp

theorem mem_pairs_takeGroups {gs : Keyed (List String)} :
    p ∈ (s.takeGroups gs).pairs ↔ p ∈ s.pairs ∨ p ∈ ungroup gs := by
  obtain ⟨groups⟩ := s
  unfold takeGroups pairs
  induction gs generalizing groups with
  | nil => simp [ungroup]
  | cons g gs ih =>
    rw [List.foldl_cons, ih, mem_ungroup_modifyEntry (fun _ _ => mem_extend), mem_ungroup_cons]
    tauto

theorem mem_pairs_addAll : p ∈ (s.addAll t).pairs ↔ p ∈ s.pairs ∨ p ∈ t.pairs :=
  mem_pairs_takeGroups

theorem mem_addAll : c ∈ (s.addAll t).contexts ↔ c ∈ s.contexts ∨ c ∈ t.contexts := by
  simp only [mem_contexts_iff]
  exact mem_pairs_addAll

theorem mem_merge : c ∈ (s.merge t).contexts ↔ c ∈ s.contexts ∨ c ∈ t.contexts :=
  mem_addAll

theorem eq_empty_of_isEmpty (h : s.isEmpty = true) : s = empty :=
  congrArg ContextSet.mk (List.isEmpty_iff.mp h)

theorem mem_union : c ∈ (s.union t).contexts ↔ c ∈ s.contexts ∨ c ∈ t.contexts := by
  unfold union
  split_ifs with ht hs
  · simp [eq_empty_of_isEmpty ht]
  · simp [eq_empty_of_isEmpty hs]
  · exact mem_addAll

/-! ### Keys -/

theorem lookup_of_mem_keys {k : String} (h : k ∈ s.keys) :
    s.groups.lookup k = some (s.valuesAt k) := by
  obtain ⟨values, hvalues⟩ := Option.isSome_iff_exists.mp (Keyed.isSome_lookup_iff.mpr h)
  simp [valuesAt, hvalues]

theorem mem_keys_takeGroups {gs : Keyed (List String)} {k : String} :
    k ∈ (s.takeGroups gs).keys ↔ k ∈ s.keys ∨ k ∈ gs.keys := by
  obtain ⟨groups⟩ := s
  unfold takeGroups keys
  induction gs generalizing groups with
  | nil => simp [Keyed.keys]
  | cons g gs ih =>
    rw [List.foldl_cons, ih]
    unfold Keyed.modifyEntry
    rw [Keyed.mem_keys_insert]
    simp only [Keyed.keys, List.map_cons, List.mem_cons]
    tauto

theorem mem_keys_merge {k : String} : k ∈ (s.merge t).keys ↔ k ∈ s.keys ∨ k ∈ t.keys :=
  mem_keys_takeGroups

/-! ### Sorted maps of sets -/

/-- Keys and values are in increasing order. -/
structure Sorted (s : ContextSet) : Prop where
  /-- The keys are. -/
  groups : Keyed.Sorted s.groups
  /-- So are the values of each key. -/
  values : ∀ g ∈ s.groups, g.2.Pairwise (· < ·)

theorem sorted_empty : Sorted empty :=
  ⟨Keyed.sorted_nil, fun _ hg => absurd hg List.not_mem_nil⟩

/-- An entry may be changed in any way that keeps its values in order. -/
theorem Sorted.modifyEntry {f : List String → List String} (hs : s.Sorted)
    (hf : ∀ values, values.Pairwise (· < ·) → (f values).Pairwise (· < ·)) (k : String) :
    Sorted ⟨s.groups.modifyEntry [] k f⟩ :=
  ⟨hs.groups.modifyEntry [] k f,
    Keyed.forall_modifyEntry hs.values (hf [] List.Pairwise.nil) hf k⟩

theorem Sorted.insert (hs : s.Sorted) (c : Context) : (s.insert c).Sorted :=
  hs.modifyEntry (fun _ h => increasing_insertValue h c.value) c.key

theorem Sorted.add (hs : s.Sorted) (key value : String) : (s.add key value).Sorted := by
  cases h : Context.ofRaw key value with
  | error e => exact (add_of_refused h).symm ▸ hs
  | ok c => exact (add_of_ofRaw h).symm ▸ hs.insert c

theorem Sorted.foldl_add (hs : s.Sorted) (ps : List (String × String)) :
    (ps.foldl (fun s p => s.add p.1 p.2) s).Sorted := by
  apply List.foldlRecOn ps _ hs
  intro s hs p _
  exact hs.add p.1 p.2

theorem sorted_ofPairs (ps : List (String × String)) : (ofPairs ps).Sorted :=
  sorted_empty.foldl_add ps

theorem Sorted.takeGroups (hs : s.Sorted) (gs : Keyed (List String)) :
    (s.takeGroups gs).Sorted := by
  unfold ContextSet.takeGroups
  apply List.foldlRecOn (motive := fun groups => Sorted ⟨groups⟩) gs _ hs
  intro groups hgroups g _
  exact hgroups.modifyEntry (fun _ h => increasing_extend h g.2) g.1

theorem Sorted.addAll (hs : s.Sorted) (t : ContextSet) : (s.addAll t).Sorted :=
  hs.takeGroups t.groups

theorem Sorted.merge (hs : s.Sorted) (t : ContextSet) : (s.merge t).Sorted :=
  hs.takeGroups t.groups

theorem Sorted.union (hs : s.Sorted) (ht : t.Sorted) : (s.union t).Sorted := by
  unfold ContextSet.union
  split_ifs
  · exact hs
  · exact ht
  · exact hs.addAll t

/-- What is looked up in a sorted map is what it lists. -/
theorem Sorted.mem_groups {values : List String} {k : String} (hs : s.Sorted) :
    (k, values) ∈ s.groups ↔ s.groups.lookup k = some values :=
  ⟨Keyed.lookup_of_mem hs.groups.nodup_keys, Keyed.mem_of_lookup⟩

theorem Sorted.mem_valuesAt {k v : String} (hs : s.Sorted) :
    v ∈ s.valuesAt k ↔ ⟨k, v⟩ ∈ s.contexts := by
  rw [mem_contexts_iff]
  unfold valuesAt pairs
  simp only [mem_ungroup, hs.mem_groups]
  cases s.groups.lookup k with
  | none => simp
  | some values => simp

/-- A raw pair is in a set if its normal form is. -/
theorem Sorted.contains_iff {key value : String} (hs : s.Sorted) :
    s.contains key value = true ↔ ⟨normalForm key, normalForm value⟩ ∈ s.contexts := by
  unfold contains ContextSet.values
  rw [List.contains_iff_mem]
  exact hs.mem_valuesAt

/-! ### Maps without empty sets -/

/-- No key has the empty set of values. -/
def Filled (s : ContextSet) : Prop :=
  ∀ g ∈ s.groups, g.2 ≠ []

theorem filled_empty : Filled empty :=
  fun _ hg => absurd hg List.not_mem_nil

/-- An entry may be changed in any way that leaves it with a value. -/
theorem Filled.modifyEntry {f : List String → List String} (hs : s.Filled)
    (hf : ∀ values, f values ≠ []) (k : String) : Filled ⟨s.groups.modifyEntry [] k f⟩ :=
  Keyed.forall_modifyEntry (P := fun values => values ≠ []) hs (hf []) (fun values _ => hf values) k

/-- A key that is put in gets a value at once. -/
theorem Filled.insert (hs : s.Filled) (c : Context) : (s.insert c).Filled :=
  hs.modifyEntry (insertValue_ne_nil c.value) c.key

theorem Filled.add (hs : s.Filled) (key value : String) : (s.add key value).Filled := by
  cases h : Context.ofRaw key value with
  | error e => exact (add_of_refused h).symm ▸ hs
  | ok c => exact (add_of_ofRaw h).symm ▸ hs.insert c

theorem Filled.foldl_add (hs : s.Filled) (ps : List (String × String)) :
    (ps.foldl (fun s p => s.add p.1 p.2) s).Filled := by
  apply List.foldlRecOn ps _ hs
  intro s hs p _
  exact hs.add p.1 p.2

/-- To take up groups leaves no key without a value if none of the groups is. -/
theorem Filled.takeGroups {gs : Keyed (List String)} (hs : s.Filled) (hgs : ∀ g ∈ gs, g.2 ≠ []) :
    (s.takeGroups gs).Filled := by
  unfold ContextSet.takeGroups
  apply List.foldlRecOn (motive := fun groups => Filled ⟨groups⟩) gs _ hs
  intro groups hgroups g hg
  exact hgroups.modifyEntry (extend_ne_nil (hgs g hg)) g.1

/-- A key with the empty set of values is taken up as it is. -/
example : (empty.addAll ⟨[("world", [])]⟩).groups = [("world", [])] := by decide

theorem Filled.addAll (hs : s.Filled) (ht : t.Filled) : (s.addAll t).Filled :=
  hs.takeGroups ht

theorem Filled.merge (hs : s.Filled) (ht : t.Filled) : (s.merge t).Filled :=
  hs.takeGroups ht

theorem Filled.union (hs : s.Filled) (ht : t.Filled) : (s.union t).Filled := by
  unfold ContextSet.union
  split_ifs
  · exact hs
  · exact ht
  · exact hs.addAll ht

/-- In a filled map a key is there if it has a value. -/
theorem Filled.mem_keys_iff {k : String} (hs : s.Filled) :
    k ∈ s.keys ↔ ∃ v, v ∈ s.valuesAt k := by
  unfold keys valuesAt
  rw [← Keyed.isSome_lookup_iff]
  cases h : s.groups.lookup k with
  | none => simp
  | some values => simpa using List.exists_mem_of_ne_nil _ (hs _ (Keyed.mem_of_lookup h))

end ContextSet

end PermissionContexts
