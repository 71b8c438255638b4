import PermissionContexts.Proofs.NormalForm
import PermissionContexts.Resource.Key

/-! # Keys that were read

    A text is read as a key by its first colon, or as a name in the default namespace if it
    has none. So a key is **spelled** (`Spells`) by its name alone, if it is in the default
    namespace, or by a namespace in any case and its name with a colon between them, and
    these are all the texts that are read (`parse_eq_ok_iff`).

    What is read is **well formed** (`WellFormed`): neither part is empty, no part has a
    colon, and the namespace is its own lower-case form. Such a key is spelled by its own
    full form. So to be well formed is to have been read (`exists_parse_iff`).
-/

namespace PermissionContexts

/-! ### Lower case of a namespace -/

theorem lowerCased_lowerCased (s : String) : lowerCased (lowerCased s) = lowerCased s := by
  unfold lowerCased
  rw [String.toList_ofList, Text.lower_lower]

theorem lowerCased_ne_empty {s : String} (h : s ≠ "") : lowerCased s ≠ "" := by
  intro hlower
  have hnil : Text.lower s.toList = [] := by simpa [lowerCased] using hlower
  have hempty : s.toList.isEmpty = true := by
    rw [← Text.isEmpty_lower, hnil]
    rfl
  exact h (by simpa using hempty)

/-- Lower case neither brings in colons nor takes them away. -/
theorem mem_colon_lowerCased {s : String} : ':' ∈ (lowerCased s).toList ↔ ':' ∈ s.toList := by
  unfold lowerCased
  rw [String.toList_ofList]
  exact Text.mem_lower (by decide)

namespace ResourceKey

/-! ### The first colon -/

theorem splitColon_eq_none {s : List Char} : splitColon s = none ↔ ':' ∉ s := by
  induction s with
  | nil => simp [splitColon]
  | cons c rest ih =>
    unfold splitColon
    by_cases hc : c = ':'
    · simp [hc]
    · simp [hc, Ne.symm hc, ih]

theorem splitColon_eq_some {s space value : List Char} :
    splitColon s = some (space, value) ↔ s = space ++ ':' :: value ∧ ':' ∉ space := by
  induction s generalizing space with
  | nil => simp [splitColon]
  | cons c rest ih =>
    unfold splitColon
    by_cases hc : c = ':'
    · -- the colon comes first, and nothing stands before it
      subst hc
      rw [if_pos rfl]
      cases space with
      | nil => simp
      | cons d space =>
        simp only [Option.some.injEq, Prod.mk.injEq, List.nil_eq, reduceCtorEq, false_and,
          List.cons_append, List.cons.injEq, List.mem_cons, not_or, false_iff, not_and]
        intro hd hne
        exact absurd hd.1 hne
    · rw [if_neg hc]
      cases space with
      | nil => simp [hc]
      | cons d space =>
        simp only [Option.map_eq_some_iff, Prod.exists, Prod.mk.injEq, List.cons.injEq,
          List.cons_append, List.mem_cons, not_or]
        constructor
        · rintro ⟨a, b, hsplit, ⟨rfl, rfl⟩, rfl⟩
          obtain ⟨hrest, hfree⟩ := ih.mp hsplit
          exact ⟨⟨rfl, hrest⟩, Ne.symm hc, hfree⟩
        · rintro ⟨⟨rfl, hrest⟩, -, hfree⟩
          exact ⟨space, value, ih.mpr ⟨hrest, hfree⟩, ⟨rfl, rfl⟩, rfl⟩

/-! ### Texts of keys -/

/-- The text spells the key. -/
inductive Spells : String → ResourceKey → Prop where
  /-- A name alone is one in the default namespace. -/
  | bare {value : String} (nonempty : value ≠ "") (free : ':' ∉ value.toList) :
      Spells value ⟨defaultSpace, value⟩
  /-- A colon parts a namespace, in any case, from a name. -/
  | qualified {space value : String} (space_ne : space ≠ "") (value_ne : value ≠ "")
      (space_free : ':' ∉ space.toList) (value_free : ':' ∉ value.toList) :
      Spells (space ++ ":" ++ value) ⟨lowerCased space, value⟩

variable {k : ResourceKey} {s : String}

theorem lowerCased_defaultSpace : lowerCased defaultSpace = defaultSpace := by
  decide +kernel

theorem inDefaultSpace_eq (value : String) : inDefaultSpace value = ⟨defaultSpace, value⟩ := by
  unfold inDefaultSpace ofParts
  rw [lowerCased_defaultSpace]

theorem toList_qualified (space value : String) :
    (space ++ ":" ++ value).toList = space.toList ++ ':' :: value.toList := by
  simp [String.toList_append]

theorem eq_qualified_of_toList {space value : List Char} (h : s.toList = space ++ ':' :: value) :
    s = String.ofList space ++ ":" ++ String.ofList value := by
  apply String.toList_injective
  rw [h, toList_qualified, String.toList_ofList, String.toList_ofList]

/-- A key is read from each of its texts. -/
theorem Spells.parse_eq (h : Spells s k) : parse s = .ok k := by
  cases h with
  | bare nonempty free =>
    have hsplit : splitColon s.toList = none := splitColon_eq_none.mpr free
    have hempty : ¬ s.isEmpty = true := by simpa using nonempty
    unfold parse
    rw [hsplit]
    dsimp only
    rw [if_neg hempty, inDefaultSpace_eq]
  | @qualified space value space_ne value_ne space_free value_free =>
    have hsplit : splitColon (space ++ ":" ++ value).toList = some (space.toList, value.toList) :=
      splitColon_eq_some.mpr ⟨toList_qualified space value, space_free⟩
    have hgood : ¬ (space.toList.isEmpty || value.toList.isEmpty ||
        value.toList.contains ':') = true := by
      simp [space_ne, value_ne, value_free]
    unfold parse
    rw [hsplit]
    dsimp only
    rw [if_neg hgood, String.ofList_toList, String.ofList_toList]
    rfl

/-- A key is read from no other text. -/
theorem spells_of_parse (h : parse s = .ok k) : Spells s k := by
  unfold parse at h
  cases hsplit : splitColon s.toList with
  | none =>
    rw [hsplit] at h
    dsimp only at h
    split_ifs at h with hempty
    obtain rfl := Except.ok.inj h
    rw [inDefaultSpace_eq]
    apply Spells.bare
    · simpa using hempty
    · exact splitColon_eq_none.mp hsplit
  | some parts =>
    obtain ⟨space, value⟩ := parts
    obtain ⟨hlist, hfree⟩ := splitColon_eq_some.mp hsplit
    rw [hsplit] at h
    dsimp only at h
    split_ifs at h with hbad
    obtain rfl := Except.ok.inj h
    simp only [Bool.or_eq_true, List.isEmpty_iff, List.contains_iff_mem, not_or] at hbad
    obtain ⟨⟨hspace, hvalue⟩, hcolon⟩ := hbad
    rw [eq_qualified_of_toList hlist]
    apply Spells.qualified
    · simpa using hspace
    · simpa using hvalue
    · rw [String.toList_ofList]
      exact hfree
    · rw [String.toList_ofList]
      exact hcolon

theorem parse_eq_ok_iff : parse s = .ok k ↔ Spells s k :=
  ⟨spells_of_parse, Spells.parse_eq⟩

/-- A text spells one key only. -/
theorem Spells.unique {a b : ResourceKey} (ha : Spells s a) (hb : Spells s b) : a = b := by
  have hread : parse s = .ok b := hb.parse_eq
  rw [ha.parse_eq] at hread
  exact Except.ok.inj hread

/-- What is not read is named in the error as it was written. -/
theorem parse_eq_error (h : ¬ ∃ k, parse s = .ok k) : parse s = .error (.malformed s) := by
  unfold parse at h ⊢
  split at h
  · split_ifs at h ⊢ with hbad
    · rfl
    · exact absurd ⟨_, rfl⟩ h
  · split_ifs at h ⊢ with hempty
    · rfl
    · exact absurd ⟨_, rfl⟩ h

/-! ### Well-formed keys -/

/-- What a key is like that was read. -/
structure WellFormed (k : ResourceKey) : Prop where
  /-- There is a namespace. -/
  space_ne : k.space ≠ ""
  /-- There is a name in it. -/
  value_ne : k.value ≠ ""
  /-- The namespace has no colon. -/
  space_colon : ':' ∉ k.space.toList
  /-- The name has none either. -/
  value_colon : ':' ∉ k.value.toList
  /-- The namespace is in lower case. -/
  lower : lowerCased k.space = k.space

/-- Whatever has a text is well formed. -/
theorem Spells.wellFormed (h : Spells s k) : k.WellFormed := by
  cases h with
  | bare nonempty free =>
    have hspace : defaultSpace ≠ "" := by decide
    have hspaceFree : ':' ∉ defaultSpace.toList := by decide
    exact ⟨hspace, nonempty, hspaceFree, free, lowerCased_defaultSpace⟩
  | @qualified space value space_ne value_ne space_free value_free =>
    have hfree : ':' ∉ (lowerCased space).toList := by
      rw [mem_colon_lowerCased]
      exact space_free
    exact ⟨lowerCased_ne_empty space_ne, value_ne, hfree, value_free, lowerCased_lowerCased space⟩

/-- A well-formed key is spelled by its full form. -/
theorem WellFormed.spells_text (h : k.WellFormed) : Spells k.text k := by
  obtain ⟨hspace, hvalue, hspaceColon, hvalueColon, hlower⟩ := h
  have hspells : Spells k.text ⟨lowerCased k.space, k.value⟩ :=
    Spells.qualified hspace hvalue hspaceColon hvalueColon
  rw [hlower] at hspells
  exact hspells

/-- Whatever is read is well formed. -/
theorem wellFormed_of_parse (h : parse s = .ok k) : k.WellFormed :=
  (spells_of_parse h).wellFormed

/-- A well-formed key is read back from its full form. -/
theorem WellFormed.parse_text (h : k.WellFormed) : parse k.text = .ok k :=
  h.spells_text.parse_eq

/-- The well-formed keys are those that can be read. -/
theorem exists_parse_iff : (∃ s, parse s = .ok k) ↔ k.WellFormed := by
  constructor
  · rintro ⟨s, hs⟩
    exact wellFormed_of_parse hs
  · intro h
    exact ⟨k.text, h.parse_text⟩

/-! ### Texts in JSON -/

/-- A text in JSON is read as it is elsewhere. -/
theorem ofJson_str_eq_ok : ofJson (.str s) = .ok k ↔ parse s = .ok k := by
  have htext : Json.asText (.str s) = .ok s := rfl
  unfold ofJson
  simp only [htext, bind, Except.bind]
  cases parse s <;> simp

/-- What is refused there is refused with the text of the same error. -/
theorem ofJson_str_eq_error {e : ResourceKeyError} (h : parse s = .error e) :
    ofJson (.str s) = .error (.refused e.message) := by
  have htext : Json.asText (.str s) = .ok s := rfl
  unfold ofJson
  simp only [htext, bind, Except.bind, h]

theorem WellFormed.ofJson_toJson (h : k.WellFormed) : ofJson k.toJson = .ok k :=
  ofJson_str_eq_ok.mpr h.parse_text

end ResourceKey

end PermissionContexts
