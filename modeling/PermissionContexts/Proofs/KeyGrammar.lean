import PermissionContexts.Proofs.ResourceKey

/-! # Which texts are keys

    A text is read by looking for its first colon, and then for another one behind it. Seen
    from outside this comes to counting the colons and looking at both ends of the text.

    * **Grammatical** texts are not empty, have at most one colon, and none at either end.
      These are the texts that spell a key (`grammatical_iff`).
    * **The full form** of a text has the default namespace where there was none, and the
      part before the colon in lower case. It is the full form of the key that is read
      (`Spells.fullForm_eq`), so that it tells the keys apart.

    Main statement: `keys_are_known_by_their_colons`.
-/

namespace PermissionContexts

namespace ResourceKey

variable {s t space value : String} {k : ResourceKey}

/-! ### Grammatical texts -/

/-- What a text is like that can be read as a key. -/
structure Grammatical (s : String) : Prop where
  /-- It is not empty. -/
  nonempty : s ≠ ""
  /-- It has at most one colon. -/
  colons : s.toList.count ':' ≤ 1
  /-- Its first character is no colon. -/
  first : s.toList.head? ≠ some ':'
  /-- Nor is its last. -/
  last : s.toList.getLast? ≠ some ':'

instance (s : String) : Decidable (Grammatical s) :=
  decidable_of_iff (s ≠ "" ∧ s.toList.count ':' ≤ 1 ∧ s.toList.head? ≠ some ':' ∧
      s.toList.getLast? ≠ some ':')
    ⟨fun ⟨nonempty, colons, first, last⟩ => ⟨nonempty, colons, first, last⟩,
      fun ⟨nonempty, colons, first, last⟩ => ⟨nonempty, colons, first, last⟩⟩

theorem Spells.grammatical (h : Spells s k) : Grammatical s := by
  cases h with
  | bare nonempty free =>
    have hcount : s.toList.count ':' = 0 := List.count_eq_zero.mpr free
    exact {
      nonempty := nonempty
      colons := by omega
      first := fun hfirst => free (List.mem_of_head? hfirst)
      last := fun hlast => free (List.mem_of_getLast? hlast) }
  | @qualified space value space_ne value_ne space_free value_free =>
    have hspace : space.toList ≠ [] := by simpa using space_ne
    have hvalue : value.toList ≠ [] := by simpa using value_ne
    have hspaceCount : space.toList.count ':' = 0 := List.count_eq_zero.mpr space_free
    have hvalueCount : value.toList.count ':' = 0 := List.count_eq_zero.mpr value_free
    have hlist := toList_qualified space value
    refine ⟨?_, ?_, ?_, ?_⟩
    · intro hempty
      rw [hempty] at hlist
      simp at hlist
    · rw [hlist, List.count_append, List.count_cons_self]
      omega
    · -- what comes first is the first character of the namespace
      rw [hlist, List.head?_append_of_ne_nil _ hspace]
      intro hfirst
      exact space_free (List.mem_of_head? hfirst)
    · rw [hlist, List.getLast?_append_of_ne_nil _ (List.cons_ne_nil _ _),
        List.getLast?_cons_of_ne_nil hvalue]
      intro hlast
      exact value_free (List.mem_of_getLast? hlast)

/-- Without a colon a grammatical text is a name alone. -/
theorem Grammatical.spells_bare (h : Grammatical s) (hfree : ':' ∉ s.toList) :
    Spells s ⟨defaultSpace, s⟩ :=
  Spells.bare h.nonempty hfree

/-- With a colon it has a namespace before it and a name behind it. -/
theorem Grammatical.spells_qualified (h : Grammatical (space ++ ":" ++ value)) :
    Spells (space ++ ":" ++ value) ⟨lowerCased space, value⟩ := by
  obtain ⟨-, hcolons, hfirst, hlast⟩ := h
  rw [toList_qualified] at hcolons hfirst hlast
  rw [List.count_append, List.count_cons_self] at hcolons
  apply Spells.qualified
  · rintro rfl
    exact hfirst rfl
  · rintro rfl
    simp at hlast
  · apply List.count_eq_zero.mp
    omega
  · apply List.count_eq_zero.mp
    omega

theorem exists_parts (h : ':' ∈ s.toList) : ∃ space value, s = space ++ ":" ++ value := by
  obtain ⟨space, value, hlist⟩ := List.append_of_mem h
  exact ⟨_, _, eq_qualified_of_toList hlist⟩

/-- The grammatical texts are those that spell a key. -/
theorem grammatical_iff : Grammatical s ↔ ∃ k, Spells s k := by
  constructor
  · intro h
    by_cases hcolon : ':' ∈ s.toList
    · obtain ⟨space, value, rfl⟩ := exists_parts hcolon
      exact ⟨_, h.spells_qualified⟩
    · exact ⟨_, h.spells_bare hcolon⟩
  · rintro ⟨k, hk⟩
    exact hk.grammatical

/-! ### The full form of a text -/

/-- The text with the part before its first colon in lower case, or in the default namespace
    if it has no colon. -/
def fullForm (s : String) : String :=
  if ':' ∈ s.toList then
    lowerCased (String.ofList (s.toList.takeWhile (· ≠ ':'))) ++
      String.ofList (s.toList.dropWhile (· ≠ ':'))
  else defaultSpace ++ ":" ++ s

/-- The full form of a text is that of the key it spells. -/
theorem Spells.fullForm_eq (h : Spells s k) : fullForm s = k.text := by
  cases h with
  | bare nonempty free =>
    unfold fullForm
    rw [if_neg free]
    rfl
  | @qualified space value space_ne value_ne space_free value_free =>
    have hlist := toList_qualified space value
    have hcolon : ':' ∈ (space ++ ":" ++ value).toList := by
      rw [hlist]
      exact List.mem_append_right _ List.mem_cons_self
    unfold fullForm
    rw [if_pos hcolon, hlist, Text.takeWhile_ne_append space_free,
      Text.dropWhile_ne_append space_free, String.ofList_toList]
    apply String.toList_injective
    simp [text]

/-- A well-formed key is known by its full form. -/
theorem WellFormed.text_inj {a b : ResourceKey} (ha : a.WellFormed) (hb : b.WellFormed)
    (h : a.text = b.text) : a = b := by
  have hspells : Spells a.text a := ha.spells_text
  rw [h] at hspells
  exact hspells.unique hb.spells_text

/-- Two texts that spell keys are read alike exactly if they have one full form. -/
theorem parse_eq_parse_iff (hs : Grammatical s) (ht : Grammatical t) :
    parse s = parse t ↔ fullForm s = fullForm t := by
  obtain ⟨a, ha⟩ := grammatical_iff.mp hs
  obtain ⟨b, hb⟩ := grammatical_iff.mp ht
  rw [ha.parse_eq, hb.parse_eq, ha.fullForm_eq, hb.fullForm_eq, Except.ok.injEq]
  constructor
  · intro hab
    rw [hab]
  · exact ha.wellFormed.text_inj hb.wellFormed

/-! ### Main statement -/

/-- **Keys are known by their colons**. For a text `s`:

    1. It is read as a key exactly if it is grammatical.
    2. Then its value is the part behind the colon as it stands, or all of it without a
       colon, and its namespace the part before the colon in lower case, or the default
       one.
    3. Another such text is read as the same key exactly if it has the same full form.
    4. Every other text is refused with an error that names it unchanged.
    5. As a text in JSON it is read, and refused, in the same way. -/
theorem keys_are_known_by_their_colons (s : String) :
    ((∃ k, parse s = .ok k) ↔ Grammatical s) ∧
    (Grammatical s →
      (':' ∉ s.toList → parse s = .ok ⟨"minecraft", s⟩) ∧
      (∀ space value, s = space ++ ":" ++ value → parse s = .ok ⟨lowerCased space, value⟩) ∧
      ∀ t, Grammatical t → (parse s = parse t ↔ fullForm s = fullForm t)) ∧
    (¬ Grammatical s → parse s = .error (.malformed s)) ∧
    (∀ k, ofJson (.str s) = .ok k ↔ parse s = .ok k) ∧
    (¬ Grammatical s →
      ofJson (.str s) = .error (.refused ("invalid resource key: " ++ Text.quoted s))) := by
  have hread : (∃ k, parse s = .ok k) ↔ Grammatical s := by
    rw [grammatical_iff]
    exact exists_congr fun k => parse_eq_ok_iff
  have hrefused : ¬ Grammatical s → parse s = .error (.malformed s) := by
    intro h
    apply parse_eq_error
    rw [hread]
    exact h
  refine ⟨hread, ?_, hrefused, fun k => ofJson_str_eq_ok, ?_⟩
  · intro h
    refine ⟨?_, ?_, ?_⟩
    · intro hfree
      exact (h.spells_bare hfree).parse_eq
    · rintro space value rfl
      exact h.spells_qualified.parse_eq
    · intro t ht
      exact parse_eq_parse_iff h ht
  · intro h
    exact ofJson_str_eq_error (hrefused h)

/-- A capital sigma before the colon ends its namespace, so that it becomes a final one. In the
    whole text it would not: a colon does not end a word. The name keeps its capital, and a
    second colon is refused. -/
theorem keys_are_known_by_their_colons_sigma :
    Grammatical "ΟΔΟΣ:Lobby" ∧ parse "ΟΔΟΣ:Lobby" = .ok ⟨"οδος", "Lobby"⟩ ∧
      parse "ΟΔΟΣ:Lobby" = parse "οδος:Lobby" ∧
      parse "Lobby" = parse "MineCraft:Lobby" ∧
      ¬ Grammatical "a:b:c" ∧ parse "a:b:c" = .error (.malformed "a:b:c") := by
  have hroad : Grammatical "ΟΔΟΣ:Lobby" := by decide
  have hname : Grammatical "Lobby" := by decide
  have htwo : ¬ Grammatical "a:b:c" := by decide
  obtain ⟨-, hgrammatical, -⟩ := keys_are_known_by_their_colons "ΟΔΟΣ:Lobby"
  obtain ⟨-, hparts, hsame⟩ := hgrammatical hroad
  obtain ⟨-, hbare, -⟩ := keys_are_known_by_their_colons "Lobby"
  obtain ⟨-, -, hnamed⟩ := hbare hname
  obtain ⟨-, -, hrefused, -⟩ := keys_are_known_by_their_colons "a:b:c"
  have hlower : lowerCased "ΟΔΟΣ" = "οδος" := by decide +kernel
  have hread := hparts "ΟΔΟΣ" "Lobby" (by decide)
  rw [hlower] at hread
  refine ⟨hroad, hread, ?_, ?_, htwo, hrefused htwo⟩
  · exact (hsame "οδος:Lobby" (by decide)).mpr (by decide +kernel)
  · exact (hnamed "MineCraft:Lobby" (by decide)).mpr (by decide +kernel)

end ResourceKey

end PermissionContexts
