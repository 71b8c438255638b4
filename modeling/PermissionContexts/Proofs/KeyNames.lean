import PermissionContexts.Proofs.JsonText
import PermissionContexts.Proofs.ResourceKey

/-! # Keys come back from their names

    A key is written in two ways: in full, and as the value of a context without the default
    namespace. Both are texts of the key (`Spells`) if it was read from a text, because then
    no part has a colon and the namespace is in lower case. What is left out of the short
    form is what reading a bare name puts back.

    * **One reading** of a text means that keys with a text in common are equal
      (`Spells.unique`), so that to leave out the default namespace merges no two keys.

    Main statement: `keys_come_back_from_their_names`.
-/

namespace PermissionContexts

namespace ResourceKey

variable {k : ResourceKey}

/-- A well-formed key is spelled by its name in contexts. -/
theorem WellFormed.spells_contextName (h : k.WellFormed) : Spells k.contextName k := by
  unfold contextName
  by_cases hdefault : k.isDefault = true
  · -- the namespace that is left out is the one that a bare name has
    have hspace : k.space = defaultSpace := by simpa [isDefault] using hdefault
    have hbare : Spells k.value ⟨defaultSpace, k.value⟩ := Spells.bare h.value_ne h.value_colon
    rw [if_pos hdefault]
    rw [← hspace] at hbare
    exact hbare
  · rw [if_neg hdefault]
    exact h.spells_text

/-- **Keys come back from their names**. A key that was read from a text is read again

    1. from its full form,
    2. from its name in contexts, and
    3. from its JSON, written in either layout.

    So two such keys with one name in contexts are equal. -/
theorem keys_come_back_from_their_names :
    (∀ s k, parse s = .ok k → parse k.text = .ok k ∧ parse k.contextName = .ok k ∧
      ofJson k.toJson = .ok k ∧ Json.read k.toJson.compact = .ok k.toJson ∧
        Json.read k.toJson.pretty = .ok k.toJson) ∧
    ∀ s t a b, parse s = .ok a → parse t = .ok b → a.contextName = b.contextName → a = b := by
  constructor
  · intro s k h
    have hk : k.WellFormed := wellFormed_of_parse h
    have hreadable : Json.Readable Json.maxDepth k.toJson := trivial
    exact ⟨hk.parse_text, hk.spells_contextName.parse_eq, hk.ofJson_toJson,
      Json.read_compact hreadable, Json.read_pretty hreadable⟩
  · intro s t a b ha hb hname
    have hspellsA : Spells a.contextName a := (wellFormed_of_parse ha).spells_contextName
    have hspellsB : Spells b.contextName b := (wellFormed_of_parse hb).spells_contextName
    rw [hname] at hspellsA
    exact hspellsA.unique hspellsB

/-- The default namespace is left out also when it was written in capitals, and the name keeps
    its own. Another namespace stays, in lower case. -/
theorem keys_come_back_from_their_names_creative :
    parse "MyMod:Creative" = .ok ⟨"mymod", "Creative"⟩ ∧
      contextName ⟨"mymod", "Creative"⟩ = "mymod:Creative" ∧
      parse "mymod:Creative" = .ok ⟨"mymod", "Creative"⟩ ∧
      ofJson (.str "mymod:Creative") = .ok ⟨"mymod", "Creative"⟩ ∧
      ∃ a b, parse "MINECRAFT:Creative" = .ok a ∧ a.contextName = "Creative" ∧
        parse "Creative" = .ok b ∧ b.contextName = "Creative" ∧ a = b := by
  obtain ⟨hback, hsame⟩ := keys_come_back_from_their_names
  have hmod : parse "MyMod:Creative" = .ok ⟨"mymod", "Creative"⟩ := by decide +kernel
  have hmodName : contextName ⟨"mymod", "Creative"⟩ = "mymod:Creative" := by decide
  obtain ⟨-, hread, hjson, -⟩ := hback _ _ hmod
  rw [hmodName] at hread
  have hfull : parse "MINECRAFT:Creative" = .ok ⟨"minecraft", "Creative"⟩ := by decide +kernel
  have hbare : parse "Creative" = .ok ⟨"minecraft", "Creative"⟩ := by decide +kernel
  have hname : contextName ⟨"minecraft", "Creative"⟩ = "Creative" := by decide
  exact ⟨hmod, hmodName, hread, hjson, _, _, hfull, hname, hbare, hname,
    hsame _ _ _ _ hfull hbare rfl⟩

end ResourceKey

end PermissionContexts
