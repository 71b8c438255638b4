import PermissionContexts.Proofs.JsonText
import PermissionContexts.Proofs.Membership

/-! # Context sets come back from JSON

    A set is written as its groups: each key once, with its values. When groups are decoded
    every pair is brought to normal form and tested anew, as if it came from outside.

    * **Tables** are decoded into the set of all their pairs (`ofJson_table`). Keys that are
      the same in normal form are not told apart, and their values come together.
    * **Sets** are written as tables of their pairs, and each pair is one that is added
      unchanged, so that the set comes back (`Proper.ofJson_toJson`).

    Main statement: `sets_come_back_from_json`.
-/

namespace PermissionContexts

namespace Json

/-! ### Tables that can be read back -/

theorem readableItems_iff {depth : Nat} {js : List Json} :
    ReadableItems depth js ↔ ∀ j ∈ js, Readable depth j := by
  induction js with
  | nil => simp [ReadableItems]
  | cons j js ih => simp [ReadableItems, ih]

theorem readableMembers_iff {depth : Nat} {ms : List (String × Json)} :
    ReadableMembers depth ms ↔ ∀ m ∈ ms, Readable depth m.2 := by
  induction ms with
  | nil => simp [ReadableMembers]
  | cons m ms ih =>
    obtain ⟨k, j⟩ := m
    simp [ReadableMembers, ih]

theorem readable_strs (depth : Nat) (ss : List String) : Readable (depth + 1) (strs ss) := by
  refine ⟨Nat.succ_pos _, readableItems_iff.mpr ?_⟩
  intro j hj
  obtain ⟨t, -, rfl⟩ := List.mem_map.mp hj
  trivial

/-- A sorted table of lists of texts has two levels. -/
theorem readable_table {t : Keyed (List String)} (h : t.Sorted) (depth : Nat) :
    Readable (depth + 2) (.obj (t.mapValues strs)) := by
  refine ⟨Nat.succ_pos _, ?_, readableMembers_iff.mpr ?_⟩
  · exact List.pairwise_map.mpr h
  · intro m hm
    obtain ⟨e, -, rfl⟩ := List.mem_map.mp hm
    exact readable_strs depth e.2

end Json

namespace ContextSet

variable {s : ContextSet}

/-! ### Decoding -/

/-- A table of lists of texts is decoded into the set of its pairs. -/
theorem ofJson_table (t : Keyed (List String)) :
    ofJson (.obj (t.mapValues Json.strs)) = .ok (ofPairs (ungroup t)) := by
  have htable : Json.asTable Json.asTexts (.obj (t.mapValues Json.strs)) = .ok t :=
    Json.decodeMembers_mapValues Json.asTexts_strs t
  unfold ofJson
  rw [htable]
  rfl

theorem Proper.ofJson_toJson (h : s.Proper) : ofJson s.toJson = .ok s := by
  have htable : s.toJson = .obj (Keyed.mapValues Json.strs s.groups) := rfl
  have hpairs : ofPairs (ungroup s.groups) = s := h.ofPairs_pairs
  rw [htable, ofJson_table, hpairs]

/-- The JSON of a sorted set can be read back. -/
theorem Sorted.readable_toJson (h : s.Sorted) (depth : Nat) :
    Json.Readable (depth + 2) s.toJson :=
  Json.readable_table h.groups depth

/-- **Sets come back from JSON**.

    1. However a set is made, it is decoded from its own JSON, and this is what is read from
       the written JSON in either layout.
    2. From an object that maps texts to lists of texts, whatever they are, the set of all
       its pairs is decoded, in whatever order they are taken, and this set comes back. -/
theorem sets_come_back_from_json :
    (∀ s : ContextSet, s.Built → ofJson s.toJson = .ok s ∧
      Json.read s.toJson.compact = .ok s.toJson ∧ Json.read s.toJson.pretty = .ok s.toJson) ∧
    ∀ (t : Keyed (List String)) (ps : List (String × String)), (∀ p, p ∈ ps ↔ p ∈ ungroup t) →
      ofJson (.obj (t.mapValues Json.strs)) = .ok (ofPairs ps) ∧
        ofJson (ofPairs ps).toJson = .ok (ofPairs ps) := by
  refine ⟨?_, ?_⟩
  · intro s hs
    have hreadable : Json.Readable Json.maxDepth s.toJson :=
      hs.proper.sorted.readable_toJson 125
    exact ⟨hs.proper.ofJson_toJson, Json.read_compact hreadable, Json.read_pretty hreadable⟩
  · intro t ps hps
    refine ⟨?_, (proper_ofPairs ps).ofJson_toJson⟩
    rw [ofJson_table, ofPairs_congr hps]

/-- Two of the keys are the same in normal form, and one is not valid. -/
def collidingKeys : Keyed (List String) :=
  [("", ["x"]), (" world ", ["LOBBY", "a=b"]), ("World", ["Arena", "lobby"])]

/-- The values of both keys come together, and the set of them comes back from its text. -/
theorem sets_come_back_from_json_collidingKeys :
    let s := ofPairs (ungroup collidingKeys).reverse
    ofJson (.obj (collidingKeys.mapValues Json.strs)) = .ok s ∧
      s.pairs = [("world", "arena"), ("world", "lobby")] ∧
      Json.read s.toJson.compact = .ok s.toJson ∧ ofJson s.toJson = .ok s := by
  intro s
  obtain ⟨hbuilt, htables⟩ := sets_come_back_from_json
  obtain ⟨hdecoded, -⟩ := htables collidingKeys (ungroup collidingKeys).reverse
    fun _ => List.mem_reverse
  obtain ⟨hback, hread, -⟩ := hbuilt s (.ofPairs _)
  exact ⟨hdecoded, by decide +kernel, hread, hback⟩

end ContextSet

end PermissionContexts
