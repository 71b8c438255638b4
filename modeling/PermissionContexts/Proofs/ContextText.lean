import PermissionContexts.Proofs.ContextInvariant
import PermissionContexts.Proofs.Decoding
import PermissionContexts.Proofs.JsonText

/-! # Flattened contexts read back

    A context is flattened to its key and its value with the separator between them. The
    separator may stand in neither half (`Normal.allowed`), so that

    * it occurs once in the text (`Normal.count_text`), and
    * the text is parted there into the same two halves (`Normal.halves_text`).

    The halves are in normal form and pass the tests a second time. So the same context is
    made of them, be they taken from the text or from JSON.

    Main statement: `contexts_read_back`.
-/

namespace PermissionContexts

namespace Context

variable {c d : Context}

/-! ### The halves of a text -/

/-- The parts of a text before and behind its first separator, if it has one. -/
def halves (s : String) : Option (String × String) :=
  match s.toList.dropWhile (· ≠ separator) with
  | [] => none
  | _ :: value => some (String.ofList (s.toList.takeWhile (· ≠ separator)), String.ofList value)

theorem toList_text (c : Context) :
    c.text.toList = c.key.toList ++ separator :: c.value.toList := by
  unfold text
  simp [String.toList_append]

theorem Normal.separator_not_mem (h : c.Normal) :
    separator ∉ c.key.toList ∧ separator ∉ c.value.toList := by
  constructor
  · intro hkey
    exact (h.allowed (Or.inl hkey)).2 rfl
  · intro hvalue
    exact (h.allowed (Or.inr hvalue)).2 rfl

/-- The flattened form of a context is parted into its key and its value. -/
theorem Normal.halves_text (h : c.Normal) : halves c.text = some (c.key, c.value) := by
  obtain ⟨hkey, -⟩ := h.separator_not_mem
  unfold halves
  rw [toList_text, Text.dropWhile_ne_append hkey, Text.takeWhile_ne_append hkey]
  dsimp only
  rw [String.ofList_toList, String.ofList_toList]

/-- There is one separator in it. -/
theorem Normal.count_text (h : c.Normal) : c.text.toList.count separator = 1 := by
  obtain ⟨hkey, hvalue⟩ := h.separator_not_mem
  rw [toList_text, List.count_append, List.count_cons_self, List.count_eq_zero.mpr hkey,
    List.count_eq_zero.mpr hvalue]

/-- A context is known by its flattened form. -/
theorem Normal.text_inj (hc : c.Normal) (hd : d.Normal) (h : c.text = d.text) : c = d := by
  have hhalves : halves c.text = some (d.key, d.value) := by
    rw [h]
    exact hd.halves_text
  rw [hc.halves_text, Option.some.injEq, Prod.mk.injEq] at hhalves
  calc c = ⟨c.key, c.value⟩ := rfl
    _ = ⟨d.key, d.value⟩ := by rw [hhalves.1, hhalves.2]
    _ = d := rfl

/-! ### The halves in JSON -/

theorem Normal.ofJson_toJson (h : c.Normal) : ofJson c.toJson = .ok c := by
  have hdecoded : ofDecoded c.key c.value = .ok c := by
    unfold ofDecoded
    rw [h]
  have hkey : Json.optional [("key", .str c.key), ("value", .str c.value)] "key" Json.asText =
      .ok (some c.key) := Json.optional_of_lookup rfl rfl
  have hvalue : Json.optional [("key", .str c.key), ("value", .str c.value)] "value" Json.asText =
      .ok (some c.value) := Json.optional_of_lookup rfl rfl
  unfold toJson ofJson
  dsimp only
  simp only [hkey, hvalue, Json.required, bind, Except.bind]
  exact hdecoded

/-- A context is an object of texts. -/
theorem readable_toJson (c : Context) (depth : Nat) : Json.Readable (depth + 1) c.toJson := by
  apply Json.readable_obj
  · show ["key", "value"].Pairwise (· < ·)
    decide
  · exact ⟨trivial, trivial, trivial⟩

/-! ### Main statement -/

/-- **Flattened contexts read back**. For every context that a raw pair becomes:

    1. Its text is parted at the first separator into exactly its key and its value.
    2. There is no other separator in the text.
    3. The two halves, taken as a raw pair, become the same context.
    4. It is decoded from its own JSON, which is what is read from the written JSON in either
       layout.

    So two such contexts with one text are equal. -/
theorem contexts_read_back :
    (∀ key value c, ofRaw key value = .ok c →
      halves c.text = some (c.key, c.value) ∧ c.text.toList.count separator = 1 ∧
      ofRaw c.key c.value = .ok c ∧ ofJson c.toJson = .ok c ∧
      Json.read c.toJson.compact = .ok c.toJson ∧ Json.read c.toJson.pretty = .ok c.toJson) ∧
    ∀ key value key' value' c d, ofRaw key value = .ok c → ofRaw key' value' = .ok d →
      c.text = d.text → c = d := by
  constructor
  · intro key value c h
    have hc : c.Normal := normal_of_ofRaw h
    have hreadable : Json.Readable Json.maxDepth c.toJson := c.readable_toJson 126
    exact ⟨hc.halves_text, hc.count_text, hc, hc.ofJson_toJson, Json.read_compact hreadable,
      Json.read_pretty hreadable⟩
  · intro key value key' value' c d hc hd htext
    exact (normal_of_ofRaw hc).text_inj (normal_of_ofRaw hd) htext

/-- The dotted capital has become two characters, and no third when the halves are taken for a
    raw pair again. -/
theorem contexts_read_back_izmir :
    ofRaw " Region " "\u0130zmir: Old Town" = .ok ⟨"region", "i\u0307zmir: old town"⟩ ∧
      halves "region=i\u0307zmir: old town" = some ("region", "i\u0307zmir: old town") ∧
      ofRaw "region" "i\u0307zmir: old town" = .ok ⟨"region", "i\u0307zmir: old town"⟩ ∧
      ofJson (.obj [("key", .str "region"), ("value", .str "i\u0307zmir: old town")]) =
        .ok ⟨"region", "i\u0307zmir: old town"⟩ ∧
      ∃ c d, ofRaw " Region " "\u0130zmir: Old Town" = .ok c ∧
        ofRaw "REGION" "\u0130ZMIR: OLD TOWN\t" = .ok d ∧ c.text = d.text ∧ c = d := by
  obtain ⟨hback, hsame⟩ := contexts_read_back
  have hc : ofRaw " Region " "\u0130zmir: Old Town" = .ok ⟨"region", "i\u0307zmir: old town"⟩ := by
    decide +kernel
  have hd : ofRaw "REGION" "\u0130ZMIR: OLD TOWN\t" = .ok ⟨"region", "i\u0307zmir: old town"⟩ := by
    decide +kernel
  have htext : text ⟨"region", "i\u0307zmir: old town"⟩ = "region=i\u0307zmir: old town" := by
    decide
  obtain ⟨hhalves, -, hraw, hjson, -⟩ := hback _ _ _ hc
  rw [htext] at hhalves
  exact ⟨hc, hhalves, hraw, hjson, _, _, hc, hd, rfl, hsame _ _ _ _ _ _ hc hd rfl⟩

end Context

end PermissionContexts
