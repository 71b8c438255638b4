import PermissionContexts.Proofs.JsonText
import PermissionContexts.Proofs.Refusal
import PermissionContexts.Settings.Load

/-! # What becomes of static contexts

    Settings are refused when a static key or value is not valid as it is written. Its
    normal form is tested again when the set is made, and lower case may have made a
    value too long by then.

    Main statement: `static_contains_iff`, by which a static value of loaded settings
    becomes a context exactly if it is short enough with every dotted capital counted
    twice.
-/

namespace PermissionContexts

namespace Json

/-- Characters that stand for themselves in a written text. -/
def Plain (c : Char) : Prop := c ≠ '"' ∧ c ≠ '\\' ∧ 0x20 ≤ c.toNat

instance (c : Char) : Decidable (Plain c) :=
  inferInstanceAs (Decidable (_ ∧ _ ∧ _))

/-- Whether all characters of a text are plain can be computed. -/
theorem plain_of_all {t : String} (h : t.toList.all (fun c => decide (Plain c)) = true) :
    ∀ c ∈ t.toList, Plain c := by
  simpa using h

theorem Plain.escapeChar_eq {c : Char} (h : Plain c) : escapeChar c = [c] := by
  obtain ⟨hquote, hescape, hcontrol⟩ := h
  -- the other characters that are escaped are control characters
  have hne : ∀ d : Char, d.toNat < 0x20 → c ≠ d := by
    rintro d hd rfl
    omega
  unfold escapeChar
  rw [if_neg hquote, if_neg hescape, if_neg (hne _ (by decide)), if_neg (hne _ (by decide)),
    if_neg (hne _ (by decide)), if_neg (hne _ (by decide)), if_neg (hne _ (by decide)),
    if_neg (Nat.not_lt.mpr hcontrol)]

/-- A text of such characters is written as it is. -/
theorem textChars_of_plain {t : String} (h : ∀ c ∈ t.toList, Plain c) :
    textChars t = '"' :: t.toList ++ ['"'] := by
  have hescaped : t.toList.flatMap escapeChar = t.toList.flatMap fun c => [c] :=
    List.flatMap_congr fun c hc => (h c hc).escapeChar_eq
  unfold textChars
  rw [hescaped, List.flatMap_singleton']

end Json

namespace ContextSettings

variable {c : ContextSettings}

/-- Settings that are accepted have valid static keys and values only. -/
theorem valid_of_check (h : c.check = .ok ()) {key value : String} {values : List String}
    (hkey : (key, values) ∈ c.staticContexts) (hvalue : value ∈ values) :
    Context.validKey key = true ∧ Context.validValue value = true := by
  obtain ⟨hstatic, -⟩ := entries_of_check h
  obtain ⟨hvalidKey, hvalidValues⟩ := staticFault_eq_none_iff.mp (hstatic _ hkey)
  exact ⟨hvalidKey, hvalidValues value hvalue⟩

/-- A static pair whose key is valid becomes a context if the normal form of its value is
    valid, and otherwise neither it nor any other pair becomes this context. -/
theorem staticSet_contains_iff {key value : String} {values : List String}
    (hkey : (key, values) ∈ c.staticContexts) (hvalue : value ∈ values)
    (hvalid : Context.validKey key = true) :
    c.staticSet.contains key value = true ↔ Context.validValue (normalForm value) = true := by
  unfold staticSet
  rw [(ContextSet.sorted_ofPairs _).contains_iff, ContextSet.mem_ofPairs]
  refine ⟨?_, ?_⟩
  · rintro ⟨p, _, hp⟩
    obtain ⟨_, hvalue', heq⟩ := Context.ofRaw_eq_ok.mp hp
    have hnormal : normalForm value = normalForm p.2 := congrArg Context.value heq
    rw [hnormal]
    exact hvalue'
  · intro hnormal
    refine ⟨(key, value), ?_, Context.ofRaw_eq_ok.mpr ⟨?_, hnormal, rfl⟩⟩
    · exact mem_staticPairs.mpr ⟨values, hkey, hvalue⟩
    · rw [Context.validKey_normalForm]
      exact hvalid

end ContextSettings

namespace Settings

/-- What is loaded has been checked. -/
theorem check_of_load {file : SettingsFile} {overrides : Overrides} {s : Settings}
    (h : load file overrides = .ok s) : s.contexts.check = .ok () := by
  unfold load at h
  cases hdoc : document file with
  | error e => simp [hdoc, bind, Except.bind] at h
  | ok doc =>
    simp only [hdoc, bind, Except.bind] at h
    split at h
    · simp at h
    · split at h
      · simp at h
      · next hcheck =>
        obtain rfl := Except.ok.inj h
        exact hcheck

/-- **Static values that become contexts**: a static value of loaded settings becomes a
    context exactly if, trimmed and with every capital I with a dot counted twice, it is
    not longer than a value may be. -/
theorem static_contains_iff {file : SettingsFile} {overrides : Overrides} {s : Settings}
    (h : load file overrides = .ok s) {key value : String} {values : List String}
    (hkey : (key, values) ∈ s.contexts.staticContexts) (hvalue : value ∈ values) :
    s.contexts.staticSet.contains key value = true ↔
      (Text.trim value.toList).length + (Text.trim value.toList).count Text.dottedI ≤
        Context.maxValueLength := by
  obtain ⟨hvalidKey, hvalidValue⟩ :=
    ContextSettings.valid_of_check (check_of_load h) hkey hvalue
  rw [ContextSettings.staticSet_contains_iff hkey hvalue hvalidKey,
    Context.validValue_normalForm hvalidValue]

/-! ### A file with one static value -/

/-- A document with one static value under the key `server`. -/
def serverText (value : String) : String :=
  String.ofList ("\x7b\"contexts\":\x7b\"staticContexts\":\x7b\"server\":[\"".toList
    ++ value.toList ++ ['"', ']', '\x7d', '\x7d', '\x7d'])

/-- The settings that it leads to. -/
def serverSettings (value : String) : Settings :=
  ⟨⟨[], false, [("server", [value])]⟩, .default⟩

theorem read_serverText {value : String} (h : ∀ c ∈ value.toList, Json.Plain c) :
    Json.read (serverText value) = .ok (.obj [("contexts",
      .obj [("staticContexts", .obj [("server", .arr [.str value])])])]) := by
  have hwritten : serverText value = (Json.obj [("contexts",
      .obj [("staticContexts", .obj [("server", .arr [.str value])])])]).compact := by
    unfold serverText Json.compact
    refine congrArg String.ofList ?_
    have hcontexts := Json.textChars_of_plain (Json.plain_of_all (t := "contexts") (by decide))
    have hstatic := Json.textChars_of_plain (Json.plain_of_all (t := "staticContexts") (by decide))
    have hserver := Json.textChars_of_plain (Json.plain_of_all (t := "server") (by decide))
    simp [Json.compactChars, Json.compactItems, Json.compactMembers, Json.leafChars,
      Json.textChars_of_plain h, hcontexts, hstatic, hserver]
  rw [hwritten]
  refine Json.read_compact ?_
  simp [Json.Readable, Json.ReadableMembers, Json.ReadableItems, Keyed.Sorted, Json.maxDepth]

theorem load_serverText {value : String} (h : ∀ c ∈ value.toList, Json.Plain c)
    (hvalue : Context.validValue value = true) :
    load (.text (serverText value)) ⟨none, none⟩ = .ok (serverSettings value) := by
  have hstatic : ContextSettings.staticFault "server" [value] = none := by
    simp [ContextSettings.staticFault, hvalue, show Context.validKey "server" = true by decide]
  have hcheck : (serverSettings value).contexts.check = .ok () := by
    simp [ContextSettings.check, ContextSettings.fault, serverSettings, hstatic, Keyed.keys]
  have hdecoded : ofJson (Json.overlay default.toJson (.obj [("contexts",
      .obj [("staticContexts", .obj [("server", .arr [.str value])])])])) =
        .ok (serverSettings value) := rfl
  unfold load document
  simp only [read_serverText h, bind, Except.bind, hdecoded]
  have happly : Overrides.apply ⟨none, none⟩ (serverSettings value) = serverSettings value := rfl
  rw [happly, hcheck]

/-- The static value `east` becomes a context. -/
theorem static_contains_east :
    load (.text (serverText "east")) ⟨none, none⟩ = .ok (serverSettings "east") ∧
      (serverSettings "east").contexts.staticSet.contains "server" "east" = true := by
  have h := @load_serverText "east" (Json.plain_of_all (by decide)) (by decide)
  exact ⟨h, (static_contains_iff h (List.mem_singleton_self _) (List.mem_singleton_self _)).mpr
    (by decide)⟩

/-- A value of 129 dotted capitals, which is accepted and does not become a context. -/
def dottedValue : String := String.ofList (List.replicate 129 Text.dottedI)

theorem static_value_lost :
    ∃ s, load (.text (serverText dottedValue)) ⟨none, none⟩ = .ok s ∧
      ("server", [dottedValue]) ∈ s.contexts.staticContexts ∧
      s.contexts.staticSet.contains "server" dottedValue = false := by
  have hlist : dottedValue.toList = List.replicate 129 Text.dottedI := String.toList_ofList
  have htrim : Text.trim dottedValue.toList = List.replicate 129 Text.dottedI := by
    rw [hlist]
    decide +kernel
  have hplain : ∀ c ∈ dottedValue.toList, Json.Plain c := by
    intro c hc
    rw [hlist] at hc
    rw [List.eq_of_mem_replicate hc]
    decide
  have hvalid : Context.validValue dottedValue = true := by
    unfold Context.validValue
    rw [Context.valueAllowed_eq, Context.keyAllowed, htrim]
    decide +kernel
  have hmem : ("server", [dottedValue]) ∈ (serverSettings dottedValue).contexts.staticContexts :=
    List.mem_singleton_self _
  refine ⟨_, load_serverText hplain hvalid, hmem, ?_⟩
  rw [Bool.eq_false_iff, Ne, ContextSettings.staticSet_contains_iff hmem
    (List.mem_singleton_self _) (by decide), Context.validValue_normalForm hvalid, htrim]
  decide +kernel

end Settings

end PermissionContexts
