import PermissionContexts.Proofs.JsonText
import PermissionContexts.Proofs.Overlay
import PermissionContexts.Settings.Load

/-! # The layers of settings

    Settings are loaded by way of the whole document: the defaults are written, the file is
    laid over them, and the result is decoded and overridden. For a file of the right shape
    (`Json.SettingsShaped`) each setting can be told without that way, from what the
    file gives for it (`Settings.layered`):

    * the **level** of the log and the **switch** are those of the environment, or else of
      the file, or else the defaults, and
    * the two **tables** are what the file gives and is not null.

    Main statement: `load_layers`.
-/

namespace PermissionContexts

/-! ### What a document gives -/

namespace Json

/-- The value is an object. -/
def IsObject (j : Json) : Prop :=
  ∃ ms, j = .obj ms

/-- The value is an object whose members are null or lists of texts. -/
def IsLists (j : Json) : Prop :=
  ∃ ms, j = .obj ms ∧ ∀ m ∈ ms, m.2 = .null ∨ ∃ ss, m.2 = strs ss

/-- The text that the value is. -/
def text? : Json → Option String
  | .str s => some s
  | _ => none

/-- The truth value that the value is. -/
def bool? : Json → Option Bool
  | .bool b => some b
  | _ => none

/-- The list of texts that the value is. -/
def texts? : Json → Option (List String)
  | .arr items => items.mapM text?
  | _ => none

/-- The members of an object that are lists of texts. -/
def lists : Json → Keyed (List String)
  | .obj ms => ms.filterMap fun m => (texts? m.2).map fun ss => (m.1, ss)
  | _ => []

/-- The object in the member `name`. One that is not given is empty. -/
def part (j : Json) (name : String) : Json :=
  (j.given? name).getD (.obj [])

/-- The document has the shape of settings: what it gives is of the right type. Members of
    other names may be anything. -/
structure SettingsShaped (user : Json) : Prop where
  /-- The document is an object. -/
  document : user.IsObject
  /-- So are the settings of the calculators, -/
  contexts : ∀ j, user.given? "contexts" = some j → j.IsObject
  /-- and the settings of the log. -/
  logging : ∀ j, user.given? "logging" = some j → j.IsObject
  /-- The rewrites are lists. -/
  worldRewrites : ∀ j, (user.part "contexts").given? "worldRewrites" = some j → j.IsLists
  /-- So are the static contexts. -/
  staticContexts : ∀ j, (user.part "contexts").given? "staticContexts" = some j → j.IsLists
  /-- The switch is a truth value. -/
  suppressUnmatchedWorlds : ∀ j,
    (user.part "contexts").given? "suppressUnmatchedWorlds" = some j → ∃ b, j = .bool b
  /-- The level is a text. -/
  level : ∀ j, (user.part "logging").given? "level" = some j → ∃ s, j = .str s

end Json

/-- The document that a file holds. One that is not there holds an empty object. -/
def SettingsFile.document? : SettingsFile → Option Json
  | .missing => some (.obj [])
  | .unreadable => none
  | .text s => (Json.read s).toOption

namespace Settings

/-- The settings that the environment, the document `user` and the defaults make, each
    over those after it. -/
def layered (user : Json) (o : Overrides) : Settings where
  contexts :=
    { worldRewrites := ((user.part "contexts").part "worldRewrites").lists
      suppressUnmatchedWorlds :=
        (o.suppressUnmatchedWorlds.bind readSwitch <|>
          ((user.part "contexts").given? "suppressUnmatchedWorlds").bind Json.bool?).getD false
      staticContexts := ((user.part "contexts").part "staticContexts").lists }
  logging :=
    ⟨(o.logLevel.filter (!·.isEmpty) <|>
      ((user.part "logging").given? "level").bind Json.text?).getD LoggingSettings.default.level⟩

end Settings

/-! ### Parts of an overlay -/

namespace Json

theorem texts?_strs (ss : List String) : texts? (strs ss) = some ss := by
  show (ss.map str).mapM text? = some ss
  induction ss with
  | nil => rfl
  | cons s ss ih =>
    rw [List.map_cons, List.mapM_cons, ih]
    rfl

theorem lists_cons_null (k : String) (ms : List (String × Json)) :
    lists (.obj ((k, .null) :: ms)) = lists (.obj ms) :=
  rfl

theorem lists_cons_strs (k : String) (ss : List String) (ms : List (String × Json)) :
    lists (.obj ((k, strs ss) :: ms)) = (k, ss) :: lists (.obj ms) := by
  simp only [lists, List.filterMap_cons, texts?_strs, Option.map_some]

/-- Members that are null or lists of texts are decoded to the lists. -/
theorem decodeMembers_lists {ms : List (String × Json)}
    (h : ∀ m ∈ ms, m.2 = .null ∨ ∃ ss, m.2 = strs ss) :
    decodeMembers asTexts (ms.filter fun m => !m.2.isNull) = .ok (lists (.obj ms)) := by
  induction ms with
  | nil => rfl
  | cons m ms ih =>
    obtain ⟨k, j⟩ := m
    have hrest := ih fun m hm => h m (List.mem_cons_of_mem _ hm)
    rcases h (k, j) (List.mem_cons_self ..) with heq | ⟨ss, heq⟩
    · obtain rfl : j = .null := heq
      rw [List.filter_cons_of_neg (by simp [isNull]), lists_cons_null, hrest]
    · obtain rfl : j = strs ss := heq
      have hnull : (strs ss).isNull = false := rfl
      rw [List.filter_cons_of_pos (by simp [hnull]), lists_cons_strs, decodeMembers, asTexts_strs,
        hrest]
      rfl

theorem canonical_of_lookup {ms : List (String × Json)} {k : String} {v : Json}
    (h : (obj ms).Canonical) (hv : Keyed.lookup k ms = some v) : v.Canonical :=
  canonicalMembers_iff.mp h.2 (k, v) (Keyed.mem_of_lookup hv)

theorem canonical_part {j : Json} (h : j.Canonical) (name : String) : (j.part name).Canonical := by
  unfold part
  cases hv : j.given? name with
  | none => exact ⟨Keyed.sorted_nil, trivial⟩
  | some v =>
    cases j with
    | obj ms => exact canonical_of_lookup h (lookup_of_given? hv)
    | _ => simp [given?, member?] at hv

theorem isObject_part {j : Json} {name : String}
    (h : ∀ v, j.given? name = some v → v.IsObject) : (j.part name).IsObject := by
  unfold part
  cases hv : j.given? name with
  | none => exact ⟨[], rfl⟩
  | some v => exact h v hv

theorem isLists_part {j : Json} {name : String}
    (h : ∀ v, j.given? name = some v → v.IsLists) : (j.part name).IsLists := by
  unfold part
  cases hv : j.given? name with
  | none => exact ⟨[], rfl, by simp⟩
  | some v => exact h v hv

variable {α : Type} {target source below : List (String × Json)} {name : String}

/-- A part of the upper document is laid over the same part of the lower one and decoded
    then. -/
theorem optional_overlay_part {decode : Json → Except ShapeFault α} {a : α}
    (hsource : (obj source).Canonical) (hbelow : Keyed.lookup name target = some (.obj below))
    (hdecode : decode (overlay (.obj below) ((obj source).part name)) = .ok a) :
    optional (overlayMembers target source) name decode = .ok (some a) := by
  refine optional_of_lookup ?_ hdecode
  have hnodup : (Keyed.keys source).Nodup := Keyed.Sorted.nodup_keys hsource.1
  unfold part
  cases hv : (obj source).given? name with
  | none =>
    -- nothing is given, which is as if an empty object were laid over the default
    rw [lookup_overlay_of_none hv hnodup, hbelow, Option.getD_none, overlay_obj, overlayMembers]
  | some v => rw [lookup_overlay_of_some hv hnodup, hbelow, Option.getD_some, laidOver]

/-- A text or a truth value that the upper document gives stands in place of the default. -/
theorem optional_overlay_leaf {decode : Json → Except ShapeFault α} {encode : α → Json}
    {read? : Json → Option α} {a : α} (hdecode : ∀ a, decode (encode a) = .ok a)
    (hread : ∀ a, read? (encode a) = some a) (hleaf : ∀ d a, overlay d (encode a) = encode a)
    (hsource : (obj source).Canonical) (hbelow : Keyed.lookup name target = some (encode a))
    (hgiven : ∀ v, (obj source).given? name = some v → ∃ a, v = encode a) :
    optional (overlayMembers target source) name decode =
      .ok (some ((((obj source).given? name).bind read?).getD a)) := by
  have hnodup : (Keyed.keys source).Nodup := Keyed.Sorted.nodup_keys hsource.1
  cases hv : (obj source).given? name with
  | none =>
    rw [Option.bind_none, Option.getD_none]
    refine optional_of_lookup ?_ (hdecode a)
    rw [lookup_overlay_of_none hv hnodup, hbelow]
  | some v =>
    obtain ⟨b, rfl⟩ := hgiven v hv
    rw [Option.bind_some, hread, Option.getD_some]
    refine optional_of_lookup ?_ (hdecode b)
    rw [lookup_overlay_of_some hv hnodup, hbelow, laidOver, hleaf]

/-- Lists that are laid over an empty table are decoded to the lists that are given. -/
theorem asTable_overlay {j : Json} (hj : j.Canonical) (h : j.IsLists) :
    asTable asTexts (overlay (.obj []) j) = .ok j.lists := by
  obtain ⟨ms, rfl, hms⟩ := h
  rw [overlay_obj, overlayMembers_nil hj.1]
  exact decodeMembers_lists hms

end Json

/-! ### Decoding an overlay -/

variable {user : Json}

theorem ContextSettings.ofJson_overlay (hcanonical : user.Canonical) (h : user.SettingsShaped) :
    ofJson (Json.overlay default.toJson (user.part "contexts")) =
      .ok ⟨((user.part "contexts").part "worldRewrites").lists,
        (((user.part "contexts").given? "suppressUnmatchedWorlds").bind Json.bool?).getD false,
        ((user.part "contexts").part "staticContexts").lists⟩ := by
  have hpart : (user.part "contexts").Canonical := Json.canonical_part hcanonical _
  have hrewrites := Json.asTable_overlay (Json.canonical_part hpart "worldRewrites")
    (Json.isLists_part h.worldRewrites)
  have hstatics := Json.asTable_overlay (Json.canonical_part hpart "staticContexts")
    (Json.isLists_part h.staticContexts)
  have hswitch := h.suppressUnmatchedWorlds
  obtain ⟨ms, hms⟩ := Json.isObject_part h.contexts
  rw [hms] at hpart hrewrites hstatics hswitch ⊢
  -- the lower document is known by what it holds
  obtain ⟨target, htarget, hlists, hlists', hbool⟩ : ∃ target, default.toJson = .obj target ∧
      Keyed.lookup "worldRewrites" target = some (.obj []) ∧
      Keyed.lookup "staticContexts" target = some (.obj []) ∧
      Keyed.lookup "suppressUnmatchedWorlds" target = some (.bool false) :=
    ⟨_, rfl, rfl, rfl, rfl⟩
  have hread : ∀ b, Json.bool? (.bool b) = some b := fun _ => rfl
  have hdecode : ∀ b, Json.asBool (.bool b) = .ok b := fun _ => rfl
  have hleaf : ∀ d b, Json.overlay d (.bool b) = .bool b := fun d _ => by cases d <;> rfl
  rw [htarget, Json.overlay_obj]
  simp only [ofJson, listsOfJson, bind, Except.bind, Option.getD_some,
    Json.optional_overlay_part hpart hlists hrewrites,
    Json.optional_overlay_part hpart hlists' hstatics,
    Json.optional_overlay_leaf hdecode hread hleaf hpart hbool hswitch]

theorem LoggingSettings.ofJson_overlay (hcanonical : user.Canonical) (h : user.SettingsShaped) :
    ofJson (Json.overlay default.toJson (user.part "logging")) =
      .ok ⟨(((user.part "logging").given? "level").bind Json.text?).getD default.level⟩ := by
  have hpart : (user.part "logging").Canonical := Json.canonical_part hcanonical _
  have hlevel := h.level
  obtain ⟨ms, hms⟩ := Json.isObject_part h.logging
  rw [hms] at hpart hlevel ⊢
  obtain ⟨target, htarget, htext⟩ : ∃ target, default.toJson = .obj target ∧
      Keyed.lookup "level" target = some (.str default.level) := ⟨_, rfl, rfl⟩
  have hread : ∀ s, Json.text? (.str s) = some s := fun _ => rfl
  have hdecode : ∀ s, Json.asText (.str s) = .ok s := fun _ => rfl
  have hleaf : ∀ d s, Json.overlay d (.str s) = .str s := fun d _ => by cases d <;> rfl
  rw [htarget, Json.overlay_obj]
  simp only [ofJson, bind, Except.bind, Option.getD_some,
    Json.optional_overlay_leaf hdecode hread hleaf hpart htext hlevel]

namespace Settings

/-- A document of the right shape, laid over the defaults, is decoded to what it gives. -/
theorem ofJson_overlay (hcanonical : user.Canonical) (h : user.SettingsShaped) :
    ofJson (Json.overlay default.toJson user) = .ok (layered user ⟨none, none⟩) := by
  have hcontexts := ContextSettings.ofJson_overlay hcanonical h
  have hlogging := LoggingSettings.ofJson_overlay hcanonical h
  obtain ⟨ms, rfl⟩ := h.document
  obtain ⟨target, htarget, hlower, hlower'⟩ : ∃ target, default.toJson = .obj target ∧
      Keyed.lookup "contexts" target = some ContextSettings.default.toJson ∧
      Keyed.lookup "logging" target = some LoggingSettings.default.toJson := ⟨_, rfl, rfl, rfl⟩
  rw [htarget, Json.overlay_obj]
  simp only [ofJson, bind, Except.bind, Option.getD_some,
    Json.optional_overlay_part hcanonical hlower hcontexts,
    Json.optional_overlay_part hcanonical hlower' hlogging]
  rfl

/-- What the environment gives comes over what the document gives. -/
theorem apply_layered (user : Json) (o : Overrides) :
    o.apply (layered user ⟨none, none⟩) = layered user o := by
  obtain ⟨level, switch⟩ := o
  have hlevel : ((Overrides.mk level switch).apply (layered user ⟨none, none⟩)).logging =
      (layered user ⟨level, switch⟩).logging := by
    cases level with
    | none => rfl
    | some v => by_cases hv : v.isEmpty <;> simp [Overrides.apply, layered, Option.filter, hv]
  have hswitch : ((Overrides.mk level switch).apply (layered user ⟨none, none⟩)).contexts =
      (layered user ⟨level, switch⟩).contexts := by
    cases hread : switch.bind readSwitch <;> simp [Overrides.apply, layered, hread]
  exact congrArg₂ Settings.mk hswitch hlevel

/-- A file holds a document if it is that document that is laid over the defaults. -/
theorem document_of_document? {file : SettingsFile} (h : file.document? = some user) :
    document file = .ok (Json.overlay default.toJson user) ∧ user.Canonical := by
  cases file with
  | missing =>
    obtain rfl := Option.some.inj h
    -- the empty object changes nothing
    obtain ⟨target, htarget⟩ : ∃ target, default.toJson = .obj target := ⟨_, rfl⟩
    refine ⟨?_, Keyed.sorted_nil, trivial⟩
    rw [htarget, Json.overlay_obj, Json.overlayMembers, ← htarget]
    rfl
  | unreadable => simp [SettingsFile.document?] at h
  | text s =>
    simp only [SettingsFile.document?] at h
    cases hread : Json.read s with
    | error f => simp [hread, Except.toOption] at h
    | ok j =>
      obtain rfl : j = user := by simpa [hread, Except.toOption] using h
      refine ⟨?_, Json.canonical_of_read hread⟩
      simp only [document, hread]

/-- **Settings are loaded in layers.** From a file that is not there, or that holds a
    document of the right shape, and from any environment, loading makes the settings
    `layered user o`: it returns them if they are accepted, and refuses them with the fault
    that is found otherwise. -/
theorem load_layers {file : SettingsFile} (hfile : file.document? = some user)
    (h : user.SettingsShaped) (o : Overrides) :
    (load file o = .ok (layered user o) ↔ (layered user o).contexts.check = .ok ()) ∧
      ∀ f, (layered user o).contexts.check = .error f → load file o = .error (.refused f) := by
  obtain ⟨hdocument, hcanonical⟩ := document_of_document? hfile
  cases hcheck : (layered user o).contexts.check with
  | error f =>
    have hload : load file o = .error (.refused f) := by
      unfold load
      rw [hdocument]
      simp only [bind, Except.bind, ofJson_overlay hcanonical h, apply_layered, hcheck]
    simp [hload]
  | ok =>
    have hload : load file o = .ok (layered user o) := by
      unfold load
      rw [hdocument]
      simp only [bind, Except.bind, ofJson_overlay hcanonical h, apply_layered, hcheck]
    simp [hload]

/-- A document with members that are null, and with one of a name that is not known. -/
def sparseDocument (key : String) : Json :=
  .obj [("contexts", .obj [
      ("staticContexts", .obj [(key, Json.strs ["east"])]),
      ("suppressUnmatchedWorlds", .bool true),
      ("worldRewrites", .obj [("arena", .null), ("lobby", Json.strs ["hall"])])]),
    ("logging", .null), ("note", .arr [.null])]

theorem sparseDocument_readable (key : String) :
    Json.Readable Json.maxDepth (sparseDocument key) := by
  simp only [sparseDocument, Json.Readable, Json.ReadableMembers, Json.ReadableItems, Json.strs,
    Keyed.Sorted, List.pairwise_cons, List.forall_mem_cons, List.map_cons, List.map_nil,
    String.lt_iff_toList_lt]
  simp only [List.not_mem_nil, false_imp_iff, implies_true, List.Pairwise.nil, and_true]
  decide

theorem sparseDocument_shaped (key : String) : (sparseDocument key).SettingsShaped where
  document := ⟨_, rfl⟩
  contexts j hj := by
    obtain rfl := Option.some.inj hj
    exact ⟨_, rfl⟩
  logging j hj := by
    have hnone : (sparseDocument key).given? "logging" = none := rfl
    simp [hnone] at hj
  worldRewrites j hj := by
    obtain rfl := Option.some.inj hj
    refine ⟨_, rfl, ?_⟩
    simp
  staticContexts j hj := by
    obtain rfl := Option.some.inj hj
    refine ⟨_, rfl, ?_⟩
    simp
  suppressUnmatchedWorlds j hj := by
    obtain rfl := Option.some.inj hj
    exact ⟨true, rfl⟩
  level j hj := by
    have hnone : ((sparseDocument key).part "logging").given? "level" = none := rfl
    simp [hnone] at hj

/-- With a valid static key the document is loaded, under an environment that turns the switch
    off and gives no level. With another key it is refused. -/
theorem load_layers_sparseDocument :
    load (.text (sparseDocument "server").compact) ⟨some "", some "No"⟩ =
        .ok ⟨⟨[("lobby", ["hall"])], false, [("server", ["east"])]⟩, ⟨"warn"⟩⟩ ∧
      load (.text (sparseDocument "a=b").compact) ⟨none, none⟩ =
        .error (.refused (.invalidStaticKey "a=b")) := by
  have hfile : ∀ key, (SettingsFile.text (sparseDocument key).compact).document? =
      some (sparseDocument key) := by
    intro key
    simp only [SettingsFile.document?, Json.read_compact (sparseDocument_readable key)]
    rfl
  refine ⟨?_, ?_⟩
  · have hlayered : layered (sparseDocument "server") ⟨some "", some "No"⟩ =
        ⟨⟨[("lobby", ["hall"])], false, [("server", ["east"])]⟩, ⟨"warn"⟩⟩ := by
      decide +kernel
    have hload := load_layers (hfile "server") (sparseDocument_shaped "server")
      ⟨some "", some "No"⟩
    rw [hlayered] at hload
    exact hload.1.mpr (by decide +kernel)
  · exact (load_layers (hfile "a=b") (sparseDocument_shaped "a=b") ⟨none, none⟩).2 _
      (by decide +kernel)

end Settings

end PermissionContexts
