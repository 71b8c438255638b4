import PermissionContexts.Proofs.ContextJson
import PermissionContexts.Proofs.Paths

/-! # Settings laid over settings

    Settings are written with all their members, so where one written document is laid over
    another everything is given:

    * the **level** and the **switch** are those of the upper settings, and
    * the two **tables** of the lower settings are overridden key by key, each list as a
      whole (`Keyed.overriddenBy`).

    The default tables are empty. So the written settings, laid over the defaults, are the
    same settings again (`default_overriddenBy`), and a file that holds them is loaded to
    them. In the file the members may stand in any order, such as that of their declaration
    (`declared`).

    Main statement: `written_settings_override`.
-/

namespace PermissionContexts

/-! ### Tables -/

namespace Keyed

variable {β γ : Type} {m n : Keyed β}

/-- `m` with the pairs of `n` put in, in place of those with the same keys. -/
def overriddenBy (m n : Keyed β) : Keyed β :=
  n.foldl (fun m e => insert e.1 e.2 m) m

theorem lookup_overriddenBy (hn : n.keys.Nodup) (k : String) :
    (m.overriddenBy n).lookup k = (n.lookup k).or (m.lookup k) :=
  lookup_foldl_insert hn k

theorem mapValues_insert (f : β → γ) (k : String) (v : β) (m : Keyed β) :
    mapValues f (Keyed.insert k v m) = Keyed.insert k (f v) (mapValues f m) := by
  induction m with
  | nil => rfl
  | cons e m ih =>
    show _ = Keyed.insert k (f v) ((e.1, f e.2) :: mapValues f m)
    rw [Keyed.insert, Keyed.insert]
    split_ifs
    · rfl
    · rfl
    · show (e.1, f e.2) :: mapValues f (Keyed.insert k v m) = _
      rw [ih]

end Keyed

namespace Json

variable {α : Type} {target source : List (String × Json)} {name : String} {below v : Json}

theorem overlay_strs (j : Json) (ss : List String) : overlay j (strs ss) = strs ss :=
  overlay_of_source (by simp [IsObject, strs])

/-- Tables of lists are overlaid key by key, and the lists are replaced as a whole. -/
theorem overlay_listsJson (t u : Keyed (List String)) :
    overlay (ContextSettings.listsJson t) (ContextSettings.listsJson u) =
      ContextSettings.listsJson (t.overriddenBy u) := by
  unfold ContextSettings.listsJson
  rw [overlay_obj]
  refine congrArg Json.obj ?_
  -- both sides put in the keys of the upper table in turn, each into what the last step left
  induction u generalizing t with
  | nil => exact overlayMembers.eq_1 _
  | cons e u ih =>
    show overlayMembers _ ((e.1, strs e.2) :: Keyed.mapValues strs u) =
      Keyed.mapValues strs ((Keyed.insert e.1 e.2 t).overriddenBy u)
    have hlaid : (strs e.2).laidOver (Keyed.lookup e.1 (Keyed.mapValues strs t)) = strs e.2 := by
      cases Keyed.lookup e.1 (Keyed.mapValues strs t) with
      | none => rfl
      | some below => exact overlay_strs below e.2
    have hstep : layMember (Keyed.mapValues strs t) (e.1, strs e.2) =
        Keyed.mapValues strs (Keyed.insert e.1 e.2 t) := by
      unfold layMember
      rw [if_neg (by simp [isNull, strs]), hlaid, Keyed.mapValues_insert]
    rw [overlayMembers_cons, hstep, ih]

/-- A member of both documents is overlaid and decoded then. -/
theorem optional_overlay {decode : Json → Except ShapeFault α} {a : α}
    (hnodup : (Keyed.keys source).Nodup) (hv : Keyed.lookup name source = some v)
    (hnull : v.isNull = false) (hbelow : Keyed.lookup name target = some below)
    (hdecode : decode (overlay below v) = .ok a) :
    optional (overlayMembers target source) name decode = .ok (some a) := by
  refine optional_of_lookup ?_ hdecode
  rw [lookup_overlay_of_some (given?_of_lookup hv hnull) hnodup, hbelow, laidOver]

end Json

/-! ### Settings -/

namespace ContextSettings

variable {c d : ContextSettings}

/-- Both tables are in the order of their keys. -/
structure Ordered (c : ContextSettings) : Prop where
  worldRewrites : c.worldRewrites.Sorted
  staticContexts : c.staticContexts.Sorted

/-- The settings `c` with those of `d` over them. -/
def overriddenBy (c d : ContextSettings) : ContextSettings where
  worldRewrites := c.worldRewrites.overriddenBy d.worldRewrites
  suppressUnmatchedWorlds := d.suppressUnmatchedWorlds
  staticContexts := c.staticContexts.overriddenBy d.staticContexts

theorem Ordered.overriddenBy (hc : c.Ordered) (d : ContextSettings) :
    (c.overriddenBy d).Ordered :=
  ⟨hc.worldRewrites.foldl_insert _, hc.staticContexts.foldl_insert _⟩

theorem default_overriddenBy (hc : c.Ordered) : default.overriddenBy c = c := by
  have hrewrites : Keyed.overriddenBy [] c.worldRewrites = c.worldRewrites :=
    hc.worldRewrites.ofPairs_eq
  have hstatics : Keyed.overriddenBy [] c.staticContexts = c.staticContexts :=
    hc.staticContexts.ofPairs_eq
  unfold ContextSettings.overriddenBy default
  rw [hrewrites, hstatics]

theorem listsOfJson_overlay (t u : Keyed (List String)) :
    listsOfJson (Json.overlay (listsJson t) (listsJson u)) = .ok (t.overriddenBy u) := by
  rw [Json.overlay_listsJson]
  exact Json.decodeMembers_mapValues Json.asTexts_strs _

theorem ofJson_overlay_toJson (c d : ContextSettings) :
    ofJson (Json.overlay c.toJson d.toJson) = .ok (c.overriddenBy d) := by
  obtain ⟨target, htarget, hrewrites, hswitch, hstatics⟩ : ∃ target, c.toJson = .obj target ∧
      Keyed.lookup "worldRewrites" target = some (listsJson c.worldRewrites) ∧
      Keyed.lookup "suppressUnmatchedWorlds" target = some (.bool c.suppressUnmatchedWorlds) ∧
      Keyed.lookup "staticContexts" target = some (listsJson c.staticContexts) :=
    ⟨_, rfl, rfl, rfl, rfl⟩
  obtain ⟨source, hsource, hnodup, hrewrites', hswitch', hstatics'⟩ : ∃ source,
      d.toJson = .obj source ∧ (Keyed.keys source).Nodup ∧
      Keyed.lookup "worldRewrites" source = some (listsJson d.worldRewrites) ∧
      Keyed.lookup "suppressUnmatchedWorlds" source = some (.bool d.suppressUnmatchedWorlds) ∧
      Keyed.lookup "staticContexts" source = some (listsJson d.staticContexts) :=
    ⟨_, rfl, by simp [Keyed.keys], rfl, rfl, rfl⟩
  have hbool : Json.asBool (Json.overlay (.bool c.suppressUnmatchedWorlds)
      (.bool d.suppressUnmatchedWorlds)) = .ok d.suppressUnmatchedWorlds := rfl
  rw [htarget, hsource, Json.overlay_obj]
  -- every member is in both documents, so that each is overlaid and decoded by itself
  simp only [ofJson, bind, Except.bind, Option.getD_some,
    Json.optional_overlay hnodup hrewrites' rfl hrewrites (listsOfJson_overlay _ _),
    Json.optional_overlay hnodup hstatics' rfl hstatics (listsOfJson_overlay _ _),
    Json.optional_overlay hnodup hswitch' rfl hswitch hbool]
  rfl

/-- The settings as JSON, with the members in the order of their declaration. -/
def declared (c : ContextSettings) : Json :=
  .obj [("worldRewrites", listsJson c.worldRewrites),
    ("suppressUnmatchedWorlds", .bool c.suppressUnmatchedWorlds),
    ("staticContexts", listsJson c.staticContexts)]

theorem readable_listsJson {t : Keyed (List String)} (ht : t.Sorted) (depth : Nat) :
    Json.Readable (depth + 2) (listsJson t) :=
  Json.readable_table ht depth

theorem sorted_names : ["staticContexts", "suppressUnmatchedWorlds", "worldRewrites"].Pairwise
    (· < ·) := by
  decide

theorem Ordered.readable_toJson (hc : c.Ordered) (depth : Nat) :
    Json.Readable (depth + 3) c.toJson :=
  Json.readable_obj sorted_names ⟨readable_listsJson hc.staticContexts depth, trivial,
    readable_listsJson hc.worldRewrites depth, trivial⟩

theorem Ordered.writable_declared (hc : c.Ordered) (depth : Nat) :
    Json.Writable (depth + 3) c.declared :=
  ⟨Nat.succ_pos _, (readable_listsJson hc.worldRewrites depth).writable, trivial,
    (readable_listsJson hc.staticContexts depth).writable, trivial⟩

/-- The order of the declaration is the reverse of that of the names. -/
theorem Ordered.settled_declared (hc : c.Ordered) : c.declared.settled = c.toJson := by
  have hrewrites := (readable_listsJson hc.worldRewrites 0).settled_eq
  have hstatics := (readable_listsJson hc.staticContexts 0).settled_eq
  refine (hc.readable_toJson 0).settled_eq_of_perm ?_
  simp only [Json.settledMembers, Json.settled, hrewrites, hstatics]
  exact (List.reverse_perm _).symm

end ContextSettings

theorem LoggingSettings.ofJson_overlay_toJson (l m : LoggingSettings) :
    ofJson (Json.overlay l.toJson m.toJson) = .ok m := by
  have hlevel : Json.optional (Json.overlayMembers [("level", .str l.level)]
      [("level", .str m.level)]) "level" Json.asText = .ok (some m.level) :=
    Json.optional_overlay (by simp [Keyed.keys]) rfl rfl rfl rfl
  unfold toJson
  rw [Json.overlay_obj]
  simp only [ofJson, hlevel, bind, Except.bind, Option.getD_some]

namespace Settings

variable {s t : Settings}

/-- The settings `s` with those of `t` over them. -/
def overriddenBy (s t : Settings) : Settings :=
  ⟨s.contexts.overriddenBy t.contexts, t.logging⟩

/-- Written settings that are laid over others override them. -/
theorem ofJson_overlay_toJson (s t : Settings) :
    ofJson (Json.overlay s.toJson t.toJson) = .ok (s.overriddenBy t) := by
  obtain ⟨target, htarget, hcontexts, hlogging⟩ : ∃ target, s.toJson = .obj target ∧
      Keyed.lookup "contexts" target = some s.contexts.toJson ∧
      Keyed.lookup "logging" target = some s.logging.toJson := ⟨_, rfl, rfl, rfl⟩
  obtain ⟨source, hsource, hnodup, hcontexts', hlogging'⟩ : ∃ source, t.toJson = .obj source ∧
      (Keyed.keys source).Nodup ∧ Keyed.lookup "contexts" source = some t.contexts.toJson ∧
      Keyed.lookup "logging" source = some t.logging.toJson :=
    ⟨_, rfl, by simp [Keyed.keys], rfl, rfl⟩
  rw [htarget, hsource, Json.overlay_obj]
  simp only [ofJson, bind, Except.bind, Option.getD_some,
    Json.optional_overlay hnodup hcontexts' rfl hcontexts
      (ContextSettings.ofJson_overlay_toJson s.contexts t.contexts),
    Json.optional_overlay hnodup hlogging' rfl hlogging
      (LoggingSettings.ofJson_overlay_toJson s.logging t.logging)]
  rfl

theorem default_overriddenBy (hs : s.contexts.Ordered) : default.overriddenBy s = s := by
  unfold overriddenBy default
  rw [ContextSettings.default_overriddenBy hs]

/-! ### Files -/

/-- The settings as JSON, with the members in the order of their declaration. -/
def declared (s : Settings) : Json :=
  .obj [("contexts", s.contexts.declared), ("logging", s.logging.toJson)]

theorem sorted_names : ["contexts", "logging"].Pairwise (· < ·) := by
  decide

theorem readable_logging (l : LoggingSettings) (depth : Nat) :
    Json.Readable (depth + 1) l.toJson :=
  Json.readable_obj (List.pairwise_singleton ..) ⟨trivial, trivial⟩

theorem readable_toJson (hs : s.contexts.Ordered) : Json.Readable Json.maxDepth s.toJson :=
  Json.readable_obj sorted_names
    ⟨hs.readable_toJson 123, readable_logging s.logging 125, trivial⟩

theorem writable_declared (hs : s.contexts.Ordered) : Json.Writable Json.maxDepth s.declared :=
  ⟨by decide, hs.writable_declared 123, (readable_logging s.logging 125).writable, trivial⟩

theorem settled_declared (hs : s.contexts.Ordered) : s.declared.settled = s.toJson := by
  have hcontexts : s.contexts.declared.settled = s.contexts.toJson.settled := by
    rw [hs.settled_declared, (hs.readable_toJson 0).settled_eq]
  have hdeclared : s.declared.settled = s.toJson.settled := by
    unfold declared toJson
    simp only [Json.settled, Json.settledMembers, hcontexts]
  rw [hdeclared, (readable_toJson hs).settled_eq]

/-- In either layout and either order of the members the settings are read alike. -/
theorem read_written (hs : s.contexts.Ordered) :
    ∀ text ∈ [s.toJson.compact, s.toJson.pretty, s.declared.compact, s.declared.pretty],
      Json.read text = .ok s.toJson :=
  Json.read_reordered (readable_toJson hs) (writable_declared hs) (settled_declared hs)

/-- A file is loaded to what its document makes of the defaults, if that is accepted. -/
theorem load_of_read {text : String} {doc : Json} (hread : Json.read text = .ok doc)
    (hdecode : ofJson (Json.overlay default.toJson doc) = .ok s)
    (hcheck : s.contexts.check = .ok ()) : load (.text text) ⟨none, none⟩ = .ok s := by
  have happly : (Overrides.mk none none).apply s = s := rfl
  unfold load document
  simp only [hread, bind, Except.bind, hdecode, happly, hcheck]

/-! ### Main statement -/

/-- **Written settings override**. For all settings `s` and `t`,

    1. `t`, written and laid over `s`, is decoded to settings with the level and the switch of
       `t` and, at each key of a table, the list of `t` if it has one and else that of `s`,
    2. over the defaults `t` comes back,
    3. if `t` is accepted, any file that is read as `t` is loaded to `t` where the environment
       gives nothing, and
    4. so are those that hold `t` in one line or over several, with the members of objects in
       the order of their names or of their declaration. -/
theorem written_settings_override (hs : s.contexts.Ordered) (ht : t.contexts.Ordered) :
    (∃ r, ofJson (Json.overlay s.toJson t.toJson) = .ok r ∧
      r.logging.level = t.logging.level ∧
      r.contexts.suppressUnmatchedWorlds = t.contexts.suppressUnmatchedWorlds ∧
      r.contexts.Ordered ∧
      ∀ k, r.contexts.worldRewrites.lookup k =
          (t.contexts.worldRewrites.lookup k).or (s.contexts.worldRewrites.lookup k) ∧
        r.contexts.staticContexts.lookup k =
          (t.contexts.staticContexts.lookup k).or (s.contexts.staticContexts.lookup k)) ∧
    ofJson (Json.overlay default.toJson t.toJson) = .ok t ∧
    (t.contexts.check = .ok () → ∀ text, Json.read text = .ok t.toJson →
      load (.text text) ⟨none, none⟩ = .ok t) ∧
    ∀ text ∈ [t.toJson.compact, t.toJson.pretty, t.declared.compact, t.declared.pretty],
      Json.read text = .ok t.toJson := by
  have hdefault : ofJson (Json.overlay default.toJson t.toJson) = .ok t := by
    rw [ofJson_overlay_toJson, default_overriddenBy ht]
  refine ⟨⟨s.overriddenBy t, ofJson_overlay_toJson s t, rfl, rfl, hs.overriddenBy _, ?_⟩,
    hdefault, ?_, read_written ht⟩
  · intro k
    exact ⟨Keyed.lookup_overriddenBy ht.worldRewrites.nodup_keys k,
      Keyed.lookup_overriddenBy ht.staticContexts.nodup_keys k⟩
  · intro hcheck text hread
    exact load_of_read hread hdefault hcheck

/-- Settings that hide a world, and some with another list under the same key. -/
def hiddenLobby : Settings :=
  ⟨⟨[("lobby", []), ("moon", ["space"])], false, [("server", ["east", "west"])]⟩, ⟨"debug"⟩⟩

def openLobby : Settings :=
  ⟨⟨[("arena", ["pit"]), ("lobby", ["hall"])], true, [("region", ["eu"])]⟩, ⟨"info"⟩⟩

/-- An empty list overrides one that is not, keys of one table only are kept, and the file with
    the upper settings is loaded to them. -/
theorem written_settings_override_lobby :
    (∃ r, ofJson (Json.overlay openLobby.toJson hiddenLobby.toJson) = .ok r ∧
      r.logging.level = "debug" ∧ r.contexts.suppressUnmatchedWorlds = false ∧
      r.contexts.worldRewrites.lookup "lobby" = some [] ∧
      r.contexts.worldRewrites.lookup "arena" = some ["pit"] ∧
      r.contexts.staticContexts.lookup "region" = some ["eu"]) ∧
      load (.text hiddenLobby.declared.pretty) ⟨none, none⟩ = .ok hiddenLobby := by
  have hopen : openLobby.contexts.Ordered :=
    ⟨List.pairwise_map.mp (by decide : ["arena", "lobby"].Pairwise (· < ·)),
      List.pairwise_singleton ..⟩
  have hhidden : hiddenLobby.contexts.Ordered :=
    ⟨List.pairwise_map.mp (by decide : ["lobby", "moon"].Pairwise (· < ·)),
      List.pairwise_singleton ..⟩
  obtain ⟨⟨r, hr, hlevel, hswitch, -, htables⟩, -, hload, hread⟩ :=
    written_settings_override hopen hhidden
  refine ⟨⟨r, hr, hlevel, hswitch, ?_, ?_, ?_⟩, ?_⟩
  · exact (htables "lobby").1
  · exact (htables "arena").1
  · exact (htables "region").2
  · exact hload (by decide +kernel) _ (hread _ (by simp))

end Settings

end PermissionContexts
