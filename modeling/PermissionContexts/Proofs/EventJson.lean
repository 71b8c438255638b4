import PermissionContexts.Event.Encoding
import PermissionContexts.Proofs.JsonText
import PermissionContexts.Proofs.ResourceKey

/-! # Events and world views come back from JSON

    An event is written in four formats, one inside the other, and each is read back by a
    decoder of its own:

    * **Keys** are texts in full form, which are read as any text is. What was read once is
      well formed, and then it comes back (`WellFormed.ofJson_toJson`).
    * **Places** that need not be known are keys or `null`.
    * **Actors** are objects with a kind and an identity, which may be any text.
    * **Events** are objects whose `type` is looked at first. The other members are buffered
      until then, and what is buffered is decoded in its own way.

    In a text the members may stand in any order. An encoder writes them in the order of
    their declaration, and the kind before them (`declared`).

    Main statement: `events_come_back_from_json`.
-/

namespace PermissionContexts

/-! ### World views -/

theorem WorldKind.ofJson_name (kind : WorldKind) : ofJson (.str kind.name) = .ok kind := by
  cases kind <;> rfl

namespace WorldView

variable {w : WorldView}

theorem ofJson_toJson (hkey : w.key.WellFormed) (hdimension : w.dimensionType.WellFormed) :
    ofJson w.toJson = .ok w := by
  unfold toJson ofJson
  dsimp only
  rw [Json.optional_of_lookup rfl hdimension.ofJson_toJson,
    Json.optional_of_lookup rfl hkey.ofJson_toJson,
    Json.optional_of_lookup rfl (WorldKind.ofJson_name w.kind)]
  rfl

/-- A view is an object of texts. -/
theorem readable_toJson (w : WorldView) (depth : Nat) : Json.Readable (depth + 1) w.toJson := by
  apply Json.readable_obj
  · show ["dimension_type", "key", "kind"].Pairwise (· < ·)
    decide
  · exact ⟨trivial, trivial, trivial, trivial⟩

/-- The view as JSON, with the members in the order of their declaration. -/
def declared (w : WorldView) : Json :=
  .obj [("key", w.key.toJson), ("dimension_type", w.dimensionType.toJson),
    ("kind", .str w.kind.name)]

theorem writable_declared (w : WorldView) (depth : Nat) :
    Json.Writable (depth + 1) w.declared :=
  ⟨Nat.succ_pos depth, trivial, trivial, trivial, trivial⟩

theorem settled_declared (w : WorldView) : w.declared.settled = w.toJson :=
  (w.readable_toJson 0).settled_eq_of_perm (.swap ..)

end WorldView

/-! ### Actors and phases -/

namespace Actor

/-- Inside an event an actor is decoded as it is on its own. -/
theorem ofBuffered_toJson (actor : Actor) : ofBuffered actor.toJson = .ok actor := by
  cases actor <;> rfl

theorem readable_toJson (actor : Actor) (depth : Nat) :
    Json.Readable (depth + 1) actor.toJson := by
  have hnames : ["id", "kind"].Pairwise (· < ·) := by decide
  cases actor with
  | subject id => exact Json.readable_obj hnames ⟨trivial, trivial, trivial⟩
  | other description => exact Json.readable_obj hnames ⟨trivial, trivial, trivial⟩

/-- The actor as JSON, the kind before the identity. -/
def declared : Actor → Json
  | .subject id => .obj [("kind", .str "subject"), ("id", .str id)]
  | .other description => .obj [("kind", .str "other"), ("id", .str description)]

theorem writable_declared (actor : Actor) (depth : Nat) :
    Json.Writable (depth + 1) actor.declared := by
  cases actor with
  | subject id => exact ⟨Nat.succ_pos depth, trivial, trivial, trivial⟩
  | other description => exact ⟨Nat.succ_pos depth, trivial, trivial, trivial⟩

theorem settled_declared (actor : Actor) : actor.declared.settled = actor.toJson := by
  have hreadable := actor.readable_toJson 0
  cases actor with
  | subject id => exact hreadable.settled_eq_of_perm (.swap ..)
  | other description => exact hreadable.settled_eq_of_perm (.swap ..)

end Actor

namespace HostEvent

theorem phaseOfJson_name (phase : TransitionPhase) :
    phaseOfJson (.str phase.name) = .ok phase := by
  cases phase <;> rfl

theorem sourceOfJson_sourceJson {source : Option ResourceKey}
    (h : ∀ k ∈ source, k.WellFormed) : sourceOfJson (sourceJson source) = .ok source := by
  cases source with
  | none => rfl
  | some k =>
    have hk : ResourceKey.ofJson k.toJson = .ok k := (h k rfl).ofJson_toJson
    show (ResourceKey.ofJson k.toJson).map some = _
    rw [hk]
    rfl

theorem readable_sourceJson (source : Option ResourceKey) (depth : Nat) :
    Json.Readable depth (sourceJson source) := by
  cases source with
  | none => trivial
  | some k => trivial

/-! ### Events -/

/-- The keys that an event names. -/
def keys : HostEvent → List ResourceKey
  | .subjectConnected _ => []
  | .worldChanged _ source target _ => source.toList ++ [target]
  | .gameModeChanged _ source target => source.toList ++ [target]
  | .subjectDisconnected _ => []

/-- Where an event names a place and the one before, both are among its keys. -/
theorem wellFormed_of_keys {source : Option ResourceKey} {target : ResourceKey}
    (h : ∀ k ∈ source.toList ++ [target], k.WellFormed) :
    (∀ k ∈ source, k.WellFormed) ∧ target.WellFormed := by
  constructor
  · intro k hk
    exact h k (List.mem_append_left _ (Option.mem_toList.mpr hk))
  · exact h target (List.mem_append_right _ List.mem_cons_self)

/-- An event comes back if the keys in it are well formed. The identity of the actor may be
    any text. -/
theorem ofJson_toJson (e : HostEvent) (h : ∀ k ∈ e.keys, k.WellFormed) :
    ofJson e.toJson = .ok e := by
  cases e with
  | subjectConnected actor =>
    show ofMembers _ .connected = _
    unfold ofMembers
    rw [Json.optional_of_lookup rfl actor.ofBuffered_toJson]
    rfl
  | worldChanged actor source target phase =>
    obtain ⟨hsource, htarget⟩ := wellFormed_of_keys h
    show ofMembers _ .worldChanged = _
    unfold ofMembers
    rw [Json.optional_of_lookup rfl actor.ofBuffered_toJson,
      Json.optional_of_lookup rfl (sourceOfJson_sourceJson hsource),
      Json.optional_of_lookup rfl (phaseOfJson_name phase),
      Json.optional_of_lookup rfl htarget.ofJson_toJson]
    rfl
  | gameModeChanged actor source target =>
    obtain ⟨hsource, htarget⟩ := wellFormed_of_keys h
    show ofMembers _ .gameModeChanged = _
    unfold ofMembers
    rw [Json.optional_of_lookup rfl actor.ofBuffered_toJson,
      Json.optional_of_lookup rfl (sourceOfJson_sourceJson hsource),
      Json.optional_of_lookup rfl htarget.ofJson_toJson]
    rfl
  | subjectDisconnected actor =>
    show ofMembers _ .disconnected = _
    unfold ofMembers
    rw [Json.optional_of_lookup rfl actor.ofBuffered_toJson]
    rfl

/-- An event is an object of texts and an actor. -/
theorem readable_toJson (e : HostEvent) (depth : Nat) : Json.Readable (depth + 2) e.toJson := by
  have hactorType : ["actor", "type"].Pairwise (· < ·) := by decide
  have hmoved : ["actor", "from", "phase", "to", "type"].Pairwise (· < ·) := by decide
  have hchanged : ["actor", "from", "to", "type"].Pairwise (· < ·) := by decide
  cases e with
  | subjectConnected actor =>
    exact Json.readable_obj hactorType ⟨actor.readable_toJson depth, trivial, trivial⟩
  | worldChanged actor source target phase =>
    exact Json.readable_obj hmoved ⟨actor.readable_toJson depth,
      readable_sourceJson source (depth + 1), trivial, trivial, trivial, trivial⟩
  | gameModeChanged actor source target =>
    exact Json.readable_obj hchanged ⟨actor.readable_toJson depth,
      readable_sourceJson source (depth + 1), trivial, trivial, trivial⟩
  | subjectDisconnected actor =>
    exact Json.readable_obj hactorType ⟨actor.readable_toJson depth, trivial, trivial⟩

/-- The event as JSON, its kind first and then the other members in the order of their
    declaration. -/
def declared : HostEvent → Json
  | .subjectConnected a => .obj [("type", .str "subject_connected"), ("actor", a.declared)]
  | .worldChanged a source target phase =>
    .obj [("type", .str "world_changed"), ("actor", a.declared), ("from", sourceJson source),
      ("to", target.toJson), ("phase", .str phase.name)]
  | .gameModeChanged a source target =>
    .obj [("type", .str "game_mode_changed"), ("actor", a.declared),
      ("from", sourceJson source), ("to", target.toJson)]
  | .subjectDisconnected a =>
    .obj [("type", .str "subject_disconnected"), ("actor", a.declared)]

theorem writable_declared (e : HostEvent) (depth : Nat) :
    Json.Writable (depth + 2) e.declared := by
  have hpos : 0 < depth + 2 := Nat.succ_pos _
  cases e with
  | subjectConnected actor => exact ⟨hpos, trivial, actor.writable_declared depth, trivial⟩
  | worldChanged actor source target phase =>
    exact ⟨hpos, trivial, actor.writable_declared depth,
      (readable_sourceJson source (depth + 1)).writable, trivial, trivial, trivial⟩
  | gameModeChanged actor source target =>
    exact ⟨hpos, trivial, actor.writable_declared depth,
      (readable_sourceJson source (depth + 1)).writable, trivial, trivial⟩
  | subjectDisconnected actor => exact ⟨hpos, trivial, actor.writable_declared depth, trivial⟩

/-- In the order of the names the kind comes last, and the phase comes before the place. -/
theorem settled_declared (e : HostEvent) : e.declared.settled = e.toJson := by
  have hreadable := e.readable_toJson 0
  have hsource : ∀ source, (sourceJson source).settled = sourceJson source := fun source =>
    (readable_sourceJson source 0).settled_eq
  -- the kind is moved behind the other members
  have hlast : ∀ (type : String × Json) (ms : List (String × Json)),
      (type :: ms).Perm (ms ++ [type]) := fun type ms => (List.perm_append_singleton type ms).symm
  cases e with
  | subjectConnected actor =>
    refine hreadable.settled_eq_of_perm ?_
    simp only [Json.settledMembers, Json.settled, actor.settled_declared]
    exact hlast _ _
  | worldChanged actor source target phase =>
    refine hreadable.settled_eq_of_perm ?_
    simp only [Json.settledMembers, Json.settled, actor.settled_declared, hsource]
    exact (hlast _ _).trans (.cons _ (.cons _ (.swap ..)))
  | gameModeChanged actor source target =>
    refine hreadable.settled_eq_of_perm ?_
    simp only [Json.settledMembers, Json.settled, actor.settled_declared, hsource]
    exact hlast _ _
  | subjectDisconnected actor =>
    refine hreadable.settled_eq_of_perm ?_
    simp only [Json.settledMembers, Json.settled, actor.settled_declared]
    exact hlast _ _

/-! ### Main statement -/

/-- **Events and world views come back from JSON**.

    1. An event whose keys were read from texts is decoded from its own JSON. This is what is
       read from the written JSON in either layout, with the members in the order of their
       names, or in the order of their declaration behind the kind.
    2. So it is with a world view. -/
theorem events_come_back_from_json :
    (∀ e : HostEvent, (∀ k ∈ e.keys, ∃ s, ResourceKey.parse s = .ok k) →
      ofJson e.toJson = .ok e ∧
        ∀ text ∈ [e.toJson.compact, e.toJson.pretty, e.declared.compact, e.declared.pretty],
          Json.read text = .ok e.toJson) ∧
    ∀ w : WorldView, (∃ s, ResourceKey.parse s = .ok w.key) →
      (∃ s, ResourceKey.parse s = .ok w.dimensionType) →
      WorldView.ofJson w.toJson = .ok w ∧
        ∀ text ∈ [w.toJson.compact, w.toJson.pretty, w.declared.compact, w.declared.pretty],
          Json.read text = .ok w.toJson := by
  constructor
  · intro e he
    have hkeys : ∀ k ∈ e.keys, k.WellFormed := fun k hk => ResourceKey.exists_parse_iff.mp (he k hk)
    have hreadable : Json.Readable Json.maxDepth e.toJson := e.readable_toJson 125
    exact ⟨e.ofJson_toJson hkeys,
      Json.read_reordered hreadable (e.writable_declared 125) e.settled_declared⟩
  · intro w hkey hdimension
    have hback : WorldView.ofJson w.toJson = .ok w :=
      WorldView.ofJson_toJson (ResourceKey.exists_parse_iff.mp hkey)
        (ResourceKey.exists_parse_iff.mp hdimension)
    have hreadable : Json.Readable Json.maxDepth w.toJson := w.readable_toJson 126
    exact ⟨hback, Json.read_reordered hreadable (w.writable_declared 126) w.settled_declared⟩

/-- A mob with a line break in its description comes from a world of another namespace, which
    was written in capitals. -/
def homecoming : HostEvent :=
  .worldChanged (.other "a \"mob\"\n") (some ⟨"mymod", "Lobby"⟩) ⟨"minecraft", "overworld"⟩ .post

/-- How that world is seen. -/
def lobbyView : WorldView :=
  ⟨⟨"mymod", "Lobby"⟩, ⟨"minecraft", "overworld"⟩, .server⟩

theorem events_come_back_from_json_homecoming :
    ResourceKey.parse "MyMod:Lobby" = .ok ⟨"mymod", "Lobby"⟩ ∧
      ResourceKey.parse "overworld" = .ok ⟨"minecraft", "overworld"⟩ ∧
      ofJson homecoming.toJson = .ok homecoming ∧
      Json.read homecoming.declared.compact = .ok homecoming.toJson ∧
      WorldView.ofJson lobbyView.toJson = .ok lobbyView := by
  obtain ⟨hevents, hviews⟩ := events_come_back_from_json
  have hlobby : ResourceKey.parse "MyMod:Lobby" = .ok ⟨"mymod", "Lobby"⟩ := by decide +kernel
  have hoverworld : ResourceKey.parse "overworld" = .ok ⟨"minecraft", "overworld"⟩ := by
    decide +kernel
  have hkeys : ∀ k ∈ homecoming.keys, ∃ s, ResourceKey.parse s = .ok k := by
    intro k hk
    have hk : k ∈ [⟨"mymod", "Lobby"⟩, ⟨"minecraft", "overworld"⟩] := hk
    rcases List.mem_pair.mp hk with rfl | rfl
    · exact ⟨_, hlobby⟩
    · exact ⟨_, hoverworld⟩
  obtain ⟨hback, hread⟩ := hevents homecoming hkeys
  obtain ⟨hview, -⟩ := hviews lobbyView ⟨_, hlobby⟩ ⟨_, hoverworld⟩
  exact ⟨hlobby, hoverworld, hback, hread _ (by simp), hview⟩

end HostEvent

end PermissionContexts
