import PermissionContexts.Event.Basic

/-! # Events as JSON

    An event is an object whose member `type` names its kind and whose other members
    are its fields; an actor is an object with a `kind` and an `id`. The place that
    an actor comes from is `null` when it is not known, and may be missing when it is
    read.

    An event may also be an array that starts with the name of its kind. Its fields
    are only looked at once the kind is known; until then they are **buffered**, and
    what was buffered is taken a little differently: an empty object passes for
    `null` beside a name, an actor that is an array may give its kind by number, and
    an array with too many items is reported by the number of items that were
    wanted.
-/

namespace PermissionContexts

/-- Whether a value passes for nothing beside a name in a buffered part. -/
def isBufferedUnit : Json → Bool
  | .null => true
  | .obj [] => true
  | _ => false

/-- Decodes a name out of a fixed choice in a buffered part. -/
def asBufferedChoice {α : Type} (choices : List (String × α)) : Json → Except ShapeFault α :=
  Json.asChoiceWith isBufferedUnit choices

/-- Decodes a name out of a fixed choice that is a text, or its number counted from
    zero, in a buffered part. -/
def asBufferedChoiceText {α : Type} (choices : List (String × α)) : Json → Except ShapeFault α
  | .int n =>
    if n < 0 then .error ((Json.int n).mismatch "variant identifier")
    else
      match choices[n.toNat]? with
      | some c => .ok c.2
      | none =>
        .error (.wrongValue (.int n)
          ("variant index 0 <= i < " ++ String.ofList (Decimal.digitChars choices.length)))
  | j => Json.asChoiceText choices j

/-- What is said of a buffered array of `length` items where `wanted` were
    looked at. -/
def bufferedTooLong (length wanted : Nat) : ShapeFault :=
  .wrongLength length
    (if wanted = 1 then "1 element in sequence"
      else String.ofList (Decimal.digitChars wanted) ++ " elements in sequence")

namespace TransitionPhase

/-- The phases by their written names. -/
def names : List (String × TransitionPhase) :=
  [("pre", .pre), ("post", .post)]

/-- The written name of a phase. -/
def name : TransitionPhase → String
  | .pre => "pre"
  | .post => "post"

/-- Decodes a phase. -/
def ofJson : Json → Except ShapeFault TransitionPhase :=
  Json.asChoice names

end TransitionPhase

namespace Actor

/-- The kinds of actors by their written names. -/
def kinds : List (String × (String → Actor)) :=
  [("subject", .subject), ("other", .other)]

/-- The actor as JSON. -/
def toJson : Actor → Json
  | .subject id => .obj [("id", .str id), ("kind", .str "subject")]
  | .other description => .obj [("id", .str description), ("kind", .str "other")]

/-- What an actor is called in messages. -/
def shapeName : String := "adjacently tagged enum Actor"

/-- Decodes an actor from an object, or from an array with kind and id. The kind is
    decoded by `member` in an object and by `item` in an array; an array of more than
    two items is reported by `tooLong`. -/
def ofJsonWith (member item : Json → Except ShapeFault (String → Actor))
    (tooLong : List Json → ShapeFault) : Json → Except ShapeFault Actor
  | .obj ms =>
    match Keyed.lookup "kind" ms with
    | none => .error (.missingMember "kind")
    | some kind => do
      let make ← member kind
      match Keyed.lookup "id" ms with
      | none => .error (.missingMember "id")
      | some id => do
        let id ← id.asText
        .ok (make id)
  | .arr [] => .error (.wrongLength 0 shapeName)
  | .arr [kind] => do
    let _ ← item kind
    .error (.wrongLength 1 shapeName)
  | .arr (kind :: id :: rest) => do
    let make ← item kind
    let id ← id.asText
    if rest.isEmpty then .ok (make id) else .error (tooLong (kind :: .str id :: rest))
  | j => .error (j.mismatch shapeName)

/-- Decodes an actor on its own. -/
def ofJson : Json → Except ShapeFault Actor :=
  ofJsonWith (Json.asChoice kinds) (Json.asChoiceText kinds) Json.tooLong

/-- Decodes an actor inside an event. -/
def ofBuffered : Json → Except ShapeFault Actor :=
  ofJsonWith (asBufferedChoice kinds) (asBufferedChoiceText kinds)
    fun items => bufferedTooLong items.length 2

end Actor

namespace HostEvent

/-- The kinds of events, without their fields. -/
inductive Kind where
  /-- The actor joined. -/
  | connected
  /-- The actor moves or moved. -/
  | worldChanged
  /-- The game mode changed. -/
  | gameModeChanged
  /-- The actor left. -/
  | disconnected
deriving DecidableEq, Repr

/-- The kinds of events by their written names. -/
def kinds : List (String × Kind) :=
  [("subject_connected", .connected), ("world_changed", .worldChanged),
    ("game_mode_changed", .gameModeChanged), ("subject_disconnected", .disconnected)]

/-- A key that need not be known, as JSON. -/
def sourceJson : Option ResourceKey → Json
  | some k => k.toJson
  | none => .null

/-- The event as JSON. -/
def toJson : HostEvent → Json
  | .subjectConnected a => .obj [("actor", a.toJson), ("type", .str "subject_connected")]
  | .worldChanged a source target phase =>
    .obj [("actor", a.toJson), ("from", sourceJson source), ("phase", .str phase.name),
      ("to", target.toJson), ("type", .str "world_changed")]
  | .gameModeChanged a source target =>
    .obj [("actor", a.toJson), ("from", sourceJson source), ("to", target.toJson),
      ("type", .str "game_mode_changed")]
  | .subjectDisconnected a => .obj [("actor", a.toJson), ("type", .str "subject_disconnected")]

/-- Decodes the kind of an event. -/
def kindOfJson : Json → Except ShapeFault Kind :=
  Json.asChoiceText kinds

/-- Decodes a key that need not be known. -/
def sourceOfJson : Json → Except ShapeFault (Option ResourceKey)
  | .null => .ok none
  | j => (ResourceKey.ofJson j).map some

/-- Decodes a phase inside an event. -/
def phaseOfJson : Json → Except ShapeFault TransitionPhase :=
  asBufferedChoice TransitionPhase.names

/-- Decodes the fields of an event of a known kind from the members of an object. -/
def ofMembers (ms : List (String × Json)) : Kind → Except ShapeFault HostEvent
  | .connected => do
    let actor ← Json.optional ms "actor" Actor.ofBuffered
    let actor ← Json.required "actor" actor
    .ok (.subjectConnected actor)
  | .worldChanged => do
    let actor ← Json.optional ms "actor" Actor.ofBuffered
    let source ← Json.optional ms "from" sourceOfJson
    let phase ← Json.optional ms "phase" phaseOfJson
    let target ← Json.optional ms "to" ResourceKey.ofJson
    let actor ← Json.required "actor" actor
    let target ← Json.required "to" target
    let phase ← Json.required "phase" phase
    .ok (.worldChanged actor source.join target phase)
  | .gameModeChanged => do
    let actor ← Json.optional ms "actor" Actor.ofBuffered
    let source ← Json.optional ms "from" sourceOfJson
    let target ← Json.optional ms "to" ResourceKey.ofJson
    let actor ← Json.required "actor" actor
    let target ← Json.required "to" target
    .ok (.gameModeChanged actor source.join target)
  | .disconnected => do
    let actor ← Json.optional ms "actor" Actor.ofBuffered
    let actor ← Json.required "actor" actor
    .ok (.subjectDisconnected actor)

/-- The next item of an array, or the fault that there are only `found`. -/
def nextItem {α : Type} (shape : String) (found : Nat) (decode : Json → Except ShapeFault α) :
    List Json → Except ShapeFault (α × List Json)
  | [] => .error (.wrongLength found shape)
  | j :: rest => do
    let a ← decode j
    .ok (a, rest)

/-- Accepts `event` when no items are left after the wanted ones. -/
def atEnd (wanted : Nat) (event : HostEvent) : List Json → Except ShapeFault HostEvent
  | [] => .ok event
  | rest => .error (bufferedTooLong (wanted + rest.length) wanted)

/-- Decodes the fields of an event of a known kind from the items of an array. -/
def ofItems (items : List Json) : Kind → Except ShapeFault HostEvent
  | .connected => do
    let shape := "struct variant HostEvent::SubjectConnected with 1 element"
    let (actor, items) ← nextItem shape 0 Actor.ofBuffered items
    atEnd 1 (.subjectConnected actor) items
  | .worldChanged => do
    let shape := "struct variant HostEvent::WorldChanged with 4 elements"
    let (actor, items) ← nextItem shape 0 Actor.ofBuffered items
    let (source, items) ← nextItem shape 1 sourceOfJson items
    let (target, items) ← nextItem shape 2 ResourceKey.ofJson items
    let (phase, items) ← nextItem shape 3 phaseOfJson items
    atEnd 4 (.worldChanged actor source target phase) items
  | .gameModeChanged => do
    let shape := "struct variant HostEvent::GameModeChanged with 3 elements"
    let (actor, items) ← nextItem shape 0 Actor.ofBuffered items
    let (source, items) ← nextItem shape 1 sourceOfJson items
    let (target, items) ← nextItem shape 2 ResourceKey.ofJson items
    atEnd 3 (.gameModeChanged actor source target) items
  | .disconnected => do
    let shape := "struct variant HostEvent::SubjectDisconnected with 1 element"
    let (actor, items) ← nextItem shape 0 Actor.ofBuffered items
    atEnd 1 (.subjectDisconnected actor) items

/-- Decodes an event. -/
def ofJson : Json → Except ShapeFault HostEvent
  | .obj ms =>
    match Keyed.lookup "type" ms with
    | none => .error (.missingMember "type")
    | some kind => do
      let kind ← kindOfJson kind
      ofMembers ms kind
  | .arr [] => .error (.missingMember "type")
  | .arr (kind :: items) => do
    let kind ← kindOfJson kind
    ofItems items kind
  | j => .error (j.mismatch "internally tagged enum HostEvent")

end HostEvent

namespace BridgeAction

/-- The action as JSON: its name, and the subject if there is one. -/
def toJson : BridgeAction → Json
  | .signal id => Json.strs ["signal", id]
  | .remove id => Json.strs ["remove", id]
  | .ignore => Json.strs ["ignore"]

end BridgeAction

end PermissionContexts
