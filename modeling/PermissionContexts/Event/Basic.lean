import PermissionContexts.Subject.Basic

/-! # Host events

    What the host tells about its entities: that one joined, moved between worlds,
    changed its game mode or left. Only an entity that is a permission subject has
    an identity here; of others there is a description.

    `BridgeAction.ofEvent` says what an event means for kept contexts. They are
    stale after a completed move and after a change of game mode, and they end when
    the subject leaves.
-/

namespace PermissionContexts

/-- Whether a transition is still to come. -/
inductive TransitionPhase where
  /-- It may still be cancelled. -/
  | pre
  /-- It has happened. -/
  | post
deriving DecidableEq, Repr

/-- The entity that an event is about. -/
inductive Actor where
  /-- A permission subject. -/
  | subject (id : SubjectId)
  /-- Anything else, with a description. -/
  | other (description : String)
deriving DecidableEq, Repr

/-- An event in the life of an entity. -/
inductive HostEvent where
  /-- The actor joined. -/
  | subjectConnected (actor : Actor)
  /-- The actor moves or moved to another world. -/
  | worldChanged (actor : Actor) (source : Option ResourceKey) (target : ResourceKey)
      (phase : TransitionPhase)
  /-- The game mode of the actor changed. -/
  | gameModeChanged (actor : Actor) (source : Option ResourceKey) (target : ResourceKey)
  /-- The actor left. -/
  | subjectDisconnected (actor : Actor)
deriving DecidableEq, Repr

/-- What an event means for the contexts that are kept. -/
inductive BridgeAction where
  /-- Those of the subject are stale. -/
  | signal (id : SubjectId)
  /-- Those of the subject are no longer needed. -/
  | remove (id : SubjectId)
  /-- Nothing. -/
  | ignore
deriving DecidableEq, Repr

/-- The identity of an actor that is a subject. -/
def Actor.subjectId? : Actor → Option SubjectId
  | .subject id => some id
  | .other _ => none

namespace HostEvent

/-- The entity that the event is about. -/
def actor : HostEvent → Actor
  | .subjectConnected a => a
  | .worldChanged a _ _ _ => a
  | .gameModeChanged a _ _ => a
  | .subjectDisconnected a => a

/-- The identity of the actor, if it is a subject. -/
def subjectId? (e : HostEvent) : Option SubjectId :=
  e.actor.subjectId?

/-- The written name of the kind of event. -/
def typeName : HostEvent → String
  | .subjectConnected _ => "subject_connected"
  | .worldChanged _ _ _ _ => "world_changed"
  | .gameModeChanged _ _ _ => "game_mode_changed"
  | .subjectDisconnected _ => "subject_disconnected"

end HostEvent

/-- What the event means for the contexts that are kept. -/
def BridgeAction.ofEvent (e : HostEvent) : BridgeAction :=
  match e.subjectId? with
  | none => .ignore
  | some id =>
    match e with
    | .worldChanged _ _ _ .post => .signal id
    | .gameModeChanged _ _ _ => .signal id
    | .subjectDisconnected _ => .remove id
    | .worldChanged _ _ _ .pre => .ignore
    | .subjectConnected _ => .ignore

end PermissionContexts
