import PermissionContexts.Engine.Calculators
import PermissionContexts.Engine.System

/-! # Sessions

    A session is a system that is played step by step: subjects come, move and
    change, servers start and stop, calculators and listeners are added, events are
    published, and queries are asked. Calculators and listeners may be **scripts**,
    lists of steps themselves, so that anything can happen while the system is busy.

    This module holds the data: the stage, which is the environment of the system,
    the steps, and what comes of them. An input of a step that turned out to be wrong
    fails the step, which has no other effect then: a step that is `Step.faulty`
    fails before anything else is looked at, and one that holds an `Input` when it
    comes to use it.
-/

namespace PermissionContexts.Session

/-- What a subject of a session is. -/
inductive Body where
  /-- A subject that has neither a location nor a game mode. -/
  | console
  /-- A subject that may have both. -/
  | resident (location : Option WorldView) (gameMode : Option ResourceKey)
deriving DecidableEq, Repr

/-- Why a step has no effect. -/
inductive Failure where
  /-- A text is no resource key. -/
  | resourceKey (e : ResourceKeyError)
  /-- A JSON value does not have the wanted shape. -/
  | shape (f : ShapeFault)
  /-- The system refuses. -/
  | engine (e : EngineError)
  /-- The named input is missing or names nothing. -/
  | badInput (field : String)
deriving DecidableEq, Repr

/-- An input that may be wrong. -/
abbrev Input (α : Type) := Except Failure α

/-- What a step answers. -/
inductive Result where
  /-- Nothing. -/
  | nothing
  /-- A truth value. -/
  | truth (b : Bool)
  /-- A number. -/
  | count (n : Nat)
  /-- A text. -/
  | text (s : String)
  /-- Names. -/
  | names (ns : List String)
  /-- A set of contexts. -/
  | contexts (s : ContextSet)
  /-- The state of a subject. -/
  | state (s : CacheState)
  /-- The catalogs of the host, and the worlds of the server. -/
  | catalog (c : Catalog) (worlds : Option (List ResourceKey))
  /-- What the bridge does. -/
  | action (a : BridgeAction)
  /-- A reading of a mailbox. -/
  | delivery (d : Delivery HostEvent)
  /-- An event. -/
  | event (e : HostEvent)
  /-- What a calculator sees of a subject. -/
  | sight (id : SubjectId) (location : Option WorldView) (gameMode : Option ResourceKey)
  /-- The step failed. -/
  | failure (f : Failure)
deriving DecidableEq, Repr

/-- One step of a session or of a script. Steps are named in scripts, for the
    log. -/
inductive Step where
  /-- A step whose input is wrong. -/
  | faulty (f : Failure)
  /-- Declares a subject, in place of one with the same identity. -/
  | declare (id : SubjectId) (body : Body)
  /-- Moves a subject. -/
  | setLocation (id : SubjectId) (location : Input (Option WorldView))
  /-- Changes a game mode. -/
  | setGameMode (id : SubjectId) (gameMode : Input (Option ResourceKey))
  /-- Adds the world calculator. -/
  | registerWorld
  /-- Adds the game mode calculator. -/
  | registerGameMode
  /-- Adds a static calculator. -/
  | registerStatic (contexts : ContextSet)
  /-- Adds a scripted calculator, whose estimate fails where none is given. -/
  | registerScript (name : String) (times : Option Nat) (estimate : Option ContextSet)
      (steps : List (String × Step))
  /-- Removes a calculator. -/
  | unregister (name : String)
  /-- The names of the calculators. -/
  | names
  /-- The contexts of a subject. -/
  | query (id : SubjectId)
  /-- Makes the contexts of a subject stale. -/
  | signal (id : SubjectId)
  /-- Forgets a subject. -/
  | remove (id : SubjectId)
  /-- The state of a subject. -/
  | state (id : SubjectId)
  /-- Makes all contexts stale. -/
  | invalidateAll
  /-- The contexts that calculators could produce. -/
  | estimate
  /-- Registry and cache as messages show them. -/
  | managerText
  /-- The counts of the cache as messages show them. -/
  | statsText
  /-- Replaces the shared rewrite table. -/
  | setRewrites (table : RewriteTable)
  /-- The catalogs of the host. -/
  | catalog
  /-- Starts a new server. -/
  | startServer (worlds : List ResourceKey)
  /-- Adds a world to a server. -/
  | addWorld (server : Nat) (world : ResourceKey)
  /-- Stops the server. -/
  | stopServer
  /-- Puts the bridge on the bus. -/
  | install
  /-- Adds a scripted listener. -/
  | listen (order : EventOrder) (name : String) (times : Option Nat)
      (steps : List (String × Step))
  /-- Removes listeners. -/
  | unlisten (name : String)
  /-- The names of the listeners. -/
  | listeners
  /-- Publishes an event. -/
  | publish (event : HostEvent)
  /-- Hands an event to the bridge. -/
  | onEvent (event : HostEvent)
  /-- A new mailbox. -/
  | subscribe
  /-- Reads a mailbox. -/
  | receive (index : Nat)
  /-- Gives up a mailbox. -/
  | giveUp (index : Nat)
  /-- The bus as messages show it. -/
  | busText
  /-- Replaces the bus. -/
  | renewBus (capacity : Nat)
  /-- Replaces the bus and lets the bridge work through a mailbox. -/
  | runReceiver (index : Nat)
  /-- Lets the bridge work through a mailbox that all the events were sent to. -/
  | runEvents (capacity : Nat) (events : Input (List HostEvent))
  /-- Offers a raw pair; in calculators. -/
  | accept (key value : String)
  /-- Offers a set; in calculators. -/
  | acceptAll (contexts : Input ContextSet)
  /-- What is seen of the subject or the event; in scripts. -/
  | see
  /-- The state of the event's subject; in listeners. -/
  | seeState
  /-- Fails; in scripts. -/
  | panic
deriving Repr

/-- A calculator of a session. -/
inductive Part where
  /-- The world calculator. -/
  | world
  /-- The game mode calculator. -/
  | gameMode
  /-- A static calculator. -/
  | static (contexts : ContextSet)
  /-- A script, with the index of its budget. -/
  | script (budget : Nat) (name : String) (estimate : Option ContextSet)
      (steps : List (String × Step))
deriving Repr

/-- A listener of a session. -/
inductive Station where
  /-- The bridge. -/
  | bridge
  /-- A script, with the index of its budget. -/
  | script (budget : Nat) (name : String) (steps : List (String × Step))
deriving Repr

/-- One line of the log: what a step of a script answered. -/
structure LogEntry where
  /-- The name of the script. -/
  script : String
  /-- The name of the step. -/
  step : String
  /-- Its answer. -/
  result : Result
deriving DecidableEq, Repr

/-- The environment of a session. -/
structure Stage where
  /-- The catalogs of the host. -/
  catalog : Catalog
  /-- The worlds of every server that was started. -/
  servers : List (List ResourceKey)
  /-- The index of the running server. -/
  running : Option Nat
  /-- The shared rewrite table. -/
  rewrites : RewriteTable
  /-- The index of the body of each declared subject. -/
  subjects : Keyed Nat
  /-- The bodies of all subjects, also of replaced ones. -/
  bodies : List Body
  /-- How often each script may still run; nothing where there is no limit. -/
  budgets : List (Option Nat)
  /-- What scripts logged in the present step, the latest first. -/
  log : List LogEntry
  /-- What the present step answers, once it is done. -/
  result : Option Result
deriving Repr

namespace Stage

/-- The stage at the beginning. -/
def new (catalog : Catalog) (rewrites : RewriteTable) : Stage :=
  ⟨catalog, [], none, rewrites, [], [], [], [], none⟩

/-- The location of the body at an index. -/
def locationAt (i : Nat) (s : Stage) : Option WorldView :=
  match s.bodies[i]? with
  | some (.resident location _) => location
  | _ => none

/-- The game mode of the body at an index. -/
def gameModeAt (i : Nat) (s : Stage) : Option ResourceKey :=
  match s.bodies[i]? with
  | some (.resident _ gameMode) => gameMode
  | _ => none

/-- A declared subject. What it tells is read from its body even after another
    subject has taken its identity. -/
def subject? (s : Stage) (id : SubjectId) : Option (Subject Stage) :=
  (s.subjects.lookup id).map fun i => ⟨id, locationAt i, gameModeAt i⟩

/-- The index of the body of a declared subject that is a resident. -/
def resident? (s : Stage) (id : SubjectId) : Option Nat :=
  match s.subjects.lookup id with
  | some i =>
    match s.bodies[i]? with
    | some (.resident _ _) => some i
    | _ => none
  | none => none

/-- Gives a subject a new body. -/
def declare (id : SubjectId) (body : Body) (s : Stage) : Stage :=
  { s with subjects := s.subjects.insert id s.bodies.length, bodies := s.bodies ++ [body] }

/-- Moves the resident at an index. -/
def setLocation (i : Nat) (location : Option WorldView) (s : Stage) : Stage :=
  { s with bodies := s.bodies.set i (.resident location (s.gameModeAt i)) }

/-- Changes the game mode of the resident at an index. -/
def setGameMode (i : Nat) (gameMode : Option ResourceKey) (s : Stage) : Stage :=
  { s with bodies := s.bodies.set i (.resident (s.locationAt i) gameMode) }

/-- The worlds of the running server. -/
def worlds (s : Stage) : Option (List ResourceKey) :=
  s.running.bind fun i => s.servers[i]?

/-- The host that the calculators see. -/
def host : Host Stage :=
  ⟨fun s => s.catalog.gameModes, fun s => s.catalog.dimensionTypes, worlds⟩

/-- Starts a server with the given worlds. -/
def startServer (worlds : List ResourceKey) (s : Stage) : Stage :=
  { s with servers := s.servers ++ [worlds], running := some s.servers.length }

/-- Adds a world to the server at an index. -/
def addWorld (i : Nat) (world : ResourceKey) (s : Stage) : Stage :=
  { s with servers := s.servers.modify i (· ++ [world]) }

/-- Uses up one run of the script with the given budget. -/
def spend (budget : Nat) (s : Stage) : Stage :=
  { s with budgets := s.budgets.modify budget (·.map (· - 1)) }

/-- Whether the script with the given budget may not run any more. -/
def isSpent (budget : Nat) (s : Stage) : Bool :=
  s.budgets[budget]? = some (some 0)

end Stage

end PermissionContexts.Session
