import PermissionContexts.CommandLine.Arguments
import PermissionContexts.Context.Encoding
import PermissionContexts.Deployment
import PermissionContexts.Engine.Calculators
import PermissionContexts.Engine.System
import PermissionContexts.Json.Printer
import PermissionContexts.Settings.Load

/-! # The command

    The command shows how settings work out, without a live server: the contexts of a
    subject in a given state, the contexts that a stock host could report, and what
    the name of a world turns into. The settings are loaded before anything else.
    Then the system is built, its calculators are registered one by one, and it is
    installed as the manager of the process, whatever the command is.

    What is printed is a result on standard output, or the line of an error. The
    text of the help is given from outside, and of a usage error only the exit code
    is told.
-/

namespace PermissionContexts.CommandLine

/-- Why a command fails. -/
inductive Failure where
  /-- The settings at a path cannot be loaded. -/
  | settings (path : String) (cause : SettingsError)
  /-- A calculator or the manager is refused. -/
  | engine (cause : EngineError)
  /-- An argument is no resource key. -/
  | identifier (text : String)
deriving DecidableEq, Repr

/-- The text that tells the failure to a person. -/
def Failure.message : Failure → String
  | .settings path _ => "Failed to load settings from " ++ path
  | .engine cause => cause.message
  | .identifier text => "Invalid identifier: " ++ Text.quoted text

/-- The calculators of the command. -/
inductive Source where
  /-- The world calculator. -/
  | world
  /-- The game mode calculator. -/
  | gameMode
  /-- The static calculator. -/
  | static (contexts : ContextSet)
deriving DecidableEq, Repr

/-- What the calculators of the command share: the worlds of the server that is
    assumed to run, if one is. -/
abbrev Surroundings := Option (List ResourceKey)

/-- The stock host. -/
def host : Host Surroundings :=
  ⟨fun _ => Catalog.vanilla.gameModes, fun _ => Catalog.vanilla.dimensionTypes, id⟩

/-- What the calculators do. There are no listeners. -/
def guests (c : ContextSettings) : Guests Source Empty Surroundings where
  calculator
    | .world => Calculator.world host fun _ => c.rewriteTable
    | .gameMode => Calculator.gameMode host
    | .static contexts => Calculator.static contexts
  handle := fun l => nomatch l

/-- The systems that commands ask. -/
abbrev Engine := System Source Empty Surroundings

/-- The system with one more calculator, or the failure when it is refused. -/
def enrolled (s : Engine) (name : String) (source : Source) : Except Failure Engine :=
  match s.register name source with
  | (.ok (), s) => .ok s
  | (.error e, _) => .error (.engine e)

/-- Builds a system whose server does not run. The static contexts have a calculator
    only if there are any. -/
def build (c : ContextSettings) : Except Failure Engine := do
  let s ← enrolled (.new Bus.defaultCapacity none) Calculator.worldName .world
  let s ← enrolled s Calculator.gameModeName .gameMode
  let statics := c.staticSet
  if statics.isEmpty then .ok s else enrolled s Calculator.staticName (.static statics)

/-- Installs the system as the manager of the deployment. -/
def install (d : Deployment Engine) (s : Engine) : Except Failure (Deployment Engine) :=
  match d.initManager s with
  | (.ok (), d) => .ok d
  | (.error e, _) => .error (.engine e)

/-- Reads an argument that is a resource key. -/
def parseKey (text : String) : Except Failure ResourceKey :=
  match ResourceKey.parse text with
  | .ok k => .ok k
  | .error _ => .error (.identifier text)

/-- Reads an argument that need not be given. -/
def parseKey? : Option String → Except Failure (Option ResourceKey)
  | some text => (parseKey text).map some
  | none => .ok none

/-- Reads the place of the subject. The dimension counts only where there is a
    world. -/
def parseWorld? (world : Option String) (dimension : String) (client : Bool) :
    Except Failure (Option WorldView) :=
  match world with
  | none => .ok none
  | some text => do
    let key ← parseKey text
    let dimensionType ← parseKey dimension
    .ok (some ⟨key, dimensionType, if client then .client else .server⟩)

/-- The contexts of a subject in the given state. -/
def contextsOf (c : ContextSettings) (engine : Engine) (location : Option WorldView)
    (gameMode : Option ResourceKey) : ContextSet :=
  let subject : Subject Surroundings := ⟨"operator", fun _ => location, fun _ => gameMode⟩
  match System.answer (guests c) 1 (.query subject) engine with
  | some (contexts, _) => contexts
  | none => .empty

/-- The contexts that there could be when a server with the given worlds runs; no
    worlds stand for no server. -/
def potentialContexts (c : ContextSettings) (engine : Engine) (worlds : List ResourceKey) :
    ContextSet :=
  let surroundings := if worlds.isEmpty then engine.env else some worlds
  { engine with env := surroundings }.estimate (guests c)

/-- What the command shows. -/
def output (s : Settings) (engine : Engine) : Command → Except Failure Json
  | .resolve world dimension client gameMode => do
    let location ← parseWorld? world dimension client
    let gameMode ← parseKey? gameMode
    .ok (.obj [("contexts", (contextsOf s.contexts engine location gameMode).toJson)])
  | .estimate worlds => do
    let keys ← worlds.mapM parseKey
    .ok (.obj [("potentialContexts", (potentialContexts s.contexts engine keys).toJson)])
  | .rewrite world => do
    let key ← parseKey world
    let name := key.contextName
    .ok (.obj [("rewritten", Json.strs (s.contexts.rewriteTable.rewrite name)),
      ("world", .str name)])

/-- Loads the settings, builds and installs the system, and shows what is asked for. -/
def execute (file : String → SettingsFile) (home : Option String) (overrides : Overrides)
    (i : Invocation) : Except Failure Json := do
  let path := i.settings.getD (Settings.path home)
  match Settings.load (file path) overrides with
  | .error cause => .error (.settings path cause)
  | .ok s => do
    let engine ← build s.contexts
    let _ ← install .new engine
    output s engine i.command

/-- What a process leaves behind. -/
structure Outcome where
  /-- The exit code. -/
  exitCode : Nat
  /-- The text on standard output. -/
  stdout : String
  /-- The line on standard error, if there is one. -/
  stderr : Option String
deriving DecidableEq, Repr

/-- Runs the command, where `help` is shown when help is asked for. -/
def run (help : String) (file : String → SettingsFile) (home : Option String)
    (overrides : Overrides) (arguments : List String) : Outcome :=
  match parse arguments with
  | .error .help => ⟨0, help, none⟩
  | .error _ => ⟨2, "", none⟩
  | .ok i =>
    match execute file home overrides i with
    | .ok j => ⟨0, j.pretty ++ "\n", none⟩
    | .error f => ⟨1, "", some ("Error: " ++ f.message)⟩

end PermissionContexts.CommandLine
