/-! # Arguments

    The arguments of the command are options, one subcommand, and the arguments of
    the subcommand. An option is written `--name value` or `--name=value`, a flag
    `--name`. A value that follows its option must not look like an option, that is,
    start with a dash and have more to it; after `--` nothing is an option any more.

    The options `--settings` and `--json-logs` are known to the command and to every
    subcommand; where `--settings` is given to both, the subcommand's counts. An
    option with one value, and a flag, may be given once to each.

    The program declares the options and subcommands, and a library reads the
    arguments by that declaration. What is **assumed** of it is the rules above, and
    that it reads the arguments from left to right and reports the first fault. Its
    texts for help and for faults are left out.
-/

namespace PermissionContexts.CommandLine

/-- What the command is to do. -/
inductive Command where
  /-- Show the contexts of a subject. -/
  | resolve (world : Option String) (dimension : String) (client : Bool)
      (gameMode : Option String)
  /-- Show the contexts that there could be. -/
  | estimate (worlds : List String)
  /-- Show what the name of a world turns into. -/
  | rewrite (world : String)
deriving DecidableEq, Repr

/-- A command and what goes for all of them. -/
structure Invocation where
  /-- The path of the settings file, if one is given. -/
  settings : Option String
  /-- Whether the log is written as JSON. -/
  jsonLogs : Bool
  /-- What is to be done. -/
  command : Command
deriving DecidableEq, Repr

/-- Why arguments cannot be used. -/
inductive UsageError where
  /-- There is no such option here. -/
  | unknownOption (argument : String)
  /-- There is no such subcommand. -/
  | unknownCommand (argument : String)
  /-- An option lacks its value, or its value must not be empty. -/
  | missingValue (option : String)
  /-- A flag has a value. -/
  | unexpectedValue (option : String)
  /-- An option is given twice. -/
  | repeated (option : String)
  /-- There is one argument too many. -/
  | surplus (argument : String)
  /-- There is no subcommand. -/
  | missingCommand
  /-- An argument of the subcommand is missing. -/
  | missingArgument (name : String)
  /-- Help is asked for. -/
  | help
deriving DecidableEq, Repr

/-- How an option is used. -/
inductive OptionKind where
  /-- It has no value. -/
  | flag
  /-- It has one value. -/
  | single
  /-- It has one value, which must not be empty. -/
  | path
  /-- It has one value each time it is given. -/
  | many
deriving DecidableEq, Repr

/-- What may be given at one level. -/
structure Level where
  /-- The options by name. -/
  options : List (String × OptionKind)
  /-- How many arguments there may be that are no options. -/
  positionals : Nat
  /-- Whether such an argument is a subcommand, which ends the level. -/
  hasCommands : Bool

/-- What was given at one level. -/
structure Given where
  /-- The options and their values, the latest first; the value of a flag is
      empty. -/
  options : List (String × String)
  /-- The arguments that are no options, the latest first. -/
  positionals : List String
deriving DecidableEq, Repr

namespace Given

/-- Nothing. -/
def nothing : Given := ⟨[], []⟩

/-- Whether an option was given. -/
def has (g : Given) (name : String) : Bool :=
  g.options.any fun o => o.1 = name

/-- The value of an option. -/
def value? (g : Given) (name : String) : Option String :=
  (g.options.find? fun o => o.1 = name).map Prod.snd

/-- All values of an option, in order. -/
def values (g : Given) (name : String) : List String :=
  (g.options.reverse.filter fun o => o.1 = name).map Prod.snd

end Given

/-- Whether an argument looks like an option. -/
def looksLikeOption (argument : String) : Bool :=
  argument.startsWith "-" && argument != "-"

/-- The name of a long option without its dashes, and the value after `=`. -/
def splitOption (argument : String) : String × Option String :=
  let body := argument.toList.drop 2
  let name := String.ofList (body.takeWhile (· != '='))
  match body.dropWhile (· != '=') with
  | _ :: value => (name, some (String.ofList value))
  | [] => (name, none)

/-- Takes an option with its value. -/
def Given.take (g : Given) (kind : OptionKind) (name value : String) : Except UsageError Given :=
  if kind ≠ .many ∧ g.has name then .error (.repeated name)
  else if kind = .path ∧ value.isEmpty then .error (.missingValue name)
  else .ok { g with options := (name, value) :: g.options }

/-- Takes an argument that is no option. -/
def Given.place (g : Given) (level : Level) (argument : String) : Except UsageError Given :=
  if g.positionals.length < level.positionals then
    .ok { g with positionals := argument :: g.positionals }
  else .error (.surplus argument)

/-- Goes through the arguments of a level. What ends the level is a subcommand, which
    is returned with the arguments after it. -/
def scan (level : Level) (g : Given) :
    List String → Except UsageError (Given × Option (String × List String))
  | [] => .ok (g, none)
  | argument :: rest =>
    if argument = "--" then
      (rest.foldlM (Given.place · level ·) g).map fun g => (g, none)
    else if argument.startsWith "--" then
      let option := splitOption argument
      if option.1 = "help" then
        .error (if option.2.isNone then .help else .unexpectedValue option.1)
      else
        match level.options.lookup option.1 with
        | none => .error (.unknownOption argument)
        | some .flag =>
          match option.2 with
          | some _ => .error (.unexpectedValue option.1)
          | none => do
            let g ← g.take .flag option.1 ""
            scan level g rest
        | some kind =>
          match option.2, rest with
          | some value, rest => do
            let g ← g.take kind option.1 value
            scan level g rest
          | none, [] => .error (.missingValue option.1)
          | none, value :: rest =>
            if looksLikeOption value then .error (.missingValue option.1)
            else do
              let g ← g.take kind option.1 value
              scan level g rest
    else if looksLikeOption argument then
      .error (if argument.startsWith "-h" then .help else .unknownOption argument)
    else if level.hasCommands then .ok (g, some (argument, rest))
    else do
      let g ← g.place level argument
      scan level g rest

/-- The options of every level. -/
def globalOptions : List (String × OptionKind) :=
  [("settings", .path), ("json-logs", .flag)]

/-- The level of the command itself. -/
def commandLevel : Level := ⟨globalOptions, 0, true⟩

/-- The level of each subcommand. -/
def levelOf : String → Option Level
  | "resolve" =>
    some ⟨[("world", .single), ("dimension", .single), ("client", .flag), ("gamemode", .single)]
      ++ globalOptions, 0, false⟩
  | "estimate" => some ⟨("world", .many) :: globalOptions, 0, false⟩
  | "rewrite" => some ⟨globalOptions, 1, false⟩
  | _ => none

/-- The subcommand called `name`, from what was given to it. -/
def commandOf (name : String) (g : Given) : Except UsageError Command :=
  if name = "resolve" then
    .ok (.resolve (g.value? "world") ((g.value? "dimension").getD "overworld") (g.has "client")
      (g.value? "gamemode"))
  else if name = "estimate" then .ok (.estimate (g.values "world"))
  else
    match g.positionals with
    | world :: _ => .ok (.rewrite world)
    | [] => .error (.missingArgument "WORLD")

/-- What comes of asking for help about the given topics: at most one, which is a
    subcommand. -/
def helpAbout : List String → UsageError
  | [] => .help
  | topic :: rest =>
    if topic = "help" ∨ (levelOf topic).isSome then
      match rest with
      | [] => .help
      | surplus :: _ => .unknownCommand surplus
    else .unknownCommand topic

/-- Reads the arguments of the command. -/
def parse (arguments : List String) : Except UsageError Invocation := do
  let (outer, command) ← scan commandLevel .nothing arguments
  match command with
  | none => .error .missingCommand
  | some (name, rest) =>
    match levelOf name with
    | none => .error (if name = "help" then helpAbout rest else .unknownCommand name)
    | some level => do
      let (inner, _) ← scan level .nothing rest
      let command ← commandOf name inner
      .ok ⟨(inner.value? "settings").orElse fun _ => outer.value? "settings",
        inner.has "json-logs" || outer.has "json-logs", command⟩

end PermissionContexts.CommandLine
