import PermissionContexts.Json.Shape
import PermissionContexts.Rewrite.Table

/-! # Settings

    What a deployment configures: rewrites of world names, contexts that every
    subject has, and the level of the log. `Settings.check` refuses static contexts
    that could never become contexts, and blank rewrite sources.

    Settings are written with all their members. When they are decoded a missing
    member has its default, and so has a missing item at the end of an array.
-/

namespace PermissionContexts

/-- Settings of the calculators. -/
structure ContextSettings where
  /-- Raw world name to substitutes; no substitutes hide the world. -/
  worldRewrites : Keyed (List String)
  /-- Whether world names without a rule are dropped. -/
  suppressUnmatchedWorlds : Bool
  /-- Values, by key, that every subject has. -/
  staticContexts : Keyed (List String)
deriving DecidableEq, Repr

/-- Settings of the log. -/
structure LoggingSettings where
  /-- Which messages the log takes. -/
  level : String
deriving DecidableEq, Repr

/-- The whole settings document. -/
structure Settings where
  /-- Settings of the calculators. -/
  contexts : ContextSettings
  /-- Settings of the log. -/
  logging : LoggingSettings
deriving DecidableEq, Repr

/-- Why settings are refused. -/
inductive SettingsFault where
  /-- A static key is not valid. -/
  | invalidStaticKey (key : String)
  /-- A static value is not valid. -/
  | invalidStaticValue (key value : String)
  /-- Nothing but blanks is to be rewritten. -/
  | blankSource (source : String)
deriving DecidableEq, Repr

/-- The text that tells the fault to a person. -/
def SettingsFault.message : SettingsFault → String
  | .invalidStaticKey key =>
    "invalid setting: static context key " ++ Text.quoted key ++ " is not a valid context key"
  | .invalidStaticValue key value =>
    "invalid setting: static context " ++ key ++ "=" ++ Text.quoted value
      ++ " is not a valid context value"
  | .blankSource source =>
    "invalid setting: world rewrite source " ++ Text.quoted source ++ " is blank"

namespace UnmatchedPolicy

/-- The policies by their written names. -/
def names : List (String × UnmatchedPolicy) :=
  [("pass_through", .passThrough), ("suppress", .suppress)]

/-- The written name of a policy. -/
def name : UnmatchedPolicy → String
  | .passThrough => "pass_through"
  | .suppress => "suppress"

/-- Decodes a policy. -/
def ofJson : Json → Except ShapeFault UnmatchedPolicy :=
  Json.asChoice names

end UnmatchedPolicy

namespace ContextSettings

/-- No rewrites, no static contexts, and unmatched worlds pass. -/
def default : ContextSettings := ⟨[], false, []⟩

/-- The policy for worlds without a rule. -/
def policy (c : ContextSettings) : UnmatchedPolicy :=
  if c.suppressUnmatchedWorlds then .suppress else .passThrough

/-- The table of the configured rewrites. -/
def rewriteTable (c : ContextSettings) : RewriteTable :=
  RewriteTable.ofRules c.worldRewrites c.policy

/-- The configured static contexts as raw pairs. -/
def staticPairs (c : ContextSettings) : List (String × String) :=
  c.staticContexts.flatMap fun e => e.2.map fun value => (e.1, value)

/-- The configured static contexts, without invalid ones. -/
def staticSet (c : ContextSettings) : ContextSet :=
  ContextSet.ofPairs c.staticPairs

/-- The first fault of one entry of the static contexts: its key, or else the first
    bad value. -/
def staticFault (key : String) (values : List String) : Option SettingsFault :=
  if Context.validKey key then
    (values.find? fun v => !Context.validValue v).map (.invalidStaticValue key)
  else some (.invalidStaticKey key)

/-- The first fault of the settings: in the static contexts, key by key, and then
    in the sources of the rewrites. -/
def fault (c : ContextSettings) : Option SettingsFault :=
  match c.staticContexts.findSome? (fun e => staticFault e.1 e.2) with
  | some f => some f
  | none => (c.worldRewrites.keys.find? fun s => (trimmed s).isEmpty).map .blankSource

/-- Accepts the settings or says what is wrong with them. -/
def check (c : ContextSettings) : Except SettingsFault Unit :=
  match c.fault with
  | some f => .error f
  | none => .ok ()

/-- A table of lists of texts as JSON. -/
def listsJson (t : Keyed (List String)) : Json :=
  .obj (t.mapValues Json.strs)

/-- The settings as JSON. -/
def toJson (c : ContextSettings) : Json :=
  .obj [("staticContexts", listsJson c.staticContexts),
    ("suppressUnmatchedWorlds", .bool c.suppressUnmatchedWorlds),
    ("worldRewrites", listsJson c.worldRewrites)]

/-- Decodes a table of lists of texts. -/
def listsOfJson : Json → Except ShapeFault (Keyed (List String)) :=
  Json.asTable Json.asTexts

/-- Decodes the settings from an object, or from an array with the rewrites, the
    policy and the static contexts. -/
def ofJson : Json → Except ShapeFault ContextSettings
  | .obj ms => do
    let statics ← Json.optional ms "staticContexts" listsOfJson
    let suppress ← Json.optional ms "suppressUnmatchedWorlds" Json.asBool
    let rewrites ← Json.optional ms "worldRewrites" listsOfJson
    .ok ⟨rewrites.getD default.worldRewrites, suppress.getD default.suppressUnmatchedWorlds,
      statics.getD default.staticContexts⟩
  | .arr [] => .ok default
  | .arr [r] => do
    let rewrites ← listsOfJson r
    .ok { default with worldRewrites := rewrites }
  | .arr [r, p] => do
    let rewrites ← listsOfJson r
    let suppress ← p.asBool
    .ok { default with worldRewrites := rewrites, suppressUnmatchedWorlds := suppress }
  | .arr (r :: p :: s :: rest) => do
    let rewrites ← listsOfJson r
    let suppress ← p.asBool
    let statics ← listsOfJson s
    if rest.isEmpty then .ok ⟨rewrites, suppress, statics⟩
    else .error (Json.tooLong (r :: p :: s :: rest))
  | j => .error (j.mismatch "struct ContextSettings")

end ContextSettings

namespace LoggingSettings

/-- Warnings and worse. -/
def default : LoggingSettings := ⟨"warn"⟩

/-- The settings as JSON. -/
def toJson (l : LoggingSettings) : Json :=
  .obj [("level", .str l.level)]

/-- Decodes the settings from an object, or from an array with the level. -/
def ofJson : Json → Except ShapeFault LoggingSettings
  | .obj ms => do
    let level ← Json.optional ms "level" Json.asText
    .ok ⟨level.getD default.level⟩
  | .arr [] => .ok default
  | .arr (l :: rest) => do
    let level ← l.asText
    if rest.isEmpty then .ok ⟨level⟩ else .error (Json.tooLong (l :: rest))
  | j => .error (j.mismatch "struct LoggingSettings")

end LoggingSettings

namespace Settings

/-- What holds where nothing is configured. -/
def default : Settings := ⟨.default, .default⟩

/-- The settings as JSON. -/
def toJson (s : Settings) : Json :=
  .obj [("contexts", s.contexts.toJson), ("logging", s.logging.toJson)]

/-- Decodes the settings from an object, or from an array with the settings of the
    calculators and of the log. -/
def ofJson : Json → Except ShapeFault Settings
  | .obj ms => do
    let contexts ← Json.optional ms "contexts" ContextSettings.ofJson
    let logging ← Json.optional ms "logging" LoggingSettings.ofJson
    .ok ⟨contexts.getD .default, logging.getD .default⟩
  | .arr [] => .ok default
  | .arr [c] => do
    let contexts ← ContextSettings.ofJson c
    .ok ⟨contexts, .default⟩
  | .arr (c :: l :: rest) => do
    let contexts ← ContextSettings.ofJson c
    let logging ← LoggingSettings.ofJson l
    if rest.isEmpty then .ok ⟨contexts, logging⟩ else .error (Json.tooLong (c :: l :: rest))
  | j => .error (j.mismatch "struct PermctxSettings")

end Settings

end PermissionContexts
