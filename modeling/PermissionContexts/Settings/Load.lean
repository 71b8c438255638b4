import PermissionContexts.Json.Reader
import PermissionContexts.Settings.Basic
import PermissionContexts.Settings.Overlay

/-! # Loading settings

    Settings come in three layers, each over the one before:

    * the **defaults**,
    * the **file** of the user, a JSON document that need not be there, and
    * two variables of the **environment**.

    What comes out of the layers has to pass `ContextSettings.check`.
-/

namespace PermissionContexts

/-- What is found in the place of the settings file. -/
inductive SettingsFile where
  /-- There is no such file. -/
  | missing
  /-- It cannot be read as a text. -/
  | unreadable
  /-- Its text. -/
  | text (s : String)
deriving DecidableEq, Repr

/-- The file with the given bytes, which have to be UTF-8. -/
def SettingsFile.ofBytes (bytes : ByteArray) : SettingsFile :=
  match String.fromUTF8? bytes with
  | some s => .text s
  | none => .unreadable

/-- The variables of the environment that override settings. Each is what reading the
    variable gives: nothing where it is not set, and nothing where its value is not
    Unicode, so that such a value counts as none and is passed over in silence. -/
structure Overrides where
  /-- The variable `PERMCTX_LOG_LEVEL`. -/
  logLevel : Option String
  /-- The variable `PERMCTX_SUPPRESS_UNMATCHED_WORLDS`. -/
  suppressUnmatchedWorlds : Option String
deriving DecidableEq, Repr

/-- Why no settings could be loaded. -/
inductive SettingsError where
  /-- The file cannot be read. -/
  | unreadable
  /-- The file is not JSON. -/
  | notJson (fault : JsonFault)
  /-- The document does not have the shape of settings. -/
  | wrongShape (fault : ShapeFault)
  /-- The settings are refused. -/
  | refused (fault : SettingsFault)
deriving DecidableEq, Repr

/-- The text that tells the error to a person. -/
def SettingsError.message : SettingsError → String
  | .unreadable => "settings file could not be read"
  | .notJson fault => "settings file is not valid JSON: " ++ fault.message
  | .wrongShape fault => "settings file is not valid JSON: " ++ fault.message
  | .refused fault => fault.message

/-- Reads a truth value the way people write it, in any case but without
    blanks. -/
def readSwitch (s : String) : Option Bool :=
  let s := lowerCased s
  if ["true", "1", "yes", "on"].contains s then some true
  else if ["false", "0", "no", "off"].contains s then some false
  else none

namespace Overrides

/-- The overrides in an environment. -/
def ofEnvironment (value? : String → Option String) : Overrides :=
  ⟨value? "PERMCTX_LOG_LEVEL", value? "PERMCTX_SUPPRESS_UNMATCHED_WORLDS"⟩

/-- The settings with the overrides put in. An empty level and a truth value that
    cannot be read override nothing. -/
def apply (o : Overrides) (s : Settings) : Settings :=
  let level :=
    match o.logLevel with
    | some v => if v.isEmpty then s.logging.level else v
    | none => s.logging.level
  let suppress := (o.suppressUnmatchedWorlds.bind readSwitch).getD s.contexts.suppressUnmatchedWorlds
  ⟨{ s.contexts with suppressUnmatchedWorlds := suppress }, ⟨level⟩⟩

end Overrides

namespace Settings

/-- The document that the file leads to: the defaults, with the text of the file
    laid over them. -/
def document : SettingsFile → Except SettingsError Json
  | .missing => .ok default.toJson
  | .unreadable => .error .unreadable
  | .text s =>
    match Json.read s with
    | .error f => .error (.notJson f)
    | .ok user => .ok (Json.overlay default.toJson user)

/-- The settings from all layers. -/
def load (file : SettingsFile) (overrides : Overrides) : Except SettingsError Settings := do
  let doc ← document file
  match ofJson doc with
  | .error f => .error (.wrongShape f)
  | .ok s =>
    let s := overrides.apply s
    match s.contexts.check with
    | .error f => .error (.refused f)
    | .ok () => .ok s

/-- Where the settings file is, given the home directory. -/
def path (home : Option String) : String :=
  let home := home.getD "/tmp"
  let tail := ".permctx/settings.json"
  if home.isEmpty then tail
  else if home.endsWith "/" then home ++ tail
  else home ++ "/" ++ tail

end Settings

end PermissionContexts
