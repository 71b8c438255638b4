import PermissionContexts.CommandLine.Run

/-! # The program

    Hands arguments, environment and files to `CommandLine.run` and writes what comes
    of it. The program has no text of its own for help.
-/

namespace PermissionContexts.CommandLine

/-- The file at a path. -/
def fileAt (path : String) : IO SettingsFile := do
  try
    return SettingsFile.ofBytes (← IO.FS.readBinFile path)
  catch e =>
    match e with
    | .noFileOrDirectory .. => return .missing
    | _ => return .unreadable

/-- The path of the settings file that the arguments lead to. -/
def settingsPath (home : Option String) (arguments : List String) : String :=
  match parse arguments with
  | .ok i => i.settings.getD (Settings.path home)
  | .error _ => Settings.path home

/-- Runs the program and returns its exit code. -/
def serve (arguments : List String) : IO UInt32 := do
  let home ← IO.getEnv "HOME"
  let level ← IO.getEnv "PERMCTX_LOG_LEVEL"
  let suppress ← IO.getEnv "PERMCTX_SUPPRESS_UNMATCHED_WORLDS"
  let file ← fileAt (settingsPath home arguments)
  let outcome := run "" (fun _ => file) home ⟨level, suppress⟩ arguments
  IO.print outcome.stdout
  match outcome.stderr with
  | some line => IO.eprintln line
  | none => pure ()
  return UInt32.ofNat outcome.exitCode

end PermissionContexts.CommandLine

/-- The program. -/
def main (arguments : List String) : IO UInt32 :=
  PermissionContexts.CommandLine.serve arguments
