import PermissionContexts.Engine.Host
import PermissionContexts.Engine.Routine

/-! # Calculators

    Where contexts come from:

    * the **world** calculator gives the dimension type of the subject's world and,
      for a world on the server, its name after the rewrite table;
    * the **game mode** calculator gives the game mode;
    * the **static** calculator gives the same contexts to every subject.

    Each also estimates what it could give to any subject, from the catalogs of the
    host. Names of worlds are known only while a server is running.
-/

namespace PermissionContexts

/-- The key of the name of a subject's world. -/
def worldKey : String := "world"

/-- The key of the dimension type of a subject's world. -/
def dimensionTypeKey : String := "dimension-type"

/-- The key of a subject's game mode. -/
def gameModeKey : String := "gamemode"

namespace Calculator

variable {ι κ ε : Type}

/-- The raw pairs for a subject in world `w`. -/
def worldOffers (table : RewriteTable) (w : WorldView) : List (String × String) :=
  (dimensionTypeKey, w.dimensionType.contextName) ::
    if w.isServerHosted then table.offers worldKey w.key.contextName else []

/-- The world calculator. -/
def world (host : Host ε) (rewrites : ε → RewriteTable) : Calculator ι κ ε where
  calculate subject := .ask .look fun env =>
    match subject.location env with
    | some w => .offers (worldOffers (rewrites env) w)
    | none => .done
  estimate env :=
    let dimensions := (host.dimensionTypes env).foldl
      (fun s d => s.add dimensionTypeKey d.contextName) ContextSet.empty
    match host.worlds env with
    | some worlds =>
      some (worlds.foldl (fun s w => (rewrites env).submit worldKey w.contextName s) dimensions)
    | none => some dimensions

/-- The game mode calculator. -/
def gameMode (host : Host ε) : Calculator ι κ ε where
  calculate subject := .ask .look fun env =>
    match subject.gameMode env with
    | some mode => .offer gameModeKey mode.contextName .done
    | none => .done
  estimate env :=
    some ((host.gameModes env).foldl (fun s m => s.add gameModeKey m.contextName) ContextSet.empty)

/-- The static calculator. -/
def static (contexts : ContextSet) : Calculator ι κ ε where
  calculate _ := .offerAll contexts .done
  estimate _ := some contexts

/-- The name of the world calculator. -/
def worldName : String := "world"

/-- The name of the game mode calculator. -/
def gameModeName : String := "gamemode"

/-- The name of the static calculator. -/
def staticName : String := "static"

end Calculator

end PermissionContexts
