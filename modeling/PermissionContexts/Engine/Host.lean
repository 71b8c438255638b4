import PermissionContexts.Rewrite.Table
import PermissionContexts.Subject.Basic

/-! # Hosts

    What calculators can learn from the host about all subjects at once: its
    catalogs, and the worlds of its server if one is running. Like the state of a
    subject this is read from the environment `ε` at the moment it is needed.
-/

namespace PermissionContexts

/-- The catalogs of a host. -/
structure Host (ε : Type) where
  /-- Every game mode. -/
  gameModes : ε → List ResourceKey
  /-- Every dimension type. -/
  dimensionTypes : ε → List ResourceKey
  /-- The worlds of the running server, if one is running. -/
  worlds : ε → Option (List ResourceKey)

/-- Catalogs that do not change. -/
structure Catalog where
  /-- Every game mode. -/
  gameModes : List ResourceKey
  /-- Every dimension type. -/
  dimensionTypes : List ResourceKey
deriving DecidableEq, Repr

/-- The stock game modes and dimension types. -/
def Catalog.vanilla : Catalog :=
  ⟨["survival", "creative", "adventure", "spectator"].map ResourceKey.inDefaultSpace,
    ["overworld", "the_nether", "the_end"].map ResourceKey.inDefaultSpace⟩

end PermissionContexts
