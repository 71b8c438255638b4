import PermissionContexts.Resource.Key

/-! # Where a subject stands

    The world a subject is in, seen from outside: its identifier, its dimension
    type, and whether the server hosts it. A client-local world has no name that
    anybody else could use.
-/

namespace PermissionContexts

/-- Who hosts a world. -/
inductive WorldKind where
  /-- The server: the world has a public name. -/
  | server
  /-- A client, or nobody for long. -/
  | client
deriving DecidableEq, Repr

/-- A world as a subject in it sees it. -/
structure WorldView where
  /-- The identifier of the world. -/
  key : ResourceKey
  /-- The identifier of its dimension type. -/
  dimensionType : ResourceKey
  /-- Who hosts it. -/
  kind : WorldKind
deriving DecidableEq, Repr

namespace WorldKind

/-- The kinds by their written names. -/
def names : List (String × WorldKind) :=
  [("server", .server), ("client", .client)]

/-- The written name of a kind. -/
def name : WorldKind → String
  | .server => "server"
  | .client => "client"

/-- Decodes a kind. -/
def ofJson : Json → Except ShapeFault WorldKind :=
  Json.asChoice names

end WorldKind

namespace WorldView

/-- Whether the server hosts the world. -/
def isServerHosted (w : WorldView) : Bool :=
  w.kind = .server

/-- The view as JSON. -/
def toJson (w : WorldView) : Json :=
  .obj [("dimension_type", w.dimensionType.toJson), ("key", w.key.toJson),
    ("kind", .str w.kind.name)]

/-- What is said of an array with too few items. -/
def tooShort (length : Nat) : ShapeFault :=
  .wrongLength length "struct WorldView with 3 elements"

/-- Decodes a view from an object, or from an array with the key, the dimension type
    and the kind. -/
def ofJson : Json → Except ShapeFault WorldView
  | .obj ms => do
    let dimensionType ← Json.optional ms "dimension_type" ResourceKey.ofJson
    let key ← Json.optional ms "key" ResourceKey.ofJson
    let kind ← Json.optional ms "kind" WorldKind.ofJson
    let key ← Json.required "key" key
    let dimensionType ← Json.required "dimension_type" dimensionType
    let kind ← Json.required "kind" kind
    .ok ⟨key, dimensionType, kind⟩
  | .arr [] => .error (tooShort 0)
  | .arr [k] => do
    let _ ← ResourceKey.ofJson k
    .error (tooShort 1)
  | .arr [k, d] => do
    let _ ← ResourceKey.ofJson k
    let _ ← ResourceKey.ofJson d
    .error (tooShort 2)
  | .arr (k :: d :: w :: rest) => do
    let key ← ResourceKey.ofJson k
    let dimensionType ← ResourceKey.ofJson d
    let kind ← WorldKind.ofJson w
    if rest.isEmpty then .ok ⟨key, dimensionType, kind⟩
    else .error (Json.tooLong (k :: d :: w :: rest))
  | j => .error (j.mismatch "struct WorldView")

end WorldView

end PermissionContexts
