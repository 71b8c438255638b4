import PermissionContexts.Json.Basic

/-! # Overlays

    A user's document is laid over the defaults. Where both hold an object the
    members are overlaid one by one; a member that is `null` in the upper document
    counts as absent, and anything else replaces what was below it.
-/

namespace PermissionContexts.Json

mutual

/-- `target` with `source` laid over it. -/
def overlay : Json → Json → Json
  | .obj target, .obj source => .obj (overlayMembers target source)
  | _, .null => .null
  | _, .bool b => .bool b
  | _, .int n => .int n
  | _, .float d => .float d
  | _, .str s => .str s
  | _, .arr items => .arr items
  | _, .obj source => .obj source

/-- The members of `target` with those of `source` laid over them. -/
def overlayMembers (target : List (String × Json)) : List (String × Json) → List (String × Json)
  | [] => target
  | (k, v) :: rest =>
    overlayMembers
      (if v.isNull then target
        else
          match Keyed.lookup k target with
          | some below => Keyed.insert k (overlay below v) target
          | none => Keyed.insert k v target)
      rest

end

end PermissionContexts.Json
