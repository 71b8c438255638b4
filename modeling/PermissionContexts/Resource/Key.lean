import PermissionContexts.Json.Shape
import PermissionContexts.Text.Normal

/-! # Resource keys

    Worlds, dimension types and game modes are named by `namespace:value`. The
    namespace is kept in lower case, the value as it was written. In the default
    namespace a key may be written without it, and as the value of a context it
    always is: `creative`, but `mymod:custom`.
-/

namespace PermissionContexts

/-- A namespace and a name in it. -/
structure ResourceKey where
  /-- The namespace, in lower case. -/
  space : String
  /-- The name inside the namespace. -/
  value : String
deriving DecidableEq, Repr

/-- Why a text is no resource key. -/
inductive ResourceKeyError where
  /-- A part is empty, or there is more than one colon. -/
  | malformed (text : String)
deriving DecidableEq, Repr

/-- The text that tells the error to a person. -/
def ResourceKeyError.message : ResourceKeyError → String
  | .malformed text => "invalid resource key: " ++ Text.quoted text

namespace ResourceKey

/-- The namespace that is left out of the values of contexts. -/
def defaultSpace : String := "minecraft"

/-- The key with the given parts, unchecked. -/
def ofParts (space value : String) : ResourceKey :=
  ⟨lowerCased space, value⟩

/-- A key in the default namespace. -/
def inDefaultSpace (value : String) : ResourceKey :=
  ofParts defaultSpace value

/-- The characters before and after the first colon, if there is one. -/
def splitColon : List Char → Option (List Char × List Char)
  | [] => none
  | c :: rest =>
    if c = ':' then some ([], rest)
    else (splitColon rest).map fun p => (c :: p.1, p.2)

/-- Reads `namespace:value`, or a bare `value` in the default namespace. -/
def parse (s : String) : Except ResourceKeyError ResourceKey :=
  match splitColon s.toList with
  | some (space, value) =>
    if space.isEmpty || value.isEmpty || value.contains ':' then .error (.malformed s)
    else .ok (ofParts (String.ofList space) (String.ofList value))
  | none => if s.isEmpty then .error (.malformed s) else .ok (inDefaultSpace s)

/-- Whether the key is in the default namespace. -/
def isDefault (k : ResourceKey) : Bool :=
  k.space = defaultSpace

/-- The full form, `namespace:value`. -/
def text (k : ResourceKey) : String :=
  k.space ++ ":" ++ k.value

/-- The form used as the value of a context: without the namespace if that is the
    default one. -/
def contextName (k : ResourceKey) : String :=
  if k.isDefault then k.value else k.text

/-- The key with both parts quoted. -/
def quotedText (k : ResourceKey) : String :=
  "ResourceKey \x7b namespace: " ++ Text.quoted k.space ++ ", value: " ++ Text.quoted k.value
    ++ " \x7d"

/-- Keys are ordered by namespace, then by value. -/
def Before (a b : ResourceKey) : Prop :=
  a.space < b.space ∨ (a.space = b.space ∧ a.value < b.value)

instance (a b : ResourceKey) : Decidable (Before a b) :=
  inferInstanceAs (Decidable (_ ∨ _))

/-- Sorted insertion, which leaves the list as it is when `k` is there. -/
def insertSorted (k : ResourceKey) : List ResourceKey → List ResourceKey
  | [] => [k]
  | d :: rest =>
    if k.Before d then k :: d :: rest
    else if d = k then d :: rest
    else d :: insertSorted k rest

/-- The different keys of a list, in order. -/
def sort (ks : List ResourceKey) : List ResourceKey :=
  ks.foldl (fun sorted k => insertSorted k sorted) []

/-- The key as JSON, always in full form. -/
def toJson (k : ResourceKey) : Json :=
  .str k.text

/-- Decodes a key from a JSON text. -/
def ofJson (j : Json) : Except ShapeFault ResourceKey := do
  let s ← j.asText
  match parse s with
  | .ok k => .ok k
  | .error e => .error (.refused e.message)

end ResourceKey

end PermissionContexts
