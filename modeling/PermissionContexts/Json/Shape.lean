import PermissionContexts.Json.Basic
import PermissionContexts.Text.Quoted

/-! # Decoding JSON values

    A decoder takes a JSON value apart and reports the **first** thing about it
    that does not fit. What comes first is fixed:

    * the members of an object are looked at in the order of their names, and
      members that nobody asks for are passed over unseen;
    * a missing member is reported only when all that are there are in order, and
      then the first one in the order of declaration;
    * the items of an array are looked at from left to right.

    A record may also be written as an array of its fields in the order of
    declaration, and a name out of a fixed choice as an object with that name as
    its only member.

    In the program the decoders are derived from the declarations of the types. These
    rules are what is **assumed** of the derived ones.
-/

namespace PermissionContexts

/-- What was found in a place where something else belongs. -/
inductive Found where
  /-- Nothing, written `null`. -/
  | null
  /-- A truth value. -/
  | bool (b : Bool)
  /-- An integer. -/
  | int (n : Int)
  /-- A number that is no integer. -/
  | float (d : Decimal)
  /-- A text. -/
  | text (s : String)
  /-- An array. -/
  | sequence
  /-- An object. -/
  | map
deriving DecidableEq, Repr

/-- Why a JSON value does not have the wanted shape. -/
inductive ShapeFault where
  /-- A value of another type than the wanted one. -/
  | wrongType (found : Found) (expected : String)
  /-- A member that has to be there is not. -/
  | missingMember (name : String)
  /-- A name that is not among the known ones. -/
  | unknownName (name : String) (known : List String)
  /-- An array with too few or too many items. -/
  | wrongLength (length : Nat) (expected : String)
  /-- A value of the right type that means nothing here. -/
  | wrongValue (found : Found) (expected : String)
  /-- A text that was read but says nothing valid. -/
  | refused (reason : String)
deriving DecidableEq, Repr

namespace Found

/-- The description of what was found. -/
def message : Found → String
  | .null => "null"
  | .bool b => "boolean `" ++ (if b then "true" else "false") ++ "`"
  | .int n => "integer `" ++ String.ofList (Decimal.intChars n) ++ "`"
  | .float d => "floating point `" ++ String.ofList d.chars ++ "`"
  | .text s => "string " ++ Text.quoted s
  | .sequence => "sequence"
  | .map => "map"

/-- What a JSON value is, seen as something found. -/
def ofJson : Json → Found
  | .null => .null
  | .bool b => .bool b
  | .int n => .int n
  | .float d => .float d
  | .str s => .text s
  | .arr _ => .sequence
  | .obj _ => .map

end Found

namespace ShapeFault

/-- A name the way messages show it. -/
def ticked (name : String) : String :=
  "`" ++ name ++ "`"

/-- The known names as the end of a sentence. -/
def knownNames : List String → String
  | [a] => "expected " ++ ticked a
  | [a, b] => "expected " ++ ticked a ++ " or " ++ ticked b
  | names => "expected one of " ++ ", ".intercalate (names.map ticked)

/-- The text that tells the fault to a person. -/
def message : ShapeFault → String
  | .wrongType found expected => "invalid type: " ++ found.message ++ ", expected " ++ expected
  | .missingMember name => "missing field " ++ ticked name
  | .unknownName name known => "unknown variant " ++ ticked name ++ ", " ++ knownNames known
  | .wrongLength length expected =>
    "invalid length " ++ String.ofList (Decimal.digitChars length) ++ ", expected " ++ expected
  | .wrongValue found expected => "invalid value: " ++ found.message ++ ", expected " ++ expected
  | .refused reason => reason

end ShapeFault

namespace Json

/-- The fault of finding `j` where `expected` belongs. -/
def mismatch (j : Json) (expected : String) : ShapeFault :=
  .wrongType (Found.ofJson j) expected

/-- Decodes a text. -/
def asText : Json → Except ShapeFault String
  | .str s => .ok s
  | j => .error (j.mismatch "a string")

/-- Decodes a truth value. -/
def asBool : Json → Except ShapeFault Bool
  | .bool b => .ok b
  | j => .error (j.mismatch "a boolean")

/-- Decodes an array, item by item. -/
def asList {α : Type} (item : Json → Except ShapeFault α) : Json → Except ShapeFault (List α)
  | .arr items => items.mapM item
  | j => .error (j.mismatch "a sequence")

/-- Decodes an array of texts. -/
def asTexts : Json → Except ShapeFault (List String) :=
  asList asText

/-- Decodes the value of every member, in order. -/
def decodeMembers {α : Type} (value : Json → Except ShapeFault α) :
    List (String × Json) → Except ShapeFault (Keyed α)
  | [] => .ok []
  | (k, j) :: rest => do
    let a ← value j
    let table ← decodeMembers value rest
    .ok ((k, a) :: table)

/-- Decodes an object with any names of members. -/
def asTable {α : Type} (value : Json → Except ShapeFault α) : Json → Except ShapeFault (Keyed α)
  | .obj members => decodeMembers value members
  | j => .error (j.mismatch "a map")

/-- What is said of an array with more items than the record has fields. -/
def tooLong (items : List Json) : ShapeFault :=
  .wrongLength items.length "fewer elements in array"

/-- Decodes a pair of texts. -/
def asTextPair : Json → Except ShapeFault (String × String)
  | .arr items =>
    match items with
    | [] => .error (.wrongLength 0 "a tuple of size 2")
    | a :: rest => do
      let a ← a.asText
      match rest with
      | [] => .error (.wrongLength 1 "a tuple of size 2")
      | b :: rest => do
        let b ← b.asText
        if rest.isEmpty then .ok (a, b) else .error (tooLong items)
  | j => .error (j.mismatch "a tuple of size 2")

/-- Decodes the member `name`, if it is there. -/
def optional {α : Type} (members : List (String × Json)) (name : String)
    (decode : Json → Except ShapeFault α) : Except ShapeFault (Option α) :=
  match Keyed.lookup name members with
  | some j => (decode j).map some
  | none => .ok none

/-- Insists on a member that was looked for. -/
def required {α : Type} (name : String) : Option α → Except ShapeFault α
  | some a => .ok a
  | none => .error (.missingMember name)

/-- The meaning of `name` in a fixed choice of names. -/
def choose {α : Type} (choices : List (String × α)) (name : String) : Except ShapeFault α :=
  match choices.find? (fun c => c.1 = name) with
  | some c => .ok c.2
  | none => .error (.unknownName name (choices.map Prod.fst))

/-- Decodes a name out of a fixed choice that is a text. -/
def asChoiceText {α : Type} (choices : List (String × α)) : Json → Except ShapeFault α
  | .str name => choose choices name
  | j => .error (j.mismatch "variant identifier")

/-- Decodes a name out of a fixed choice: a text, or an object with the name as its
    only member, whose value has to pass `isUnit`. -/
def asChoiceWith {α : Type} (isUnit : Json → Bool) (choices : List (String × α)) :
    Json → Except ShapeFault α
  | .str name => choose choices name
  | .obj [(name, value)] => do
    let a ← choose choices name
    if isUnit value then .ok a else .error (value.mismatch "unit")
  | .obj _ => .error (.wrongValue .map "map with a single key")
  | j => .error (j.mismatch "string or map")

/-- Decodes a name out of a fixed choice; as the name of a member it goes with
    `null`. -/
def asChoice {α : Type} (choices : List (String × α)) : Json → Except ShapeFault α :=
  asChoiceWith isNull choices

end Json

end PermissionContexts
