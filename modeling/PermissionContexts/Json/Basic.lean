import PermissionContexts.Json.Decimal
import PermissionContexts.Keyed

/-! # JSON values

    The data format of settings, events and answers. Numbers keep the difference
    between integers and numbers with a fraction, and the members of an object
    are a sorted table, so that two values are equal exactly when a reader of
    JSON takes them for equal.
-/

namespace PermissionContexts

/-- A JSON value. -/
inductive Json where
  /-- The value `null`. -/
  | null
  /-- A truth value. -/
  | bool (b : Bool)
  /-- A number that is an integer, in the range that readers keep exact. -/
  | int (n : Int)
  /-- Any other number. -/
  | float (d : Decimal)
  /-- A text. -/
  | str (s : String)
  /-- An array. -/
  | arr (items : List Json)
  /-- An object; the members are sorted by name and no name occurs twice. -/
  | obj (members : List (String × Json))
deriving Repr, Inhabited

namespace Json

/-- The object with the members `ms`, in any order; of two members with one name
    the later counts. -/
def ofMembers (ms : List (String × Json)) : Json :=
  .obj (Keyed.ofPairs ms)

/-- Whether the value is `null`. -/
def isNull : Json → Bool
  | .null => true
  | _ => false

/-- The member `name` of an object. -/
def member? (name : String) : Json → Option Json
  | .obj ms => Keyed.lookup name ms
  | _ => none

/-- The member `name` of an object, where `null` counts as absent. -/
def given? (j : Json) (name : String) : Option Json :=
  match j.member? name with
  | some .null => none
  | r => r

/-- An array of texts. -/
def strs (ss : List String) : Json :=
  .arr (ss.map .str)

/-- A text, or `null` for none. -/
def strOrNull : Option String → Json
  | some s => .str s
  | none => .null

mutual

/-- Every object in the value, at any depth, has its members in strictly
    increasing order of their names. -/
def Canonical : Json → Prop
  | .arr items => CanonicalItems items
  | .obj members => Keyed.Sorted members ∧ CanonicalMembers members
  | _ => True

/-- `Canonical` for every item of a list. -/
def CanonicalItems : List Json → Prop
  | [] => True
  | j :: rest => Canonical j ∧ CanonicalItems rest

/-- `Canonical` for the value of every member. -/
def CanonicalMembers : List (String × Json) → Prop
  | [] => True
  | (_, j) :: rest => Canonical j ∧ CanonicalMembers rest

end

end Json

end PermissionContexts
