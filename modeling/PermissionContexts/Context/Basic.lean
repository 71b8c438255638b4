import PermissionContexts.Text.Normal
import PermissionContexts.Text.Quoted

/-! # Contexts

    A context is one fact about a subject, a key and a value such as
    `world=arena`. Both halves are kept in normal form. A half is **valid** when,
    trimmed,

    * something is left of it,
    * it holds neither a control character nor the separator `=`, and
    * in the case of a value, it is at most 256 characters long.

    `Context.ofRaw` brings both halves to normal form first and tests them then,
    the key before the value.
-/

namespace PermissionContexts

/-- Why a pair of texts is no context. -/
inductive ContextError where
  /-- The key, in normal form, is not valid. -/
  | invalidKey (key : String)
  /-- The value, in normal form, is not valid; the key is. -/
  | invalidValue (key value : String)
deriving DecidableEq, Repr

namespace ContextError

/-- The text that tells the error to a person. -/
def message : ContextError → String
  | .invalidKey key => "invalid context key: " ++ Text.quoted key
  | .invalidValue key value =>
    "invalid context value for key '" ++ key ++ "': " ++ Text.quoted value

end ContextError

/-- A key and a value. -/
structure Context where
  /-- What the context speaks of, such as `world`. -/
  key : String
  /-- What it says, such as `arena`. -/
  value : String
deriving DecidableEq, Repr

namespace Context

/-- The most characters that a value may have. -/
def maxValueLength : Nat := 256

/-- Stands between key and value in a flattened context. -/
def separator : Char := '='

/-- Whether `c` may stand in a key or a value. -/
def isAllowed (c : Char) : Bool :=
  !Text.isControl c && c != separator

/-- Whether the list of characters `s` is a valid key once trimmed. -/
def keyAllowed (s : List Char) : Bool :=
  let t := Text.trim s
  !t.isEmpty && t.all isAllowed

/-- Whether the list of characters `s` is a valid value once trimmed. -/
def valueAllowed (s : List Char) : Bool :=
  let t := Text.trim s
  !t.isEmpty && decide (t.length ≤ maxValueLength) && t.all isAllowed

/-- Whether `s`, as it stands, may be used as a key. -/
def validKey (s : String) : Bool :=
  keyAllowed s.toList

/-- Whether `s`, as it stands, may be used as a value. -/
def validValue (s : String) : Bool :=
  valueAllowed s.toList

/-- The context of a raw key and a raw value: both in normal form, if both are
    valid then. -/
def ofRaw (key value : String) : Except ContextError Context :=
  let key := normalForm key
  if validKey key then
    let value := normalForm value
    if validValue value then .ok ⟨key, value⟩ else .error (.invalidValue key value)
  else .error (.invalidKey key)

/-- The flattened form, `key=value`. -/
def text (c : Context) : String :=
  c.key ++ String.singleton separator ++ c.value

/-- Contexts are ordered by key, then by value. -/
def Before (a b : Context) : Prop :=
  a.key < b.key ∨ (a.key = b.key ∧ a.value < b.value)

instance (a b : Context) : Decidable (Before a b) :=
  inferInstanceAs (Decidable (_ ∨ _))

end Context

end PermissionContexts
