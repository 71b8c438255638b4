import PermissionContexts.Context.Set
import PermissionContexts.Keyed

/-! # Rewrite tables

    Before the name of a world becomes a context it goes through a table that
    turns a raw value into a list of substitutes. A rule with no substitutes hides
    the value, and a policy decides about values without a rule. Sources are
    matched by their normal form; substitutes are handed on as they are written.
-/

namespace PermissionContexts

/-- What happens to a raw value without a rule. -/
inductive UnmatchedPolicy where
  /-- It is handed on unchanged. -/
  | passThrough
  /-- Nothing is handed on. -/
  | suppress
deriving DecidableEq, Repr

/-- Rules from raw values to substitutes. -/
structure RewriteTable where
  /-- The substitutes of each source, by the normal form of the source. -/
  rules : Keyed (List String)
  /-- What happens to a value without a rule. -/
  unmatched : UnmatchedPolicy
deriving DecidableEq, Repr

namespace RewriteTable

/-- The table without rules, which hands everything on. -/
def empty : RewriteTable := ⟨[], .passThrough⟩

/-- The table of the rules `rs`. Of two rules whose sources have one normal form
    the later counts. -/
def ofRules (rs : List (String × List String)) (unmatched : UnmatchedPolicy) : RewriteTable :=
  ⟨Keyed.ofPairs (rs.map fun r => (normalForm r.1, r.2)), unmatched⟩

/-- How many rules there are. -/
def size (t : RewriteTable) : Nat :=
  t.rules.length

/-- Whether there is no rule. -/
def isEmpty (t : RewriteTable) : Bool :=
  t.rules.isEmpty

/-- What `raw` turns into, in the order of the rule. -/
def rewrite (t : RewriteTable) (raw : String) : List String :=
  match t.rules.lookup (normalForm raw) with
  | some substitutes => substitutes
  | none =>
    match t.unmatched with
    | .passThrough => [raw]
    | .suppress => []

/-- The raw pairs that `raw` leads to under `key`. -/
def offers (t : RewriteTable) (key raw : String) : List (String × String) :=
  (t.rewrite raw).map fun value => (key, value)

/-- Adds to `s` what `raw` turns into, under `key`. -/
def submit (t : RewriteTable) (key raw : String) (s : ContextSet) : ContextSet :=
  (t.offers key raw).foldl (fun s p => s.add p.1 p.2) s

end RewriteTable

end PermissionContexts
