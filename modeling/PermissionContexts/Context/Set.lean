import PermissionContexts.Context.Basic
import PermissionContexts.Keyed

/-! # Context sets

    A context set holds any number of contexts, also several with one key. It is
    a map from keys to sets of values; the keys stand in increasing order and so
    do the values of each key. The same type serves for the set being assembled
    and for the finished one: values do not change under a reader.

    * **Raw** pairs come in through `add`, `tryAdd` and `offerEach`, which bring
      them to normal form and drop or report the invalid ones.
    * **Whole sets** come in through `addAll`, `merge` and `union`. What a set
      holds has been through `add` before, so nothing is checked again.

    A key that is not there starts with the empty set of values, whatever is put
    into it then. That no key is left with it cannot be read off the type.
-/

namespace PermissionContexts

/-- How a requirement with several values for one key is met. -/
inductive SatisfyMode where
  /-- One of the values is enough. -/
  | atLeastOneValuePerKey
  /-- All the values are needed. -/
  | allValuesPerKey
deriving DecidableEq, Repr

/-- A set of contexts. -/
structure ContextSet where
  /-- The values of every key, keys and values in increasing order. -/
  groups : Keyed (List String)
deriving DecidableEq, Repr

namespace ContextSet

/-- The set without any context. -/
def empty : ContextSet := ⟨[]⟩

/-- Sorted insertion, which leaves the list as it is when `v` is there. -/
def insertValue (v : String) : List String → List String
  | [] => [v]
  | w :: rest =>
    if v < w then v :: w :: rest
    else if w = v then w :: rest
    else w :: insertValue v rest

/-- The values `ws` with the values `vs` put in one by one. -/
def extend (vs ws : List String) : List String :=
  vs.foldl (fun ws v => insertValue v ws) ws

/-- The set with `c` in it. -/
def insert (c : Context) (s : ContextSet) : ContextSet :=
  ⟨s.groups.modifyEntry [] c.key (insertValue c.value)⟩

/-- Adds the raw pair, or says why it is no context. -/
def tryAdd (s : ContextSet) (key value : String) : Except ContextError Unit × ContextSet :=
  match Context.ofRaw key value with
  | .ok c => (.ok (), s.insert c)
  | .error e => (.error e, s)

/-- Adds the raw pair if it is a context, and changes nothing otherwise. -/
def add (s : ContextSet) (key value : String) : ContextSet :=
  (s.tryAdd key value).2

/-- Every pair of a key and one of its values. -/
def ungroup (t : Keyed (List String)) : List (String × String) :=
  t.flatMap fun g => g.2.map fun v => (g.1, v)

/-- The contexts as pairs, in order. -/
def pairs (s : ContextSet) : List (String × String) :=
  ungroup s.groups

/-- The contexts one by one, in order. -/
def contexts (s : ContextSet) : List Context :=
  s.pairs.map fun p => ⟨p.1, p.2⟩

/-- Puts the values of every group to what its key has already. -/
def takeGroups (s : ContextSet) (gs : Keyed (List String)) : ContextSet :=
  ⟨gs.foldl (fun m g => m.modifyEntry [] g.1 (extend g.2)) s.groups⟩

/-- Adds every context of `t`. -/
def addAll (s t : ContextSet) : ContextSet :=
  s.takeGroups t.groups

/-- Offers every context of `t` as a raw pair, one by one. -/
def offerEach (s t : ContextSet) : ContextSet :=
  t.pairs.foldl (fun s p => s.add p.1 p.2) s

/-- Moves what `t` holds into `s`. -/
def merge (s t : ContextSet) : ContextSet :=
  s.takeGroups t.groups

/-- Whether there is no key at all. -/
def isEmpty (s : ContextSet) : Bool :=
  s.groups.isEmpty

/-- How many values all keys have together. -/
def size (s : ContextSet) : Nat :=
  s.groups.foldl (fun n g => n + g.2.length) 0

/-- The contexts of both sets. An empty side leaves the other as it is. -/
def union (s t : ContextSet) : ContextSet :=
  if t.isEmpty then s
  else if s.isEmpty then t
  else s.addAll t

/-- The set of the raw pairs `ps`, without the invalid ones. -/
def ofPairs (ps : List (String × String)) : ContextSet :=
  ps.foldl (fun s p => s.add p.1 p.2) empty

/-- The keys, in order. -/
def keys (s : ContextSet) : List String :=
  s.groups.keys

/-- The values at exactly the key `k`, in order. -/
def valuesAt (s : ContextSet) (k : String) : List String :=
  (s.groups.lookup k).getD []

/-- The values of a raw key, in order. -/
def values (s : ContextSet) (key : String) : List String :=
  s.valuesAt (normalForm key)

/-- The first value of a raw key, if it has any. -/
def anyValue (s : ContextSet) (key : String) : Option String :=
  (s.values key).head?

/-- Whether the raw key is there. -/
def containsKey (s : ContextSet) (key : String) : Bool :=
  (s.groups.lookup (normalForm key)).isSome

/-- Whether the raw pair is in the set. -/
def contains (s : ContextSet) (key value : String) : Bool :=
  (s.values key).contains (normalForm value)

/-- Whether `present` has the key of the group `g`, and of its values one or all. -/
def meets (present : ContextSet) (mode : SatisfyMode) (g : String × List String) : Bool :=
  match present.groups.lookup g.1 with
  | none => false
  | some values =>
    match mode with
    | .atLeastOneValuePerKey => g.2.any fun v => values.contains v
    | .allValuesPerKey => g.2.all fun v => values.contains v

/-- Whether `present` meets every key of the requirement `required`. The empty
    requirement is met by anything. -/
def isSatisfiedBy (required present : ContextSet) (mode : SatisfyMode) : Bool :=
  required.groups.all (present.meets mode)

/-- The flattened contexts between braces. -/
def text (s : ContextSet) : String :=
  "\x7b" ++ ", ".intercalate (s.contexts.map Context.text) ++ "\x7d"

/-- The keys with the sets of their values, all quoted. -/
def quotedText (s : ContextSet) : String :=
  let group := fun (g : String × List String) =>
    Text.quoted g.1 ++ ": \x7b" ++ ", ".intercalate (g.2.map Text.quoted) ++ "\x7d"
  "\x7b" ++ ", ".intercalate (s.groups.map group) ++ "\x7d"

end ContextSet

end PermissionContexts
