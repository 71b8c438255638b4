/-! # Sorted tables

    A table from texts to values, held as pairs in strictly increasing order of
    their keys. The order is that of code points, and it is the order in which a
    table is written, compared and gone through, so two tables with the same
    content are the same list.

    The operations are meant for sorted lists, but `lookup` after `insert` needs
    no sortedness to be right.
-/

namespace PermissionContexts

/-- Pairs of a key and a value, in increasing order of the keys. -/
abbrev Keyed (β : Type) := List (String × β)

namespace Keyed

variable {β γ : Type}

/-- The value at `k`, if there is one. -/
def lookup (k : String) : Keyed β → Option β
  | [] => none
  | e :: rest => if e.1 = k then some e.2 else lookup k rest

/-- `m` with `v` at `k`, in place of any value that was there. -/
def insert (k : String) (v : β) : Keyed β → Keyed β
  | [] => [(k, v)]
  | e :: rest =>
    if k < e.1 then (k, v) :: e :: rest
    else if e.1 = k then (k, v) :: rest
    else e :: insert k v rest

/-- `m` with the value at `k` changed by `f`. A key that is not there is put in, and `f`
    changes `d`. -/
def modifyEntry (d : β) (k : String) (f : β → β) (m : Keyed β) : Keyed β :=
  m.insert k (f ((m.lookup k).getD d))

/-- `m` without what it holds at `k`. -/
def erase (k : String) (m : Keyed β) : Keyed β :=
  m.filter fun e => e.1 != k

/-- The keys of `m`, in order. -/
def keys (m : Keyed β) : List String :=
  m.map Prod.fst

/-- `m` with every value changed by `f`. -/
def mapValues (f : β → γ) (m : Keyed β) : Keyed γ :=
  m.map fun e => (e.1, f e.2)

/-- The table with the pairs `es`; of two pairs with one key the later counts. -/
def ofPairs (es : List (String × β)) : Keyed β :=
  es.foldl (fun m e => insert e.1 e.2 m) []

/-- The keys are in strictly increasing order. -/
def Sorted (m : Keyed β) : Prop :=
  m.Pairwise fun a b => a.1 < b.1

end Keyed

end PermissionContexts
