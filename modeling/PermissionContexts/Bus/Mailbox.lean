/-! # Mailboxes

    A mailbox is one receiver of a broadcast channel. It holds what was sent since
    its last reading, but not more than it has room for: when it overflows, the
    oldest items are lost. The next reading then tells how many were lost, once, and
    the readings after it give the items that are left.

    The channel itself is not part of the program. This module writes down what is
    **assumed** of it:

    * a receiver gets the items in the order in which they were sent, and a loss is
      told before what was sent later (`put`, `take`);
    * what waits when nothing more can be sent can still be read, and after it the
      channel is closed (`take`);
    * a channel can have any capacity from 1 to `maxCapacity`, and has room for as
      many items as `roomFor` says.

    What is proved about bridges holds for mailboxes of any room, so that the last of
    these does not matter to it.
-/

namespace PermissionContexts

/-- A receiver and what waits in it. -/
structure Mailbox (α : Type) where
  /-- How many items it can hold. -/
  room : Nat
  /-- How many items were lost since this was last told. -/
  missed : Nat
  /-- The items that wait, the oldest first. -/
  pending : List α
deriving DecidableEq, Repr

/-- The outcome of one reading. -/
inductive Delivery (α : Type) where
  /-- The oldest item. -/
  | item (a : α)
  /-- So many items were lost. -/
  | lagged (missed : Nat)
  /-- Nothing waits, but more can come. -/
  | empty
  /-- Nothing waits and nothing more will come. -/
  | closed
deriving DecidableEq, Repr

namespace Mailbox

variable {α : Type}

/-- The greatest capacity of a channel. -/
def maxCapacity : Nat := Nat.pow 2 55

/-- Whether there can be a channel of the given capacity. -/
def isCapacity (capacity : Nat) : Bool :=
  0 < capacity && capacity ≤ maxCapacity

/-- The room of a channel with the given capacity: the least power of two that is not
    less. -/
def roomFor (capacity : Nat) : Nat :=
  if capacity ≤ 1 then 1 else Nat.pow 2 ((capacity - 1).log2 + 1)

/-- A mailbox that nothing was sent to yet. -/
def new (room : Nat) : Mailbox α := ⟨room, 0, []⟩

/-- The mailbox after one more item was sent. -/
def put (m : Mailbox α) (a : α) : Mailbox α :=
  if m.pending.length < m.room then { m with pending := m.pending ++ [a] }
  else { m with missed := m.missed + 1, pending := (m.pending ++ [a]).drop 1 }

/-- Reads the mailbox; `isOpen` tells whether more can be sent to it. -/
def take (m : Mailbox α) (isOpen : Bool) : Delivery α × Mailbox α :=
  if 0 < m.missed then (.lagged m.missed, { m with missed := 0 })
  else
    match m.pending with
    | a :: rest => (.item a, { m with pending := rest })
    | [] => (if isOpen then .empty else .closed, m)

/-- Everything that is read from a mailbox until it is closed, when nothing more can
    be sent to it. -/
def drain (m : Mailbox α) : List (Delivery α) :=
  (if 0 < m.missed then [.lagged m.missed] else []) ++ m.pending.map .item

end Mailbox

end PermissionContexts
