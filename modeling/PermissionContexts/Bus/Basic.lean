import PermissionContexts.Bus.Mailbox
import PermissionContexts.Event.Basic
import PermissionContexts.Text.Quoted

/-! # The event bus

    Listeners are called in the order of their rank, and within a rank in the order
    of their registration. The list is kept in that order, and a new listener is
    put behind the last one of its rank or an earlier one; the place is found by
    halving, which is right because the list is in order.

    Besides the listeners there are mailboxes. A bus that is replaced by a new one
    leaves its mailboxes behind: they can still be emptied, and are closed then. As
    long as events are being dispatched on the old bus it stays open.
-/

namespace PermissionContexts

/-- When a listener is called, compared to others. -/
inductive EventOrder where
  /-- Before all others. -/
  | first
  /-- Before ordinary listeners. -/
  | early
  /-- With the ordinary listeners. -/
  | default
  /-- After ordinary listeners. -/
  | late
  /-- After all others. -/
  | last
deriving DecidableEq, Repr

namespace EventOrder

/-- The place of a rank among all ranks. -/
def rank : EventOrder → Nat
  | .first => 0
  | .early => 1
  | .default => 2
  | .late => 3
  | .last => 4

/-- The name of a rank in messages. -/
def name : EventOrder → String
  | .first => "First"
  | .early => "Early"
  | .default => "Default"
  | .late => "Late"
  | .last => "Last"

/-- Stable insertion by rank, behind those of the same rank. -/
def insertSorted (o : EventOrder) : List EventOrder → List EventOrder
  | [] => [o]
  | p :: rest => if o.rank < p.rank then o :: p :: rest else p :: insertSorted o rest

/-- The ranks of a list, the earliest first. -/
def sort (os : List EventOrder) : List EventOrder :=
  os.foldl (fun sorted o => insertSorted o sorted) []

end EventOrder

/-- A listener on a bus. -/
structure Listener (κ : Type) where
  /-- When it is called. -/
  order : EventOrder
  /-- Its name, which others may have too. -/
  name : String
  /-- What it is. -/
  body : κ
deriving DecidableEq, Repr

/-- A mailbox and the bus that fills it. -/
structure Subscription where
  /-- The number of the bus. -/
  bus : Nat
  /-- The mailbox. -/
  mailbox : Mailbox HostEvent
deriving DecidableEq, Repr

/-- A bus, with the mailboxes of its predecessors. -/
structure Bus (κ : Type) where
  /-- The number of the bus; each one that replaces another has the next. -/
  number : Nat
  /-- The room of new mailboxes. -/
  room : Nat
  /-- The listeners, in the order in which they are called. -/
  listeners : List (Listener κ)
  /-- All mailboxes ever made; nothing where one was given up. -/
  subscriptions : List (Option Subscription)
  /-- The numbers of the busses on which events are being dispatched, the innermost
      dispatch first. -/
  dispatching : List Nat
deriving Repr

namespace Bus

variable {κ : Type}

/-- The capacity of a bus for which none is asked. -/
def defaultCapacity : Nat := 256

/-- A bus without listeners. -/
def new (capacity : Nat) : Bus κ := ⟨0, Mailbox.roomFor capacity, [], [], []⟩

/-- The bus that replaces `b`. -/
def renew (b : Bus κ) (capacity : Nat) : Bus κ :=
  { b with number := b.number + 1, room := Mailbox.roomFor capacity, listeners := [] }

/-- The first index from `lo` and below `hi` at which `p` does not hold, provided
    that `p` does not hold again after it. -/
def bisect (p : Nat → Bool) (lo hi : Nat) : Nat :=
  if lo < hi then
    let mid := (lo + hi) / 2
    if p mid then bisect p (mid + 1) hi else bisect p lo mid
  else lo
termination_by hi - lo

/-- Where a listener of rank `order` is put into the list. -/
def place (order : EventOrder) (ls : List (Listener κ)) : Nat :=
  bisect (fun i => ls[i]?.any fun l => l.order.rank ≤ order.rank) 0 ls.length

/-- The list with `l` in its place. -/
def insertListener (l : Listener κ) (ls : List (Listener κ)) : List (Listener κ) :=
  let position := place l.order ls
  ls.take position ++ l :: ls.drop position

/-- Adds a listener. -/
def register (b : Bus κ) (order : EventOrder) (name : String) (body : κ) : Bus κ :=
  { b with listeners := insertListener ⟨order, name, body⟩ b.listeners }

/-- Removes all listeners called `name` and tells how many there were. -/
def unregister (b : Bus κ) (name : String) : Nat × Bus κ :=
  let kept := b.listeners.filter fun l => l.name != name
  (b.listeners.length - kept.length, { b with listeners := kept })

/-- The names of the listeners, in the order in which they are called. -/
def listenerNames (b : Bus κ) : List String :=
  b.listeners.map (·.name)

/-- A new mailbox, and its index. -/
def subscribe (b : Bus κ) : Nat × Bus κ :=
  (b.subscriptions.length,
    { b with subscriptions := b.subscriptions ++ [some ⟨b.number, Mailbox.new b.room⟩] })

/-- Begins a dispatch on the bus. -/
def enter (b : Bus κ) : Bus κ :=
  { b with dispatching := b.number :: b.dispatching }

/-- Ends the innermost dispatch. -/
def leave (b : Bus κ) : Bus κ :=
  { b with dispatching := b.dispatching.tail }

/-- Whether the bus with the given number can still send. -/
def isOpen (b : Bus κ) (number : Nat) : Bool :=
  number = b.number || b.dispatching.contains number

/-- Puts an event into every mailbox of the bus with the given number. -/
def send (b : Bus κ) (number : Nat) (e : HostEvent) : Bus κ :=
  let deliver := fun (s : Subscription) =>
    if s.bus = number then { s with mailbox := s.mailbox.put e } else s
  { b with subscriptions := b.subscriptions.map (·.map deliver) }

/-- The mailbox at an index, unless it was given up. -/
def subscription? (b : Bus κ) (i : Nat) : Option Subscription :=
  (b.subscriptions[i]?).join

/-- Reads the mailbox at an index. -/
def receive (b : Bus κ) (i : Nat) : Option (Delivery HostEvent) × Bus κ :=
  match b.subscription? i with
  | none => (none, b)
  | some s =>
    let r := s.mailbox.take (b.isOpen s.bus)
    (some r.1, { b with subscriptions := b.subscriptions.set i (some { s with mailbox := r.2 }) })

/-- Gives up the mailbox at an index and hands it over. -/
def giveUp (b : Bus κ) (i : Nat) : Option Subscription × Bus κ :=
  match b.subscription? i with
  | none => (none, b)
  | some s => (some s, { b with subscriptions := b.subscriptions.set i none })

/-- How many mailboxes the bus fills. -/
def subscriberCount (b : Bus κ) : Nat :=
  b.subscriptions.countP fun s => s.any (·.bus = b.number)

/-- The bus as messages show it. -/
def quotedText (b : Bus κ) : String :=
  "HostEventBus \x7b listeners: [" ++ ", ".intercalate (b.listenerNames.map Text.quoted)
    ++ "], subscribers: " ++ String.ofList (Nat.toDigits 10 b.subscriberCount) ++ " \x7d"

end Bus

end PermissionContexts
