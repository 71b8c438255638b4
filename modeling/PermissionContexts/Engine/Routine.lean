import PermissionContexts.Bus.Basic
import PermissionContexts.Engine.Cache
import PermissionContexts.Engine.Registry

/-! # Routines

    Calculators and listeners are foreign code: they may offer contexts, fail, look
    at and change the environment, and call the system back while it is busy with
    them. A **routine** is such code as data. It says what is done first, and as a
    function of the answer what is done then; what it asks the system for is a
    **request**, and the type of the answer depends on the request.

    The parameters are `ι` for what stands for a calculator, `κ` for what stands for
    a listener, and `ε` for the environment. What the values of `ι` and `κ` do is
    said by `Guests`, so that registries and busses hold plain data.
-/

namespace PermissionContexts

/-- What can be seen of a system from outside. -/
structure Glance where
  /-- The names of the calculators, in order. -/
  calculators : List String
  /-- Registry and cache as messages show them. -/
  manager : String
  /-- The counts of the cache. -/
  stats : Stats
  /-- The state of each subject. -/
  state : SubjectId → CacheState
  /-- The names of the listeners, in order. -/
  listeners : List String
  /-- The bus as messages show it. -/
  bus : String

/-- What a routine can ask the system for. -/
inductive Request (ι κ ε : Type) where
  /-- The contexts of a subject. -/
  | query (subject : Subject ε)
  /-- To make the kept contexts of a subject stale. -/
  | signal (id : SubjectId)
  /-- To forget a subject. -/
  | remove (id : SubjectId)
  /-- To make all kept contexts stale. -/
  | invalidateAll
  /-- To add a calculator. -/
  | register (name : String) (calculator : ι)
  /-- To remove a calculator. -/
  | unregister (name : String)
  /-- The contexts that calculators could produce. -/
  | estimate
  /-- To add a listener. -/
  | listen (order : EventOrder) (name : String) (listener : κ)
  /-- To remove listeners. -/
  | unlisten (name : String)
  /-- To tell listeners and mailboxes of an event. -/
  | publish (event : HostEvent)
  /-- A new mailbox. -/
  | subscribe
  /-- To read a mailbox. -/
  | receive (index : Nat)
  /-- To give up a mailbox. -/
  | giveUp (index : Nat)
  /-- To replace the bus. -/
  | renewBus (capacity : Nat)
  /-- The environment. -/
  | look
  /-- To change the environment. -/
  | alter (change : ε → ε)
  /-- What can be seen of the system. -/
  | inspect

/-- The type of the answer to a request. -/
@[reducible] def Request.Reply {ι κ ε : Type} : Request ι κ ε → Type
  | .query _ => ContextSet
  | .signal _ => Bool
  | .remove _ => Bool
  | .invalidateAll => Unit
  | .register _ _ => Except EngineError Unit
  | .unregister _ => Bool
  | .estimate => ContextSet
  | .listen _ _ _ => Unit
  | .unlisten _ => Nat
  | .publish _ => Unit
  | .subscribe => Nat
  | .receive _ => Option (Delivery HostEvent)
  | .giveUp _ => Option Subscription
  | .renewBus _ => Unit
  | .look => ε
  | .alter _ => Unit
  | .inspect => Glance

/-- What a calculator or a listener does. -/
inductive Routine (ι κ ε : Type) where
  /-- It is finished. -/
  | done
  /-- It fails. -/
  | panic
  /-- It offers a raw pair and goes on. -/
  | offer (key value : String) (next : Routine ι κ ε)
  /-- It offers a whole set and goes on. -/
  | offerAll (contexts : ContextSet) (next : Routine ι κ ε)
  /-- It asks the system for something and goes on with the answer. -/
  | ask (request : Request ι κ ε) (next : request.Reply → Routine ι κ ε)

/-- How a routine ends. -/
inductive Ending where
  /-- It came to its end. -/
  | finished
  /-- It failed. -/
  | panicked
deriving DecidableEq, Repr

/-- What a calculator is. -/
structure Calculator (ι κ ε : Type) where
  /-- Offers the contexts of a subject. -/
  calculate : Subject ε → Routine ι κ ε
  /-- The contexts that it could produce for any subject; nothing when it fails. -/
  estimate : ε → Option ContextSet

/-- What the registered calculators and listeners are. -/
structure Guests (ι κ ε : Type) where
  /-- What a calculator is. -/
  calculator : ι → Calculator ι κ ε
  /-- What a listener does about an event. -/
  handle : κ → HostEvent → Routine ι κ ε

namespace Routine

variable {ι κ ε : Type}

/-- Offers raw pairs one after the other. -/
def offers : List (String × String) → Routine ι κ ε
  | [] => .done
  | p :: rest => .offer p.1 p.2 (offers rest)

end Routine

end PermissionContexts
