import PermissionContexts.Engine.Routine

/-! # The system

    A system is a registry of calculators, a cache, a bus, and the environment that
    they share with the host. This module says what it answers to each request.

    * A **query** is answered by the kept set when that is good. Otherwise the
      calculators that are registered at this moment are run, each once and in order
      of registration: a **sweep**. Each one offers into a set of its own, which is
      merged into the result when the calculator is finished and dropped when it
      fails.
    * **Publishing** calls the listeners that are registered at this moment, each
      once and in order, whether they fail or not, and then fills the mailboxes.

    Calculators and listeners may ask the system for anything while this goes on.
    The depth of such nesting is what `System.answer` counts down; when it is used up
    there is no answer, and with more depth the answer does not change.

    The system keeps a **journal** of what it did, the latest first. Sweeps and
    dispatches are numbered by a clock that never goes back.
-/

namespace PermissionContexts

/-- Something that a system did. -/
inductive Happening where
  /-- A query came in for the entry with the given ticket. -/
  | asked (id : SubjectId) (ticket : Nat)
  /-- A query was answered by the kept set. -/
  | served (id : SubjectId) (ticket : Nat) (contexts : ContextSet)
  /-- A sweep began. -/
  | sweepBegan (sweep : Nat) (id : SubjectId) (ticket generation : Nat)
  /-- A calculator was called in a sweep. -/
  | consulted (sweep : Nat) (calculator : String)
  /-- A sweep ended. -/
  | sweepEnded (sweep : Nat) (contexts : ContextSet)
  /-- A signal came and met an entry or not. -/
  | signalled (id : SubjectId) (met : Bool)
  /-- A removal came and met an entry or not. -/
  | removed (id : SubjectId) (met : Bool)
  /-- All entries were made stale. -/
  | invalidatedAll
  /-- The dispatch of an event began. -/
  | dispatchBegan (dispatch : Nat) (event : HostEvent)
  /-- A listener was called in a dispatch. -/
  | notified (dispatch : Nat) (listener : String)
  /-- The event of a dispatch was put into the mailboxes. -/
  | sent (dispatch : Nat) (event : HostEvent)
deriving DecidableEq, Repr

/-- A sweep that has begun and not ended. -/
structure Flight where
  /-- The number of the sweep. -/
  number : Nat
  /-- The subject that was asked for. -/
  id : SubjectId
  /-- The ticket of the entry that the subject had when the sweep began. -/
  ticket : Nat
  /-- The generation of that entry when the sweep began. -/
  generation : Nat
deriving DecidableEq, Repr

/-- What a query meets. -/
inductive Arrival where
  /-- A kept set that is good. -/
  | kept (contexts : ContextSet)
  /-- Nothing that is good; a sweep is due. -/
  | due (flight : Flight)
deriving DecidableEq, Repr

/-- A system in some state. -/
structure System (ι κ ε : Type) where
  /-- The calculators. -/
  registry : Registry ι
  /-- The kept context sets. -/
  cache : Cache
  /-- The listeners and mailboxes. -/
  bus : Bus κ
  /-- What host, calculators and listeners share. -/
  env : ε
  /-- The number of the next sweep or dispatch. -/
  clock : Nat
  /-- What the system did, the latest first. -/
  journal : List Happening

/-- A way to answer requests. -/
abbrev Answering (ι κ ε : Type) :=
  (r : Request ι κ ε) → System ι κ ε → Option (r.Reply × System ι κ ε)

/-- The result of a sweep after one more calculator: what it offered counts if it came
    to its end. -/
def Ending.keep (merged offered : ContextSet) : Ending → ContextSet
  | .finished => merged.merge offered
  | .panicked => merged

/-- Runs a routine that offers into `out`. -/
def Routine.run {ι κ ε : Type} (answer : Answering ι κ ε) :
    Routine ι κ ε → System ι κ ε → ContextSet → Option (Ending × System ι κ ε × ContextSet)
  | .done, s, out => some (.finished, s, out)
  | .panic, s, out => some (.panicked, s, out)
  | .offer key value next, s, out => next.run answer s (out.add key value)
  | .offerAll contexts next, s, out => next.run answer s (out.addAll contexts)
  | .ask r next, s, out =>
    match answer r s with
    | some (a, s) => (next a).run answer s out
    | none => none

namespace System

variable {ι κ ε : Type}

/-- A system without calculators, listeners and kept sets. -/
def new (capacity : Nat) (env : ε) : System ι κ ε :=
  ⟨.empty, .empty, .new capacity, env, 0, []⟩

/-- Writes into the journal. -/
def note (s : System ι κ ε) (h : Happening) : System ι κ ε :=
  { s with journal := h :: s.journal }

/-- Registry and cache as messages show them. -/
def managerText (s : System ι κ ε) : String :=
  "ContextManager \x7b registry: " ++ s.registry.quotedText ++ ", cached_subjects: "
    ++ String.ofList (Nat.toDigits 10 s.cache.stats.cachedSubjects) ++ ", .. \x7d"

/-- What can be seen of the system. -/
def glance (s : System ι κ ε) : Glance :=
  ⟨s.registry.names, s.managerText, s.cache.stats, s.cache.state, s.bus.listenerNames,
    s.bus.quotedText⟩

/-! ### Queries -/

/-- Runs the calculators `cs` one after the other and merges what they offer into
    `merged`. -/
def sweep (g : Guests ι κ ε) (answer : Answering ι κ ε) (number : Nat) (subject : Subject ε) :
    List (String × ι) → System ι κ ε → ContextSet → Option (System ι κ ε × ContextSet)
  | [], s, merged => some (s, merged)
  | c :: cs, s, merged =>
    match ((g.calculator c.2).calculate subject).run answer
        (s.note (.consulted number c.1)) .empty with
    | some (e, s, offered) => sweep g answer number subject cs s (e.keep merged offered)
    | none => none

/-- Lets a query in: finds the entry of the subject, or makes one, and tells whether its
    kept set is good. If it is not, a sweep begins. -/
def arrive (id : SubjectId) (s : System ι κ ε) : Arrival × System ι κ ε :=
  let entered := s.cache.enter id
  let ticket := entered.1
  let entry := entered.2.entryAt ticket
  let s := { s with cache := entered.2 }.note (.asked id ticket)
  match entry.cachedAt entry.generation with
  | some contexts =>
    (.kept contexts, { s with cache := s.cache.countHit }.note (.served id ticket contexts))
  | none =>
    (.due ⟨s.clock, id, ticket, entry.generation⟩,
      { s with clock := s.clock + 1 }.note (.sweepBegan s.clock id ticket entry.generation))

/-- Ends a sweep and leaves its result in the entry that it began with. -/
def land (f : Flight) (contexts : ContextSet) (s : System ι κ ε) : System ι κ ε :=
  { s with cache := s.cache.countSweep.deposit f.ticket f.generation contexts }.note
    (.sweepEnded f.number contexts)

/-- The contexts of a subject. -/
def query (g : Guests ι κ ε) (answer : Answering ι κ ε) (subject : Subject ε)
    (s : System ι κ ε) : Option (ContextSet × System ι κ ε) :=
  match s.arrive subject.id with
  | (.kept contexts, s) => some (contexts, s)
  | (.due f, s) =>
    match sweep g answer f.number subject s.registry.snapshot s .empty with
    | some (s, contexts) => some (contexts, s.land f contexts)
    | none => none

/-- The union of what the calculators estimate. -/
def estimate (g : Guests ι κ ε) (s : System ι κ ε) : ContextSet :=
  s.registry.snapshot.foldl (fun all c =>
    match (g.calculator c.2).estimate s.env with
    | some contexts => all.addAll contexts
    | none => all) .empty

/-! ### Events -/

/-- Calls the listeners `ls` one after the other. -/
def dispatch (g : Guests ι κ ε) (answer : Answering ι κ ε) (number : Nat) (e : HostEvent) :
    List (Listener κ) → System ι κ ε → Option (System ι κ ε)
  | [], s => some s
  | l :: ls, s =>
    match (g.handle l.body e).run answer (s.note (.notified number l.name)) .empty with
    | some (_, s, _) => dispatch g answer number e ls s
    | none => none

/-- Begins the dispatch of an event. -/
def announce (e : HostEvent) (s : System ι κ ε) : System ι κ ε :=
  { s with clock := s.clock + 1, bus := s.bus.enter }.note (.dispatchBegan s.clock e)

/-- Ends a dispatch and fills the mailboxes of the bus with the given number. -/
def conclude (number bus : Nat) (e : HostEvent) (s : System ι κ ε) : System ι κ ε :=
  { s with bus := (s.bus.send bus e).leave }.note (.sent number e)

/-- Tells the listeners of an event and then fills the mailboxes of the bus that the
    event was published on. -/
def publish (g : Guests ι κ ε) (answer : Answering ι κ ε) (e : HostEvent)
    (s : System ι κ ε) : Option (System ι κ ε) :=
  let begun := s.announce e
  match dispatch g answer s.clock e begun.bus.listeners begun with
  | some ended => some (ended.conclude s.clock s.bus.number e)
  | none => none

/-! ### Answers -/

/-- Makes the kept contexts of a subject stale. -/
def signal (s : System ι κ ε) (id : SubjectId) : Bool × System ι κ ε :=
  let r := s.cache.signal id
  (r.1, { s with cache := r.2 }.note (.signalled id r.1))

/-- Forgets a subject. -/
def remove (s : System ι κ ε) (id : SubjectId) : Bool × System ι κ ε :=
  let r := s.cache.remove id
  (r.1, { s with cache := r.2 }.note (.removed id r.1))

/-- Makes all kept contexts stale. -/
def invalidateAll (s : System ι κ ε) : System ι κ ε :=
  { s with cache := s.cache.invalidateAll }.note .invalidatedAll

/-- Adds a calculator. -/
def register (s : System ι κ ε) (name : String) (calculator : ι) :
    Except EngineError Unit × System ι κ ε :=
  let r := s.registry.register name calculator
  (r.1, { s with registry := r.2 })

/-- Answers a request, where requests may be nested `depth` deep. -/
def answer (g : Guests ι κ ε) : Nat → Answering ι κ ε
  | 0, .query _, _ => none
  | depth + 1, .query subject, s => query g (answer g depth) subject s
  | 0, .publish _, _ => none
  | depth + 1, .publish e, s => (publish g (answer g depth) e s).map fun s => ((), s)
  | _, .signal id, s => some (s.signal id)
  | _, .remove id, s => some (s.remove id)
  | _, .invalidateAll, s => some ((), s.invalidateAll)
  | _, .register name calculator, s => some (s.register name calculator)
  | _, .unregister name, s =>
    let r := s.registry.unregister name
    some (r.1, { s with registry := r.2 })
  | _, .estimate, s => some (s.estimate g, s)
  | _, .listen order name listener, s =>
    some ((), { s with bus := s.bus.register order name listener })
  | _, .unlisten name, s =>
    let r := s.bus.unregister name
    some (r.1, { s with bus := r.2 })
  | _, .subscribe, s =>
    let r := s.bus.subscribe
    some (r.1, { s with bus := r.2 })
  | _, .receive i, s =>
    let r := s.bus.receive i
    some (r.1, { s with bus := r.2 })
  | _, .giveUp i, s =>
    let r := s.bus.giveUp i
    some (r.1, { s with bus := r.2 })
  | _, .renewBus capacity, s => some ((), { s with bus := s.bus.renew capacity })
  | _, .look, s => some (s.env, s)
  | _, .alter change, s => some ((), { s with env := change s.env })
  | _, .inspect, s => some (s.glance, s)

/-- Runs a routine on the system, with requests nested `depth` deep. -/
def run (g : Guests ι κ ε) (depth : Nat) (r : Routine ι κ ε) (s : System ι κ ε) :
    Option (Ending × System ι κ ε × ContextSet) :=
  r.run (answer g depth) s .empty

end System

end PermissionContexts
