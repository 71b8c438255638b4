import PermissionContexts.Context.Set
import PermissionContexts.Keyed
import PermissionContexts.Subject.Basic

/-! # The cache of context sets

    The cache has one entry for each subject that was asked for. An entry counts
    **generations**: a signal raises the count and does nothing else. A computed set
    is kept with the generation that was current **before** the computation began,
    and is good as long as no signal has come since. So a signal that comes in the
    middle of a computation is not lost: its result is one generation behind.

    Entries stand on a **heap**, and an entry is known by its **ticket**, its place
    there. Subjects hold tickets. A computation holds the ticket of the entry that it
    began with, and leaves its result there even when the entry was removed by then
    and its subject has another one.

    The generations and the counts of `Stats` are natural numbers here. In a process
    they have 64 bits and begin again at zero after 2 ^ 64 changes, so that what is
    proved of them holds for a process as long as no entry had so many signals and
    none of the counts went so far.
-/

namespace PermissionContexts

/-- What can be seen of the entry of a subject. -/
inductive CacheState where
  /-- There is no entry. -/
  | absent
  /-- There is an entry, and no computation for it has ended yet. -/
  | pending
  /-- The kept set is good. -/
  | fresh
  /-- A signal has come since the kept set was computed. -/
  | stale
deriving DecidableEq, Repr

/-- The name of a state. -/
def CacheState.name : CacheState → String
  | .absent => "Absent"
  | .pending => "Pending"
  | .fresh => "Fresh"
  | .stale => "Stale"

/-- A set and when it was computed. -/
structure Computed where
  /-- The generation before the computation began. -/
  generation : Nat
  /-- The set. -/
  contexts : ContextSet
deriving DecidableEq, Repr

/-- What the cache has of one subject. -/
structure Entry where
  /-- How many signals the entry has had; the bound of 64 bits is left out. -/
  generation : Nat
  /-- The set that is kept, if a computation has ended. -/
  computed : Option Computed
deriving DecidableEq, Repr

namespace Entry

/-- A new entry. -/
def new : Entry := ⟨0, none⟩

/-- The entry after one more signal. -/
def bump (e : Entry) : Entry :=
  { e with generation := e.generation + 1 }

/-- The kept set, if it was computed at `generation`. -/
def cachedAt (e : Entry) (generation : Nat) : Option ContextSet :=
  (e.computed.filter (·.generation = generation)).map (·.contexts)

/-- Keeps a set computed at `generation`, unless one of a later generation is
    kept. -/
def store (e : Entry) (generation : Nat) (contexts : ContextSet) : Entry :=
  match e.computed with
  | some c =>
    if generation < c.generation then e else { e with computed := some ⟨generation, contexts⟩ }
  | none => { e with computed := some ⟨generation, contexts⟩ }

/-- What can be seen of the entry. -/
def state (e : Entry) : CacheState :=
  match e.computed with
  | none => .pending
  | some c => if c.generation = e.generation then .fresh else .stale

end Entry

/-- The counts of what a cache did; the bound of 64 bits is left out. -/
structure Stats where
  /-- Sets computed by all calculators. -/
  recomputations : Nat
  /-- Queries answered by a kept set. -/
  cacheHits : Nat
  /-- Signals that met an entry. -/
  signals : Nat
  /-- Entries there are now. -/
  cachedSubjects : Nat
deriving DecidableEq, Repr

/-- The counts as messages show them. -/
def Stats.quotedText (s : Stats) : String :=
  let digits := fun n => String.ofList (Nat.toDigits 10 n)
  "ManagerStats \x7b recomputations: " ++ digits s.recomputations ++ ", cache_hits: "
    ++ digits s.cacheHits ++ ", signals: " ++ digits s.signals ++ ", cached_subjects: "
    ++ digits s.cachedSubjects ++ " \x7d"

/-- The kept context sets of all subjects. -/
structure Cache where
  /-- The ticket of the entry of each subject that has one. -/
  tickets : Keyed Nat
  /-- Every entry ever made, in the place that its ticket tells. Removed entries stay
      for the computations that hold their tickets. -/
  heap : List Entry
  /-- Sets computed by all calculators. -/
  recomputations : Nat
  /-- Queries answered by a kept set. -/
  cacheHits : Nat
  /-- Signals that met an entry. -/
  signals : Nat
deriving DecidableEq, Repr

namespace Cache

/-- The cache without entries. -/
def empty : Cache := ⟨[], [], 0, 0, 0⟩

/-- The entry with the given ticket; a new one where none was made yet. -/
def entryAt (c : Cache) (ticket : Nat) : Entry :=
  c.heap.getD ticket .new

/-- The entry of a subject, if it has one. -/
def find? (c : Cache) (id : SubjectId) : Option Entry :=
  (c.tickets.lookup id).map c.entryAt

/-- What can be seen of a subject. -/
def state (c : Cache) (id : SubjectId) : CacheState :=
  match c.find? id with
  | some e => e.state
  | none => .absent

/-- The counts of what the cache did. -/
def stats (c : Cache) : Stats :=
  ⟨c.recomputations, c.cacheHits, c.signals, c.tickets.length⟩

/-- Changes the entry with the given ticket. -/
def modify (c : Cache) (ticket : Nat) (f : Entry → Entry) : Cache :=
  { c with heap := c.heap.modify ticket f }

/-- The ticket of the entry of a subject, which is made if there is none. -/
def enter (c : Cache) (id : SubjectId) : Nat × Cache :=
  match c.tickets.lookup id with
  | some ticket => (ticket, c)
  | none =>
    let ticket := c.heap.length
    (ticket, { c with tickets := c.tickets.insert id ticket, heap := c.heap ++ [.new] })

/-- Leaves a computed set in the entry with the given ticket, whether a subject still
    has it or not. -/
def deposit (c : Cache) (ticket generation : Nat) (contexts : ContextSet) : Cache :=
  c.modify ticket (·.store generation contexts)

/-- Makes the kept set of a subject stale and tells whether there is an entry. -/
def signal (c : Cache) (id : SubjectId) : Bool × Cache :=
  match c.tickets.lookup id with
  | some ticket => (true, { c.modify ticket Entry.bump with signals := c.signals + 1 })
  | none => (false, c)

/-- Removes the entry of a subject and tells whether there was one. -/
def remove (c : Cache) (id : SubjectId) : Bool × Cache :=
  match c.tickets.lookup id with
  | some _ => (true, { c with tickets := c.tickets.erase id })
  | none => (false, c)

/-- Makes the kept set of every subject stale, one after the other. This counts as no
    signal. -/
def invalidateAll (c : Cache) : Cache :=
  c.tickets.foldl (fun c e => c.modify e.2 Entry.bump) c

/-- Counts a query that was answered by a kept set. -/
def countHit (c : Cache) : Cache :=
  { c with cacheHits := c.cacheHits + 1 }

/-- Counts a set that was computed. -/
def countSweep (c : Cache) : Cache :=
  { c with recomputations := c.recomputations + 1 }

end Cache

end PermissionContexts
