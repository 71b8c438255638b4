import Mathlib.Data.List.Count
import Mathlib.Logic.Relation
import PermissionContexts.Proofs.System

/-! # Queries, signals and removals as a transition system

    What signals, removals and sweeps do to each other does not depend on what
    calculators and listeners are. This module keeps of a run

    * the **cache**, the **clock** and the **journal** of the system, and
    * the **flights**, the sweeps that have begun and not ended,

    and lets the flights end in any order. The step lemmas say once what a step can do
    (`step_lookup`, `step_later`, `step_computed`, `step_flights`, `step_bumps`); the
    invariant `Sound` and the facts about whole runs follow from them.
-/

namespace PermissionContexts

/-- Whether a happening made the entry of a subject stale. -/
def Happening.bumps (id : SubjectId) : Happening → Bool
  | .signalled id' met => id' = id && met
  | .invalidatedAll => true
  | _ => false

/-- How often the entry of a subject was made stale. -/
def bumpCount (id : SubjectId) (journal : List Happening) : Nat :=
  journal.countP (·.bumps id)

/-- Whether a happening has nothing to do with the cache. -/
def Happening.neutral : Happening → Bool
  | .consulted _ _ => true
  | .dispatchBegan _ _ => true
  | .notified _ _ => true
  | .sent _ _ => true
  | _ => false

/-- What a run has done to the cache, and the sweeps under way. -/
structure Traffic where
  /-- The kept context sets. -/
  cache : Cache
  /-- The number of the next sweep or dispatch. -/
  clock : Nat
  /-- The sweeps that have begun and not ended. -/
  flights : List Flight
  /-- What happened, the latest first. -/
  journal : List Happening

namespace Traffic

/-! ### Labels and steps -/

/-- What can happen. -/
inductive Label where
  /-- Nothing that the cache takes part in. -/
  | idle (clock : Nat) (noted : List Happening)
  /-- A query is answered by the kept set. -/
  | hit (id : SubjectId) (contexts : ContextSet)
  /-- A query begins a sweep. -/
  | launch (f : Flight)
  /-- A sweep ends. -/
  | land (f : Flight) (contexts : ContextSet)
  /-- A signal comes. -/
  | signal (id : SubjectId)
  /-- A subject is removed. -/
  | remove (id : SubjectId)
  /-- Everything is made stale. -/
  | invalidateAll

/-- When something can happen. A flight lands whether or not it is the innermost. -/
def gate (v : Traffic) : Label → Prop
  | .idle clock noted => v.clock ≤ clock ∧ ∀ h ∈ noted, h.neutral = true
  | .hit id contexts =>
    (v.cache.entryAt (v.cache.enter id).1).computed =
      some ⟨(v.cache.entryAt (v.cache.enter id).1).generation, contexts⟩
  | .launch f =>
    f.number = v.clock ∧ f.ticket = (v.cache.enter f.id).1 ∧
      f.generation = (v.cache.entryAt f.ticket).generation
  | .land f _ => f ∈ v.flights
  | .signal _ => True
  | .remove _ => True
  | .invalidateAll => True

/-- What becomes of the cache. -/
def cacheAfter (v : Traffic) : Label → Cache
  | .idle _ _ => v.cache
  | .hit id _ => (v.cache.enter id).2.countHit
  | .launch f => (v.cache.enter f.id).2
  | .land f contexts => v.cache.countSweep.deposit f.ticket f.generation contexts
  | .signal id => (v.cache.signal id).2
  | .remove id => (v.cache.remove id).2
  | .invalidateAll => v.cache.invalidateAll

/-- What becomes of the clock. -/
def clockAfter (v : Traffic) : Label → Nat
  | .idle clock _ => clock
  | .launch _ => v.clock + 1
  | _ => v.clock

/-- What becomes of the flights. -/
def flightsAfter (v : Traffic) : Label → List Flight
  | .launch f => f :: v.flights
  | .land f _ => v.flights.erase f
  | _ => v.flights

/-- What is written into the journal. -/
def noted (v : Traffic) : Label → List Happening
  | .idle _ noted => noted
  | .hit id contexts =>
    [.served id (v.cache.enter id).1 contexts, .asked id (v.cache.enter id).1]
  | .launch f => [.sweepBegan f.number f.id f.ticket f.generation, .asked f.id f.ticket]
  | .land f contexts => [.sweepEnded f.number contexts]
  | .signal id => [.signalled id (v.cache.signal id).1]
  | .remove id => [.removed id (v.cache.remove id).1]
  | .invalidateAll => [.invalidatedAll]

/-- The state after something happened. -/
def effect (v : Traffic) (l : Label) : Traffic :=
  ⟨v.cacheAfter l, v.clockAfter l, v.flightsAfter l, v.noted l ++ v.journal⟩

/-- The transitions. -/
def step (v : Traffic) (l : Label) (v' : Traffic) : Prop :=
  v.gate l ∧ v' = v.effect l

/-- `v'` is `v` or comes after it. -/
def Reaches : Traffic → Traffic → Prop :=
  Relation.ReflTransGen fun v v' => ∃ l, v.step l v'

variable {v v' : Traffic} {l : Label}

/-- What the cache takes no part in is a step. -/
theorem exists_step_idle (hcache : v'.cache = v.cache) (hflights : v'.flights = v.flights)
    (hclock : v.clock ≤ v'.clock) (noted : List Happening)
    (hj : v'.journal = noted ++ v.journal) (hn : ∀ h ∈ noted, h.neutral = true) :
    ∃ l, v.step l v' := by
  refine ⟨.idle v'.clock noted, ⟨hclock, hn⟩, ?_⟩
  obtain ⟨cache, clock, flights, journal⟩ := v'
  subst hcache hflights hj
  rfl

theorem exists_step_same (h : v' = v) : ∃ l, v.step l v' :=
  h ▸ exists_step_idle rfl rfl (Nat.le_refl _) [] rfl (by simp)

/-! ### What a step can do -/

/-- A subject that has an entry after a step had it before, or the entry is new. -/
theorem step_lookup (hstep : v.step l v') {id : SubjectId} {ticket : Nat}
    (h : v'.cache.tickets.lookup id = some ticket) :
    v.cache.tickets.lookup id = some ticket ∨ ticket = v.cache.heap.length := by
  -- only a query makes entries, and a new one stands behind all others on the heap
  have henter : ∀ id', (v.cache.enter id').2.tickets.lookup id = some ticket →
      v.cache.tickets.lookup id = some ticket ∨ ticket = v.cache.heap.length := by
    intro id' hin
    rw [Cache.lookup_enter] at hin
    split_ifs at hin with hid
    · subst hid
      obtain rfl := Option.some.inj hin
      rcases v.cache.enter_ticket id' with hold | ⟨_, hnew⟩
      · exact Or.inl hold
      · exact Or.inr hnew
    · exact Or.inl hin
  obtain ⟨_, rfl⟩ := hstep
  match l with
  | .idle _ _ => exact Or.inl h
  | .hit id' _ => exact henter id' h
  | .launch f => exact henter f.id h
  | .land _ _ => exact Or.inl h
  | .signal id' => exact Or.inl ((v.cache.signal_tickets id') ▸ h)
  | .remove id' =>
    have hin : (v.cache.remove id').2.tickets.lookup id = some ticket := h
    rw [Cache.lookup_remove] at hin
    split_ifs at hin
    exact Or.inl hin
  | .invalidateAll => exact Or.inl ((v.cache.invalidateAll_tickets) ▸ h)

/-- A subject without an entry gets one only by being asked for. -/
theorem step_absent (hstep : v.step l v') {id : SubjectId}
    (h : v.cache.tickets.lookup id = none) (hn : ∀ ticket, .asked id ticket ∉ v.noted l) :
    v'.cache.tickets.lookup id = none := by
  -- a query makes an entry for its own subject only, and writes down for whom
  have henter : ∀ id', id' ≠ id → (v.cache.enter id').2.tickets.lookup id = none := by
    intro id' hne
    rw [Cache.lookup_enter, if_neg hne]
    exact h
  obtain ⟨_, rfl⟩ := hstep
  match l with
  | .idle _ _ => exact h
  | .hit id' _ => exact henter id' fun heq => hn (v.cache.enter id').1 (by simp [noted, heq])
  | .launch f => exact henter f.id fun heq => hn f.ticket (by rw [← heq]; simp [noted])
  | .land _ _ => exact h
  | .signal id' => exact (v.cache.signal_tickets id').symm ▸ h
  | .remove id' =>
    show (v.cache.remove id').2.tickets.lookup id = none
    rw [Cache.lookup_remove]
    split_ifs
    · rfl
    · exact h
  | .invalidateAll => exact (v.cache.invalidateAll_tickets).symm ▸ h

theorem step_heap (hstep : v.step l v') : v.cache.heap.length ≤ v'.cache.heap.length := by
  obtain ⟨_, rfl⟩ := hstep
  match l with
  | .idle _ _ => exact Nat.le_refl _
  | .hit id _ => exact v.cache.length_le_enter id
  | .launch f => exact v.cache.length_le_enter f.id
  | .land _ _ => exact Nat.le_of_eq (Cache.modify_heap_length ..).symm
  | .signal id => exact Nat.le_of_eq (v.cache.signal_heap_length id).symm
  | .remove id => exact Nat.le_of_eq (congrArg List.length (v.cache.remove_heap id)).symm
  | .invalidateAll => exact Nat.le_of_eq v.cache.invalidateAll_heap_length.symm

theorem step_clock (hstep : v.step l v') : v.clock ≤ v'.clock := by
  obtain ⟨hgate, rfl⟩ := hstep
  match l with
  | .idle _ _ => exact hgate.1
  | .launch _ => exact Nat.le_succ _
  | .hit _ _ | .land _ _ | .signal _ | .remove _ | .invalidateAll => exact Nat.le_refl _

theorem step_flights (hstep : v.step l v') {f : Flight} (h : f ∈ v'.flights) :
    f ∈ v.flights ∨ l = .launch f := by
  obtain ⟨_, rfl⟩ := hstep
  match l with
  | .launch f' =>
    rcases List.mem_cons.mp h with rfl | h
    · exact Or.inr rfl
    · exact Or.inl h
  | .land _ _ => exact Or.inl (List.mem_of_mem_erase h)
  | .idle _ _ | .hit _ _ | .signal _ | .remove _ | .invalidateAll => exact Or.inl h

/-- A flight leaves only by landing. -/
theorem step_land (hstep : v.step l v') {f : Flight} (h : f ∈ v.flights)
    (h' : f ∉ v'.flights) : ∃ contexts, l = .land f contexts := by
  obtain ⟨_, rfl⟩ := hstep
  match l with
  | .launch _ => exact absurd (List.mem_cons_of_mem _ h) h'
  | .land f' contexts =>
    by_cases hf : f = f'
    · exact ⟨contexts, by rw [hf]⟩
    · exact absurd ((List.mem_erase_of_ne hf).mpr h) h'
  | .idle _ _ | .hit _ _ | .signal _ | .remove _ | .invalidateAll => exact absurd h h'

/-- Entries only grow later. -/
theorem step_later (hv : v.cache.Valid) (hstep : v.step l v') (ticket : Nat) :
    Entry.Later (v.cache.entryAt ticket) (v'.cache.entryAt ticket) := by
  obtain ⟨_, rfl⟩ := hstep
  match l with
  | .idle _ _ => exact Entry.Later.refl _
  | .hit id _ => exact (v.cache.entryAt_enter id ticket).symm ▸ Entry.Later.refl _
  | .launch f => exact (v.cache.entryAt_enter f.id ticket).symm ▸ Entry.Later.refl _
  | .land f contexts => exact Cache.later_modify f.ticket (Entry.later_store _ _ contexts) ticket
  | .signal id =>
    show Entry.Later _ ((v.cache.signal id).2.entryAt ticket)
    rw [hv.entryAt_signal]
    split_ifs
    · exact Entry.later_bump _
    · exact Entry.Later.refl _
  | .remove id => exact (v.cache.entryAt_remove id ticket).symm ▸ Entry.Later.refl _
  | .invalidateAll =>
    show Entry.Later _ (v.cache.invalidateAll.entryAt ticket)
    rw [hv.entryAt_invalidateAll]
    split_ifs
    · exact Entry.later_bump _
    · exact Entry.Later.refl _

/-- What an entry keeps after a step it kept before, or it was left by a flight that has
    just landed. -/
theorem step_computed (hv : v.cache.Valid) (hstep : v.step l v') {ticket : Nat} {k : Computed}
    (h : (v'.cache.entryAt ticket).computed = some k) :
    (v.cache.entryAt ticket).computed = some k ∨
      ∃ f contexts, l = .land f contexts ∧ ticket = f.ticket ∧ k = ⟨f.generation, contexts⟩ := by
  obtain ⟨_, rfl⟩ := hstep
  match l with
  | .idle _ _ => exact Or.inl h
  | .hit id _ => exact Or.inl (v.cache.entryAt_enter id ticket ▸ h)
  | .launch f => exact Or.inl (v.cache.entryAt_enter f.id ticket ▸ h)
  | .land f contexts =>
    -- beyond the heap nothing is stored; elsewhere only the flight's own entry can change
    have hk : ((v.cache.modify f.ticket (·.store f.generation contexts)).entryAt ticket).computed
        = some k := h
    by_cases hlt : f.ticket < v.cache.heap.length
    · by_cases ht : ticket = f.ticket
      · rw [ht, Cache.entryAt_modify_self _ hlt] at hk
        rcases (v.cache.entryAt f.ticket).store_cases f.generation contexts with
          ⟨hs, _⟩ | ⟨hs, _⟩
        · left
          rw [ht]
          rwa [hs] at hk
        · right
          rw [hs] at hk
          exact ⟨f, contexts, rfl, ht, (Option.some.inj hk).symm⟩
      · left
        rwa [Cache.entryAt_modify_of_ne _ ht] at hk
    · left
      rwa [Cache.modify_of_length_le _ (Nat.le_of_not_lt hlt)] at hk
  | .signal id =>
    left
    have hk : ((v.cache.signal id).2.entryAt ticket).computed = some k := h
    rw [hv.entryAt_signal] at hk
    split_ifs at hk <;> exact hk
  | .remove id => exact Or.inl (v.cache.entryAt_remove id ticket ▸ h)
  | .invalidateAll =>
    left
    have hk : (v.cache.invalidateAll.entryAt ticket).computed = some k := h
    rw [hv.entryAt_invalidateAll] at hk
    split_ifs at hk <;> exact hk

/-- The generation of the entry that a subject has rises with every happening that makes
    it stale, and with nothing else. -/
theorem step_bumps (hv : v.cache.Valid) (hstep : v.step l v') {id : SubjectId} {ticket : Nat}
    (h : v.cache.tickets.lookup id = some ticket) :
    (v'.cache.entryAt ticket).generation =
      bumpCount id (v.noted l) + (v.cache.entryAt ticket).generation := by
  obtain ⟨hgate, rfl⟩ := hstep
  match l with
  | .idle _ noted =>
    -- what is neutral makes nothing stale
    have hzero : bumpCount id noted = 0 := by
      refine List.countP_eq_zero.mpr fun x hx => ?_
      have hneutral := hgate.2 x hx
      cases x <;> simp_all [Happening.neutral, Happening.bumps]
    show _ = bumpCount id noted + _
    rw [hzero, Nat.zero_add]
    rfl
  | .hit id' _ => simp [effect, cacheAfter, noted, bumpCount, Happening.bumps]
  | .launch f => simp [effect, cacheAfter, noted, bumpCount, Happening.bumps]
  | .land f contexts => simp [effect, cacheAfter, noted, bumpCount, Happening.bumps]
  | .signal id' =>
    show ((v.cache.signal id').2.entryAt ticket).generation = _
    rw [hv.entryAt_signal]
    by_cases hid : id' = id
    · subst hid
      simp [h, noted, bumpCount, Happening.bumps, Cache.signal_of_some h, Nat.add_comm]
    · have hne : v.cache.tickets.lookup id' ≠ some ticket := fun h' => hid (hv.ticket_inj h' h)
      simp [hne, hid, noted, bumpCount, Happening.bumps]
  | .remove id' => simp [effect, cacheAfter, noted, bumpCount, Happening.bumps]
  | .invalidateAll =>
    -- the entry is one of those that some subject has, and so is raised, once
    have hmem : ticket ∈ v.cache.tickets.map Prod.snd :=
      List.mem_map_of_mem (Keyed.mem_of_lookup h)
    show (v.cache.invalidateAll.entryAt ticket).generation = _
    rw [hv.entryAt_invalidateAll, if_pos hmem]
    simp [noted, bumpCount, Happening.bumps, Nat.add_comm]

/-- A sweep that is written down as begun has just been launched. -/
theorem noted_began (hgate : v.gate l) {number : Nat} {id : SubjectId} {ticket generation : Nat}
    (h : .sweepBegan number id ticket generation ∈ v.noted l) :
    l = .launch ⟨number, id, ticket, generation⟩ := by
  match l with
  | .idle _ noted =>
    -- the beginning of a sweep is not neutral
    have hneutral := hgate.2 _ h
    simp [Happening.neutral] at hneutral
  | .launch f =>
    simp only [noted, List.mem_cons, Happening.sweepBegan.injEq, reduceCtorEq, List.not_mem_nil,
      or_false] at h
    obtain ⟨rfl, rfl, rfl, rfl⟩ := h
    rfl
  | .hit _ _ | .land _ _ | .signal _ | .remove _ | .invalidateAll => simp [noted] at h

/-! ### Flights and what they leave behind -/

/-- What is known of a flight, also when it has landed: `begun` ties its generation to
    the happenings since it was launched. -/
structure InFlight (v : Traffic) (f : Flight) : Prop where
  /-- Its number has been given. -/
  number_lt : f.number < v.clock
  /-- Its entry has been made. -/
  ticket_lt : f.ticket < v.cache.heap.length
  /-- Its entry is not behind it. -/
  generation_le : f.generation ≤ (v.cache.entryAt f.ticket).generation
  /-- No other subject has its entry. -/
  owner : ∀ id, v.cache.tickets.lookup id = some f.ticket → id = f.id
  /-- As long as its subject has its entry, the entry is ahead of it by the signals that
      came since it was launched. -/
  begun : v.cache.tickets.lookup f.id = some f.ticket → ∃ late early,
    v.journal = late ++ .sweepBegan f.number f.id f.ticket f.generation :: early ∧
      bumpCount f.id late + f.generation = (v.cache.entryAt f.ticket).generation

/-- A set was left by a sweep for an entry, and the entry, which is now at `generation`,
    is ahead of it by the signals that came since that sweep began. -/
def Made (journal : List Happening) (id : SubjectId) (ticket : Nat) (k : Computed)
    (generation : Nat) : Prop :=
  ∃ number late middle early,
    journal = late ++ .sweepEnded number k.contexts ::
      (middle ++ .sweepBegan number id ticket k.generation :: early) ∧
    bumpCount id (late ++ middle) + k.generation = generation

/-- What holds at every moment. -/
structure Sound (v : Traffic) : Prop where
  /-- The cache is valid. -/
  valid : v.cache.Valid
  /-- Every flight is accounted for. -/
  inFlight : ∀ f ∈ v.flights, v.InFlight f
  /-- What subjects have in their entries was made by sweeps. -/
  made : ∀ id ticket k, v.cache.tickets.lookup id = some ticket →
    (v.cache.entryAt ticket).computed = some k →
      Made v.journal id ticket k (v.cache.entryAt ticket).generation
  /-- Sweeps had the numbers and tickets that were given. -/
  past : ∀ number id ticket generation,
    .sweepBegan number id ticket generation ∈ v.journal →
      number < v.clock ∧ ticket < v.cache.heap.length

theorem bumpCount_append (id : SubjectId) (j j' : List Happening) :
    bumpCount id (j ++ j') = bumpCount id j + bumpCount id j' :=
  List.countP_append

theorem InFlight.step {f : Flight} (hv : v.cache.Valid) (hf : v.InFlight f)
    (hstep : v.step l v') : v'.InFlight f := by
  -- no subject can have got the flight's entry in this step: a new entry is another one
  have hold : ∀ id, v'.cache.tickets.lookup id = some f.ticket →
      v.cache.tickets.lookup id = some f.ticket := by
    intro id h
    rcases step_lookup hstep h with h | h
    · exact h
    · exact absurd hf.ticket_lt (by omega)
  refine ⟨?_, ?_, ?_, ?_, ?_⟩
  · exact Nat.lt_of_lt_of_le hf.number_lt (step_clock hstep)
  · exact Nat.lt_of_lt_of_le hf.ticket_lt (step_heap hstep)
  · exact Nat.le_trans hf.generation_le (step_later hv hstep f.ticket).generation
  · intro id h
    exact hf.owner id (hold id h)
  · intro h
    obtain ⟨late, early, hj, hcount⟩ := hf.begun (hold f.id h)
    refine ⟨v.noted l ++ late, early, ?_, ?_⟩
    · rw [hstep.2, List.append_assoc, ← hj]
      rfl
    · rw [step_bumps hv hstep (hold f.id h), bumpCount_append, Nat.add_assoc, hcount]

/-- A flight that has just been launched. -/
theorem inFlight_launch {f : Flight} (hv : v.cache.Valid) (hstep : v.step (.launch f) v') :
    v'.InFlight f := by
  obtain ⟨⟨hnumber, hticket, hgeneration⟩, rfl⟩ := hstep
  -- the query of the flight has left its subject with this entry
  have hhas : (v.cache.enter f.id).2.tickets.lookup f.id = some f.ticket := by
    rw [Cache.lookup_enter, if_pos rfl, hticket]
  refine ⟨?_, ?_, ?_, ?_, ?_⟩
  · rw [hnumber]
    exact Nat.lt_succ_self _
  · rw [hticket]
    exact hv.enter_lt f.id
  · show _ ≤ ((v.cache.enter f.id).2.entryAt f.ticket).generation
    rw [Cache.entryAt_enter]
    exact Nat.le_of_eq hgeneration
  · intro id h
    exact (hv.enter f.id).ticket_inj h hhas
  · intro _
    refine ⟨[], .asked f.id f.ticket :: v.journal, rfl, ?_⟩
    show 0 + _ = ((v.cache.enter f.id).2.entryAt f.ticket).generation
    rw [Cache.entryAt_enter, hgeneration, Nat.zero_add]

theorem Made.step {id : SubjectId} {ticket : Nat} {k : Computed} (hv : v.cache.Valid)
    (hm : Made v.journal id ticket k (v.cache.entryAt ticket).generation)
    (h : v.cache.tickets.lookup id = some ticket) (hstep : v.step l v') :
    Made v'.journal id ticket k (v'.cache.entryAt ticket).generation := by
  obtain ⟨number, late, middle, early, hj, hcount⟩ := hm
  refine ⟨number, v.noted l ++ late, middle, early, ?_, ?_⟩
  · rw [hstep.2, List.append_assoc, ← hj]
    rfl
  · rw [step_bumps hv hstep h, List.append_assoc, bumpCount_append, Nat.add_assoc, hcount]

theorem Valid.effect (hs : v.Sound) (hgate : v.gate l) : (v.effect l).cache.Valid := by
  have hv := hs.valid
  match l with
  | .idle _ _ => exact hv
  | .hit id _ => exact (hv.enter id).countHit
  | .launch f => exact hv.enter f.id
  | .land f contexts => exact hv.countSweep.deposit contexts (hs.inFlight f hgate).generation_le
  | .signal id => exact hv.signal id
  | .remove id => exact hv.remove id
  | .invalidateAll => exact hv.invalidateAll

theorem Sound.step (hs : v.Sound) (hstep : v.step l v') : v'.Sound := by
  have hv := hs.valid
  refine ⟨?_, ?_, ?_, ?_⟩
  · rw [hstep.2]
    exact Valid.effect hs hstep.1
  · intro f hf
    rcases step_flights hstep hf with hf | rfl
    · exact (hs.inFlight f hf).step hv hstep
    · exact inFlight_launch hv hstep
  · intro id ticket k hid hk
    rcases step_computed hv hstep hk with hk | ⟨f, contexts, rfl, rfl, rfl⟩
    · rcases step_lookup hstep hid with hid | rfl
      · exact (hs.made id ticket k hid hk).step hv hid hstep
      · -- a new entry keeps nothing
        simp [Cache.entryAt] at hk
    · -- the set of a flight that has just landed, which is still known by its launch
      have hf := hs.inFlight f hstep.1
      obtain ⟨_, rfl⟩ := hstep
      have hid : v.cache.tickets.lookup id = some f.ticket := hid
      obtain rfl := hf.owner id hid
      obtain ⟨late, early, hj, hcount⟩ := hf.begun hid
      refine ⟨f.number, [], late, early, ?_, ?_⟩
      · show .sweepEnded f.number contexts :: v.journal = _
        rw [hj]
        rfl
      · show bumpCount f.id late + f.generation = _
        rw [hcount]
        exact (Cache.deposit_generation ..).symm
  · intro number id ticket generation h
    have hmono := fun (h : number < v.clock ∧ ticket < v.cache.heap.length) =>
      And.intro (Nat.lt_of_lt_of_le h.1 (step_clock hstep))
        (Nat.lt_of_lt_of_le h.2 (step_heap hstep))
    rw [hstep.2] at h
    rcases List.mem_append.mp h with h | h
    · obtain rfl := noted_began hstep.1 h
      have hf := inFlight_launch hv hstep
      exact ⟨hf.number_lt, hf.ticket_lt⟩
    · exact hmono (hs.past number id ticket generation h)

/-! ### Whole runs -/

theorem Reaches.sound (hs : v.Sound) (h : Reaches v v') : v'.Sound := by
  induction h with
  | refl => exact hs
  | tail _ hstep ih =>
    obtain ⟨l, hstep⟩ := hstep
    exact ih.step hstep

theorem Reaches.later (hs : v.Sound) (h : Reaches v v') (ticket : Nat) :
    Entry.Later (v.cache.entryAt ticket) (v'.cache.entryAt ticket) := by
  induction h with
  | refl => exact Entry.Later.refl _
  | tail hr hstep ih =>
    obtain ⟨l, hstep⟩ := hstep
    exact ih.trans (step_later (Reaches.sound hs hr).valid hstep ticket)

theorem Reaches.heap (h : Reaches v v') : v.cache.heap.length ≤ v'.cache.heap.length := by
  induction h with
  | refl => exact Nat.le_refl _
  | tail _ hstep ih =>
    obtain ⟨l, hstep⟩ := hstep
    exact Nat.le_trans ih (step_heap hstep)

theorem Reaches.clock (h : Reaches v v') : v.clock ≤ v'.clock := by
  induction h with
  | refl => exact Nat.le_refl _
  | tail _ hstep ih =>
    obtain ⟨l, hstep⟩ := hstep
    exact Nat.le_trans ih (step_clock hstep)

/-- An entry that had been made before is given to no subject again. -/
theorem Reaches.lookup_old (h : Reaches v v') {id : SubjectId} {ticket : Nat}
    (hlt : ticket < v.cache.heap.length) (hid : v'.cache.tickets.lookup id = some ticket) :
    v.cache.tickets.lookup id = some ticket := by
  induction h with
  | refl => exact hid
  | tail hr hstep ih =>
    obtain ⟨l, hstep⟩ := hstep
    rcases step_lookup hstep hid with hid | rfl
    · exact ih hid
    · exact absurd (Reaches.heap hr) (Nat.not_le_of_lt hlt)

/-- A run only adds to the journal. The sweeps that it adds have new numbers, and a
    subject that it adds no query for is still without an entry if it was. -/
theorem Reaches.noted (h : Reaches v v') : ∃ noted, v'.journal = noted ++ v.journal ∧
    (∀ number id ticket generation,
      .sweepBegan number id ticket generation ∈ noted → v.clock ≤ number) ∧
    ∀ id, v.cache.tickets.lookup id = none → (∀ ticket, .asked id ticket ∉ noted) →
      v'.cache.tickets.lookup id = none := by
  induction h with
  | refl => exact ⟨[], rfl, by simp, fun _ h _ => h⟩
  | @tail u w hr hstep ih =>
    obtain ⟨l, hstep⟩ := hstep
    obtain ⟨noted, hj, hbegan, habsent⟩ := ih
    refine ⟨u.noted l ++ noted, ?_, ?_, ?_⟩
    · rw [hstep.2, List.append_assoc, ← hj]
      rfl
    · intro number id ticket generation hin
      rcases List.mem_append.mp hin with hin | hin
      · obtain rfl := noted_began hstep.1 hin
        exact Nat.le_trans (Reaches.clock hr) (Nat.le_of_eq hstep.1.1.symm)
      · exact hbegan number id ticket generation hin
    · intro id hid hn
      refine step_absent hstep (habsent id hid ?_) ?_
      · exact fun ticket hin => hn ticket (List.mem_append_right _ hin)
      · exact fun ticket hin => hn ticket (List.mem_append_left _ hin)

/-! ### Signals and flights -/

/-- A set that is good was made by a sweep that began after all signals so far. -/
theorem Made.unspoiled {journal : List Happening} {id : SubjectId} {ticket generation : Nat}
    {contexts : ContextSet} (h : Made journal id ticket ⟨generation, contexts⟩ generation) :
    ∃ number late middle early,
      journal = late ++ .sweepEnded number contexts ::
        (middle ++ .sweepBegan number id ticket generation :: early) ∧
      ∀ x ∈ late ++ middle, x.bumps id = false := by
  obtain ⟨number, late, middle, early, hj, hcount⟩ := h
  refine ⟨number, late, middle, early, hj, ?_⟩
  -- the entry is where it was when the sweep began, so nothing has raised it since
  have hzero : bumpCount id (late ++ middle) = 0 := by
    simp only at hcount
    omega
  intro x hx
  simpa using List.countP_eq_zero.mp hzero x hx

/-- The set of a flight whose entry has gone ahead of it meanwhile is refused or stale. -/
theorem land_behind {f : Flight} {contexts : ContextSet} (hstep : v.step (.land f contexts) v')
    (hlt : f.generation < (v.cache.entryAt f.ticket).generation) :
    (v'.cache.entryAt f.ticket).computed = (v.cache.entryAt f.ticket).computed ∨
      (v'.cache.entryAt f.ticket).state = .stale := by
  obtain ⟨_, rfl⟩ := hstep
  show ((v.cache.modify f.ticket (·.store f.generation contexts)).entryAt f.ticket).computed = _ ∨
    ((v.cache.modify f.ticket (·.store f.generation contexts)).entryAt f.ticket).state = _
  by_cases hlen : f.ticket < v.cache.heap.length
  · rw [Cache.entryAt_modify_self _ hlen]
    rcases (v.cache.entryAt f.ticket).store_cases f.generation contexts with ⟨h, _⟩ | ⟨h, _⟩
    · left
      rw [h]
    · right
      rw [h]
      simp [Entry.state, Nat.ne_of_lt hlt]
  · left
    rw [Cache.modify_of_length_le _ (Nat.le_of_not_lt hlen)]

/-! ### Removal and flights -/

/-- A flight whose entry belongs to no subject changes for no subject what it finds. -/
theorem land_detached {f : Flight} {contexts : ContextSet} (hstep : v.step (.land f contexts) v')
    (h : ∀ id, v.cache.tickets.lookup id ≠ some f.ticket) (id : SubjectId) :
    v'.cache.find? id = v.cache.find? id := by
  obtain ⟨_, rfl⟩ := hstep
  show (v.cache.tickets.lookup id).map
    (v.cache.modify f.ticket (·.store f.generation contexts)).entryAt = _
  unfold Cache.find?
  cases hid : v.cache.tickets.lookup id with
  | none => rfl
  | some ticket =>
    have hne : ticket ≠ f.ticket := fun heq => h id (heq ▸ hid)
    simp only [Option.map_some, Cache.entryAt_modify_of_ne _ hne]

/-- The entry of a flight whose subject has lost it belongs to nobody from then on. -/
theorem InFlight.detached {f : Flight} (hf : v.InFlight f)
    (hnone : v.cache.tickets.lookup f.id = none) (h : Reaches v v') (id : SubjectId) :
    v'.cache.tickets.lookup id ≠ some f.ticket := by
  intro hid
  -- an entry that is already made cannot be got, only kept, and its one owner has lost it
  have hold := h.lookup_old hf.ticket_lt hid
  rw [hf.owner id hold, hnone] at hold
  simp at hold

theorem split_of_not_mem {α : Type} {a b c d : List α} {x : α} (h : a ++ x :: b = c ++ d)
    (hx : x ∉ d) : ∃ b', c = a ++ x :: b' ∧ b = b' ++ d := by
  rcases List.append_eq_append_iff.mp h with ⟨a', rfl, h'⟩ | ⟨c', rfl, rfl⟩
  · cases a' with
    | nil =>
      obtain rfl : x :: b = d := h'
      exact absurd (List.mem_cons_self ..) hx
    | cons y ys =>
      obtain ⟨rfl, rfl⟩ := List.cons.inj h'
      exact ⟨ys, rfl, rfl⟩
  · exact absurd (List.mem_append_right _ (List.mem_cons_self ..)) hx

/-- What is kept for a subject that had no entry at some moment was made by a sweep that
    began and ended after that moment. -/
theorem Reaches.made_since (hs : v.Sound) (h : Reaches v v') {id : SubjectId}
    (hnone : v.cache.tickets.lookup id = none) {noted : List Happening}
    (hj : v'.journal = noted ++ v.journal) {ticket : Nat} {k : Computed}
    (hid : v'.cache.tickets.lookup id = some ticket)
    (hk : (v'.cache.entryAt ticket).computed = some k) :
    ∃ number late middle early,
      noted = late ++ .sweepEnded number k.contexts ::
        (middle ++ .sweepBegan number id ticket k.generation :: early) ∧
      v.clock ≤ number := by
  obtain ⟨number, late, middle, early, hmade, _⟩ := (h.sound hs).made id ticket k hid hk
  -- a sweep of before would have had an entry of before, which the subject did not have
  have hnew : .sweepBegan number id ticket k.generation ∉ v.journal := by
    intro hin
    have hold := h.lookup_old (hs.past _ _ _ _ hin).2 hid
    rw [hnone] at hold
    simp at hold
  have hsplit : (late ++ .sweepEnded number k.contexts :: middle) ++
      .sweepBegan number id ticket k.generation :: early = noted ++ v.journal := by
    rw [← hj, hmade]
    simp
  obtain ⟨early', hnoted, _⟩ := split_of_not_mem hsplit hnew
  obtain ⟨noted', hj', hbegan, _⟩ := h.noted
  obtain rfl : noted' = noted := List.append_cancel_right (hj'.symm.trans hj)
  refine ⟨number, late, middle, early', ?_, ?_⟩
  · rw [hnoted]
    simp
  · refine hbegan number id ticket k.generation ?_
    rw [hnoted]
    simp

end Traffic

/-! ### Systems as traffic -/

namespace System

variable {ι κ ε : Type} {g : Guests ι κ ε} {s s' : System ι κ ε} {id : SubjectId}
  {contexts : ContextSet} {f : Flight}

/-- What a system has done to its cache, and the given sweeps under way. -/
def traffic (s : System ι κ ε) (flights : List Flight) : Traffic :=
  ⟨s.cache, s.clock, flights, s.journal⟩

theorem traffic_kept (harrive : s.arrive id = (.kept contexts, s')) (flights : List Flight) :
    (s.traffic flights).step (.hit id contexts) (s'.traffic flights) := by
  obtain ⟨hk, rfl⟩ := arrive_kept harrive
  exact ⟨hk, rfl⟩

theorem traffic_due (harrive : s.arrive id = (.due f, s')) (flights : List Flight) :
    (s.traffic flights).step (.launch f) (s'.traffic (f :: flights)) := by
  obtain ⟨-, rfl, rfl⟩ := arrive_due harrive
  exact ⟨⟨rfl, rfl, rfl⟩, rfl⟩

theorem traffic_land {flights : List Flight} (hf : f ∈ flights) :
    (s.traffic flights).step (.land f contexts)
      ((s.land f contexts).traffic (flights.erase f)) :=
  ⟨hf, rfl⟩

/-- Requests that need no other answer leave the sweeps under way. -/
theorem traffic_at_once {r : Request ι κ ε} {a : r.Reply}
    (hr : answer g 0 r s = some (a, s')) (flights : List Flight) :
    ∃ l, (s.traffic flights).step l (s'.traffic flights) := by
  rcases at_once_cases hr with ⟨id, rfl⟩ | ⟨id, rfl⟩ | rfl | ⟨registry, bus, env, rfl⟩
  · exact ⟨.signal id, trivial, rfl⟩
  · exact ⟨.remove id, trivial, rfl⟩
  · exact ⟨.invalidateAll, trivial, rfl⟩
  · exact Traffic.exists_step_same rfl

/-- Nothing has happened to a new system. -/
theorem sound_new (capacity : Nat) (env : ε) :
    ((new capacity env : System ι κ ε).traffic []).Sound := by
  refine ⟨Cache.valid_empty, ?_, ?_, ?_⟩
  · intro f hf
    simp [traffic] at hf
  · intro id ticket k hid
    simp [traffic, new, Cache.empty, Keyed.lookup] at hid
  · intro number id ticket generation hin
    simp [traffic, new] at hin

end System

end PermissionContexts
