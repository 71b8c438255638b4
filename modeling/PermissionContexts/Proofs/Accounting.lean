import Mathlib.Data.Set.Card
import PermissionContexts.Proofs.Operations
import PermissionContexts.Proofs.Races

/-! # What the counts of the cache add up to

    A query is either answered by a kept set or leads to a sweep, and a sweep is counted
    when it ends. So at every moment of a run the queries made so far are

    * the **hits**, the **recomputations**, and the sweeps that are still under way.

    Every entry that nothing was computed for yet is **attended** by one of these sweeps,
    and every subject has at most one entry (`Traffic.Tidy`). When no sweep is under way
    the books are therefore closed.

    Main statement: `accounts_balance`.
-/

namespace PermissionContexts

/-! ### Subjects and entries -/

namespace Cache

variable {c : Cache}

theorem nodup_enter (h : c.tickets.keys.Nodup) (id : SubjectId) :
    (c.enter id).2.tickets.keys.Nodup := by
  cases hid : c.tickets.lookup id with
  | some ticket =>
    rw [enter_of_some hid]
    exact h
  | none =>
    rw [enter_of_none hid]
    exact Keyed.nodup_keys_insert h c.heap.length hid

theorem nodup_remove (h : c.tickets.keys.Nodup) (id : SubjectId) :
    (c.remove id).2.tickets.keys.Nodup := by
  unfold remove
  cases c.tickets.lookup id with
  | some _ => exact Keyed.nodup_keys_erase h id
  | none => exact h

/-- Where no subject has two entries, as many entries are counted as there are subjects with
    an entry. -/
theorem cachedSubjects_eq (h : c.tickets.keys.Nodup) :
    c.stats.cachedSubjects = {id | c.state id ≠ .absent}.ncard := by
  have hset : {id | c.state id ≠ .absent} = (c.tickets.keys.toFinset : Set SubjectId) := by
    ext id
    rw [Set.mem_ofPred_eq, Ne, state_eq_absent, Keyed.lookup_eq_none_iff, not_not,
      Finset.mem_coe, List.mem_toFinset]
  rw [hset, Set.ncard_coe_finset, List.toFinset_card_of_nodup h, Keyed.keys, List.length_map]
  rfl

end Cache

namespace Traffic

variable {v v' : Traffic} {l : Label}

/-- What is kept up besides `Sound`. -/
structure Tidy (v : Traffic) : Prop where
  /-- No subject has two entries. -/
  nodup : v.cache.tickets.keys.Nodup
  /-- For an entry that nothing was computed for a sweep is under way. -/
  attended : ∀ id ticket, v.cache.tickets.lookup id = some ticket →
    (v.cache.entryAt ticket).computed = none → ∃ f ∈ v.flights, f.ticket = ticket

/-- What lands is computed. -/
theorem computed_land_ne {f : Flight} (hlt : f.ticket < v.cache.heap.length)
    (contexts : ContextSet) :
    ((v.cacheAfter (.land f contexts)).entryAt f.ticket).computed ≠ none := by
  show ((v.cache.modify f.ticket (·.store f.generation contexts)).entryAt f.ticket).computed ≠ none
  rw [Cache.entryAt_modify_self _ hlt]
  rcases (v.cache.entryAt f.ticket).store_cases f.generation contexts with ⟨hs, k, hk, _⟩ | ⟨hs, _⟩
  · rw [hs, hk]
    simp
  · rw [hs]
    simp

/-- A query makes an entry for its own subject only. -/
theorem lookup_enter_cases {id id' : SubjectId} {ticket : Nat}
    (h : (v.cache.enter id).2.tickets.lookup id' = some ticket) :
    ticket = (v.cache.enter id).1 ∨ v.cache.tickets.lookup id' = some ticket := by
  rw [Cache.lookup_enter] at h
  split_ifs at h
  · exact Or.inl (Option.some.inj h).symm
  · exact Or.inr h

/-- What was computed for an entry stays, so that nothing was computed before where nothing is
    now. -/
theorem step_uncomputed (hv : v.cache.Valid) (hstep : v.step l v') {ticket : Nat}
    (h : (v'.cache.entryAt ticket).computed = none) :
    (v.cache.entryAt ticket).computed = none := by
  cases hk : (v.cache.entryAt ticket).computed with
  | none => rfl
  | some k =>
    obtain ⟨k', hk', -⟩ := (step_later hv hstep ticket).computed k hk
    rw [h] at hk'
    simp at hk'

/-- Where the subjects keep their entries and the sweeps go on, no entry is left alone. -/
theorem Tidy.of_unchanged (ht : v.Tidy) (htickets : v'.cache.tickets = v.cache.tickets)
    (hflights : v'.flights = v.flights)
    (hnone : ∀ ticket, (v'.cache.entryAt ticket).computed = none →
      (v.cache.entryAt ticket).computed = none) : v'.Tidy := by
  refine ⟨?_, ?_⟩
  · rw [htickets]
    exact ht.nodup
  · intro id ticket h hc
    rw [htickets] at h
    rw [hflights]
    exact ht.attended id ticket h (hnone ticket hc)

theorem Tidy.step (ht : v.Tidy) (hv : v.cache.Valid) (hstep : v.step l v') : v'.Tidy := by
  have hnone : ∀ ticket, (v'.cache.entryAt ticket).computed = none →
      (v.cache.entryAt ticket).computed = none := fun _ => step_uncomputed hv hstep
  obtain ⟨hgate, rfl⟩ := hstep
  match l with
  | .idle _ _ => exact ht.of_unchanged rfl rfl hnone
  | .signal id => exact ht.of_unchanged (v.cache.signal_tickets id) rfl hnone
  | .invalidateAll => exact ht.of_unchanged v.cache.invalidateAll_tickets rfl hnone
  | .hit id contexts =>
    refine ⟨Cache.nodup_enter ht.nodup id, ?_⟩
    intro id' ticket h hc
    have hc := hnone ticket hc
    rcases lookup_enter_cases h with rfl | h
    · -- the entry that answers the query has something
      rw [hgate] at hc
      simp at hc
    · exact ht.attended id' ticket h hc
  | .launch f =>
    refine ⟨Cache.nodup_enter ht.nodup f.id, ?_⟩
    intro id' ticket h hc
    have hc := hnone ticket hc
    rcases lookup_enter_cases h with rfl | h
    · exact ⟨f, List.mem_cons_self .., hgate.2.1⟩
    · obtain ⟨f', hf', rfl⟩ := ht.attended id' ticket h hc
      exact ⟨f', List.mem_cons_of_mem _ hf', rfl⟩
  | .land f contexts =>
    refine ⟨ht.nodup, ?_⟩
    intro id ticket h hc
    have h : v.cache.tickets.lookup id = some ticket := h
    obtain ⟨f', hf', rfl⟩ := ht.attended id ticket h (hnone ticket hc)
    -- another sweep than the one that has landed, which has left its result
    have hne : f' ≠ f := by
      rintro rfl
      exact computed_land_ne (hv.ticket_lt h) contexts hc
    exact ⟨f', (List.mem_erase_of_ne hne).mpr hf', rfl⟩
  | .remove id =>
    refine ⟨Cache.nodup_remove ht.nodup id, ?_⟩
    intro id' ticket h hc
    have h : (v.cache.remove id).2.tickets.lookup id' = some ticket := h
    rw [Cache.lookup_remove] at h
    split_ifs at h
    exact ht.attended id' ticket h (hnone ticket hc)

theorem Reaches.tidy (h : Reaches v v') (hs : v.Sound) (ht : v.Tidy) : v'.Tidy := by
  induction h with
  | refl => exact ht
  | tail hreach hstep ih =>
    obtain ⟨l, hstep⟩ := hstep
    exact ih.step (Reaches.sound hs hreach).valid hstep

/-- When no sweep is under way, something was computed for every entry. -/
theorem Tidy.state_ne_pending (ht : v.Tidy) (hidle : v.flights = []) (id : SubjectId) :
    v.cache.state id ≠ .pending := by
  unfold Cache.state
  cases h : v.cache.find? id with
  | none => simp
  | some e =>
    obtain ⟨ticket, hlookup, rfl⟩ := Option.map_eq_some_iff.mp h
    cases hk : (v.cache.entryAt ticket).computed with
    | none =>
      obtain ⟨f, hf, -⟩ := ht.attended id ticket hlookup hk
      rw [hidle] at hf
      simp at hf
    | some k =>
      simp only [Entry.state, hk]
      split_ifs <;> simp

end Traffic

/-! ### What is counted -/

variable {ι κ ε : Type}

namespace Request

/-- Whether a request is a query. -/
def isQuery : Request ι κ ε → Bool
  | .query _ => true
  | _ => false

end Request

namespace Machine

variable {g : Guests ι κ ε} {m m' m'' : Machine ι κ ε} {ms : List (Machine ι κ ε)}

/-- Whether a query is made next. -/
def asks (m : Machine ι κ ε) : Bool :=
  match m.routine with
  | .ask r _ => r.isQuery
  | _ => false

/-- Whether a signal is made next that is told to have met an entry. -/
def meets (m : Machine ι κ ε) : Bool :=
  match m.routine with
  | .ask r _ => r.meets m.system
  | _ => false

/-- How many queries the cache tells of: those that it has counted, and those that are being
    computed. -/
def queries (m : Machine ι κ ε) : Nat :=
  m.system.cache.stats.recomputations + m.system.cache.stats.cacheHits + m.flights.length

/-- Only a sweep is counted when something ends, and it is not under way any more. -/
theorem counts_resume {e : Ending} (h : m.resume g e = some m') :
    m'.queries = m.queries ∧ m'.system.cache.stats.signals = m.system.cache.stats.signals := by
  obtain ⟨s, r, out, frames⟩ := m
  match frames with
  | [] => simp [resume] at h
  | .sweep f _ [] merged next out' :: frames =>
    obtain rfl := Option.some.inj h
    refine ⟨?_, rfl⟩
    show s.cache.recomputations + 1 + s.cache.cacheHits + (frames.filterMap Frame.flight?).length
      = s.cache.recomputations + s.cache.cacheHits + ((frames.filterMap Frame.flight?).length + 1)
    omega
  | .sweep f subject (c :: cs) merged next out' :: frames =>
    obtain rfl := Option.some.inj h
    exact ⟨rfl, rfl⟩
  | .dispatch number bus event [] next out' :: frames =>
    obtain rfl := Option.some.inj h
    exact ⟨rfl, rfl⟩
  | .dispatch number bus event (l :: ls) next out' :: frames =>
    obtain rfl := Option.some.inj h
    exact ⟨rfl, rfl⟩

/-- A query is counted at once, or a sweep is under way for it. -/
theorem counts_query {subject : Subject ε} {next : ContextSet → Routine ι κ ε}
    (h : m.serve g (.query subject) next = some m') :
    m'.queries = m.queries + 1 ∧
      m'.system.cache.stats.signals = m.system.cache.stats.signals := by
  obtain ⟨s, r, out, frames⟩ := m
  have hstats := s.cache.stats_enter subject.id
  simp only [serve] at h
  split at h
  · next contexts s₁ harrive =>
    obtain rfl := Option.some.inj h
    obtain ⟨-, rfl⟩ := System.arrive_kept harrive
    refine ⟨?_, ?_⟩
    · show (s.cache.enter subject.id).2.stats.recomputations +
        ((s.cache.enter subject.id).2.stats.cacheHits + 1) + _ = _
      rw [hstats]
      simp only [queries, flights]
      omega
    · show (s.cache.enter subject.id).2.stats.signals = _
      rw [hstats]
  · next f s₁ harrive =>
    obtain rfl := Option.some.inj h
    obtain ⟨-, -, rfl⟩ := System.arrive_due harrive
    refine ⟨?_, ?_⟩
    · show (s.cache.enter subject.id).2.stats.recomputations +
        (s.cache.enter subject.id).2.stats.cacheHits +
          ((frames.filterMap Frame.flight?).length + 1) = _
      rw [hstats]
      simp only [queries, flights]
      omega
    · show (s.cache.enter subject.id).2.stats.signals = _
      rw [hstats]

/-- Each query and each signal that meets an entry is counted once, and nothing else. -/
theorem counts_step (h : m.step g = some m') :
    m'.queries = m.queries + (if m.asks then 1 else 0) ∧
      m'.system.cache.stats.signals =
        m.system.cache.stats.signals + if m.meets then 1 else 0 := by
  obtain ⟨s, r, out, frames⟩ := m
  cases r with
  | done => exact counts_resume h
  | panic => exact counts_resume h
  | offer key value next =>
    obtain rfl := Option.some.inj h
    exact ⟨rfl, rfl⟩
  | offerAll contexts next =>
    obtain rfl := Option.some.inj h
    exact ⟨rfl, rfl⟩
  | ask r next =>
    cases r with
    | query subject => exact counts_query (g := g) h
    | publish event =>
      obtain rfl := Option.some.inj h
      exact ⟨rfl, rfl⟩
    | _ =>
      simp only [step, serve, Option.map_eq_some_iff] at h
      obtain ⟨⟨a, s₁⟩, hr, rfl⟩ := h
      obtain ⟨hrecomputations, hhits, hsignals⟩ := System.stats_at_once hr
      refine ⟨?_, hsignals⟩
      simp only [queries, hrecomputations, hhits]
      rfl

/-! ### Runs -/

/-- The machine comes from `m` to a later moment by way of some moments, the latest first. -/
inductive Path (g : Guests ι κ ε) (m : Machine ι κ ε) :
    List (Machine ι κ ε) → Machine ι κ ε → Prop where
  /-- Nothing has been done yet. -/
  | nil : Path g m [] m
  /-- One more step is made. -/
  | snoc {ms : List (Machine ι κ ε)} {m' m'' : Machine ι κ ε} :
      Path g m ms m' → m'.step g = some m'' → Path g m (m' :: ms) m''

theorem Path.reaches (h : Path g m ms m') : Reaches g m m' := by
  induction h with
  | nil => exact .refl
  | snoc _ hs ih => exact .tail ih hs

/-- Whatever the machine reaches it comes to by some way. -/
theorem exists_path (h : Reaches g m m') : ∃ ms, Path g m ms m' := by
  induction h with
  | refl => exact ⟨[], .nil⟩
  | tail _ hs ih =>
    obtain ⟨ms, hpath⟩ := ih
    exact ⟨_, hpath.snoc hs⟩

theorem Path.counts (h : Path g m ms m') :
    m'.queries = m.queries + ms.countP asks ∧
      m'.system.cache.stats.signals = m.system.cache.stats.signals + ms.countP meets := by
  induction h with
  | nil => exact ⟨rfl, rfl⟩
  | snoc _ hs ih =>
    obtain ⟨hqueries, hsignals⟩ := counts_step hs
    obtain ⟨hqueries', hsignals'⟩ := ih
    rw [List.countP_cons, List.countP_cons]
    omega

theorem Path.reachable {capacity : Nat} {env : ε} {r : Routine ι κ ε}
    (h : Path g (start r (.new capacity env)) ms m) : Reachable g m :=
  ⟨capacity, env, r, h.reaches⟩

theorem Path.tidy {capacity : Nat} {env : ε} {r : Routine ι κ ε}
    (h : Path g (start r (.new capacity env)) ms m) : m.traffic.Tidy := by
  refine (traffic_reaches h.reaches).tidy (System.sound_new capacity env) ⟨?_, ?_⟩
  · exact List.nodup_nil
  · intro id ticket hlookup
    simp [traffic, start, System.new, Cache.empty, Keyed.lookup] at hlookup

end Machine

/-! ### Between two queries -/

namespace Operation

/-- The operation is no query and does not remove the subject. -/
def between (id : SubjectId) : Operation ε → Bool
  | .query _ => false
  | .signal _ => true
  | .remove id' => id' ≠ id
  | .invalidateAll => true

/-- The operation makes the kept contexts of the subject stale. -/
def spoils (id : SubjectId) : Operation ε → Bool
  | .query _ => false
  | .signal id' => id' = id
  | .remove _ => false
  | .invalidateAll => true

end Operation

variable {id : SubjectId} {states : SubjectId → CacheState} {ops : List (Operation ε)}

theorem computations_append (ops ops' : List (Operation ε)) :
    computations states (ops ++ ops') =
      computations states ops + computations (ops.foldl CacheState.allNext states) ops' := by
  induction ops generalizing states with
  | nil => simp [computations]
  | cons o ops ih =>
    rw [List.cons_append, computations, ih, computations, List.foldl_cons, Nat.add_assoc]

/-- Nothing is computed before somebody is asked for. -/
theorem computations_between (h : ∀ o ∈ ops, o.between id = true) :
    computations states ops = 0 := by
  induction ops generalizing states with
  | nil => rfl
  | cons o ops ih =>
    have ho : o.between id = true := h o (List.mem_cons_self ..)
    have hcomputes : o.computes states = false := by
      cases o with
      | query subject => simp [Operation.between] at ho
      | _ => rfl
    rw [computations, hcomputes, ih fun o' h' => h o' (List.mem_cons_of_mem _ h')]
    rfl

/-- An operation between two queries makes the set that is kept stale, or leaves it as it is. -/
theorem allNext_between {o : Operation ε} (ho : o.between id = true)
    (hkept : states id = .fresh ∨ states id = .stale) :
    CacheState.allNext states o id = if o.spoils id then .stale else states id := by
  have hspoiled : (states id).spoiled = .stale := by
    rcases hkept with hfresh | hstale
    · rw [hfresh]
      rfl
    · rw [hstale]
      rfl
  rw [← hspoiled]
  unfold CacheState.allNext
  cases o with
  | query subject => simp [Operation.between] at ho
  | signal id' => simp [Operation.concerns, Operation.spoils, CacheState.next]
  | remove id' =>
    have hne : id' ≠ id := of_decide_eq_true ho
    simp [Operation.concerns, Operation.spoils, hne]
  | invalidateAll => rfl

/-- However many signals come for a subject of which a set is kept, the set is stale, and
    without a signal it stays as it is. -/
theorem foldl_allNext_between (states : SubjectId → CacheState)
    (h : ∀ o ∈ ops, o.between id = true)
    (hkept : states id = .fresh ∨ states id = .stale) :
    ops.foldl CacheState.allNext states id =
      if ops.any (·.spoils id) then .stale else states id := by
  induction ops generalizing states with
  | nil => rfl
  | cons o ops ih =>
    have hnext := allNext_between (h o (List.mem_cons_self ..)) hkept
    have hrest := ih (CacheState.allNext states o) fun o' h' => h o' (List.mem_cons_of_mem _ h')
    rw [hnext] at hrest
    rw [List.foldl_cons, List.any_cons]
    by_cases hspoils : o.spoils id = true
    · rw [if_pos hspoils] at hrest
      rw [hrest (Or.inr rfl), hspoils, Bool.true_or, if_pos rfl, ite_self]
    · rw [if_neg hspoils] at hrest
      rw [hrest hkept, Bool.eq_false_iff.mpr hspoils, Bool.false_or]

/-- Between two queries of a subject at most one set has become stale, however many signals
    there were. -/
theorem computations_query_query {subject subject' : Subject ε} (hid : subject'.id = subject.id)
    (h : ∀ o ∈ ops, o.between subject.id = true) :
    computations states (.query subject :: (ops ++ [.query subject'])) =
      (if states subject.id ≠ .fresh then 1 else 0) +
        if ops.any (·.spoils subject.id) then 1 else 0 := by
  have hfresh : CacheState.allNext states (.query subject) subject.id = .fresh := by
    simp [CacheState.allNext, Operation.concerns, CacheState.next]
  have hlast : ops.foldl CacheState.allNext (CacheState.allNext states (.query subject))
      subject.id = if ops.any (·.spoils subject.id) then .stale else .fresh := by
    rw [foldl_allNext_between _ h (Or.inl hfresh), hfresh]
  rw [computations, computations_append, computations_between h, Nat.zero_add]
  simp only [computations, Operation.computes, hid, hlast, decide_eq_true_eq]
  cases ops.any (·.spoils subject.id) <;> simp

/-! ### The books -/

theorem CacheState.ne_fresh_iff {state : CacheState} (h : state ≠ .pending) :
    state ≠ .fresh ↔ state = .absent ∨ state = .stale := by
  cases state <;> simp_all

namespace System

variable {g : Guests ι κ ε} {s : System ι κ ε}

/-- A query of a subject that is not pending has something computed if nothing good is kept. -/
theorem query_computes (hg : g.Quiet) (hv : s.cache.Valid) (depth : Nat) (subject : Subject ε)
    (hpending : s.cache.state subject.id ≠ .pending) :
    ∃ contexts s', answer g (depth + 1) (.query subject) s = some (contexts, s') ∧
      s'.cache.stats.recomputations = s.cache.stats.recomputations +
        if s.cache.state subject.id = .absent ∨ s.cache.state subject.id = .stale then 1
        else 0 := by
  obtain ⟨contexts, s', hquery, hqueried⟩ := query_quiet hg hv depth subject
  refine ⟨contexts, s', hquery, ?_⟩
  rw [hqueried.recomputations]
  simp only [CacheState.ne_fresh_iff hpending]

/-- Two queries of a subject have something computed for the second one if there was a signal
    in between, and once however many there were. -/
theorem queries_compute (hg : g.Quiet) (hv : s.cache.Valid) (depth : Nat)
    {subject subject' : Subject ε} (hpending : s.cache.state subject.id ≠ .pending)
    (hid : subject'.id = subject.id) (hops : ∀ o ∈ ops, o.between subject.id = true) :
    ∃ transcript s', operateAll g (depth + 1) (.query subject :: (ops ++ [.query subject'])) s =
        some (transcript, s') ∧
      s'.cache.stats.recomputations = s.cache.stats.recomputations +
        (if s.cache.state subject.id = .absent ∨ s.cache.state subject.id = .stale then 1
          else 0) + if ops.any (·.spoils subject.id) then 1 else 0 := by
  obtain ⟨transcript, s', hrun, h⟩ :=
    operateAll_quiet hg hv depth (.query subject :: (ops ++ [.query subject']))
  refine ⟨transcript, s', hrun, ?_⟩
  rw [h.recomputations, computations_query_query hid hops]
  simp only [CacheState.ne_fresh_iff hpending, Nat.add_assoc]

end System

namespace Machine

variable {g : Guests ι κ ε} {m : Machine ι κ ε} {ms : List (Machine ι κ ε)}

/-- **The accounts balance** whenever no query is under way, whatever calculators and listeners
    have done: every query was a recomputation or a hit, every signal that met an entry was
    counted, the entries are those of the subjects that are not absent, and nobody is
    pending. From there on, as long as calculators do not call back, a query has something
    computed exactly if its subject is absent or stale, and any number of signals between two
    queries costs one recomputation. -/
theorem accounts_balance {capacity : Nat} {env : ε} {r : Routine ι κ ε}
    (h : Path g (start r (.new capacity env)) ms m) (hidle : m.flights = []) :
    m.system.cache.stats.recomputations + m.system.cache.stats.cacheHits = ms.countP asks ∧
      m.system.cache.stats.signals = ms.countP meets ∧
      m.system.cache.stats.cachedSubjects = {id | m.system.cache.state id ≠ .absent}.ncard ∧
      (∀ id, m.system.cache.state id ≠ .pending) ∧
      (g.Quiet → ∀ depth subject, ∃ contexts s',
        System.answer g (depth + 1) (.query subject) m.system = some (contexts, s') ∧
        s'.cache.stats.recomputations = m.system.cache.stats.recomputations +
          if m.system.cache.state subject.id = .absent ∨
            m.system.cache.state subject.id = .stale then 1 else 0) ∧
      (g.Quiet → ∀ depth subject subject' ops, subject'.id = subject.id →
        (∀ o ∈ ops, o.between subject.id = true) →
        ∃ transcript s', System.operateAll g (depth + 1)
            (.query subject :: (ops ++ [.query subject'])) m.system = some (transcript, s') ∧
          s'.cache.stats.recomputations = m.system.cache.stats.recomputations +
            (if m.system.cache.state subject.id = .absent ∨
              m.system.cache.state subject.id = .stale then 1 else 0) +
            if ops.any (·.spoils subject.id) then 1 else 0) := by
  have hv : m.system.cache.Valid := h.reachable.sound.valid
  have hpending : ∀ id, m.system.cache.state id ≠ .pending := h.tidy.state_ne_pending hidle
  obtain ⟨hqueries, hsignals⟩ := h.counts
  refine ⟨?_, ?_, Cache.cachedSubjects_eq h.tidy.nodup, hpending, ?_, ?_⟩
  · have hnone : m.queries = ms.countP asks := by
      rw [hqueries]
      exact Nat.zero_add _
    rw [← hnone, queries, hidle]
    rfl
  · rw [hsignals]
    exact Nat.zero_add _
  · intro hg depth subject
    exact System.query_computes hg hv depth subject (hpending subject.id)
  · intro hg depth subject subject' ops hid hops
    exact System.queries_compute hg hv depth (hpending subject.id) hid hops

/-- Guests whose one calculator asks for the contexts of somebody else and then fails, unless
    it is the other who is asked for. -/
def nesting : Guests Unit Unit Unit where
  calculator _ := ⟨fun subject =>
    if subject.id = "b" then .done
    else .ask (.query ⟨"b", fun _ => none, fun _ => none⟩) fun _ => .panic, fun _ => none⟩
  handle _ _ := .done

/-- Somebody is asked for, signalled, and asked for again; somebody unknown is signalled too. -/
def nestingRun : Routine Unit Unit Unit :=
  let a : Subject Unit := ⟨"a", fun _ => none, fun _ => none⟩
  .ask (.register "nesting" ()) fun _ => .ask (.query a) fun _ => .ask (.signal "a") fun _ =>
    .ask (.signal "c") fun _ => .ask (.query a) fun _ => .done

theorem nestingRun_ends : ∃ s, System.run nesting 2 nestingRun (.new 1 ()) =
    some (.finished, s, .empty) ∧ s.cache.stats = ⟨3, 1, 1, 2⟩ :=
  ⟨_, rfl, rfl⟩

/-- One calculator is registered that does not call back, and nobody is asked for yet. -/
def quietRun : Routine Unit Unit Unit :=
  .ask (.register "naming" ()) fun _ => .done

theorem quietRun_ends : ∃ s, System.run System.naming 2 quietRun (.new 1 ()) =
    some (.finished, s, .empty) ∧ s.cache = .empty :=
  ⟨_, rfl, rfl⟩

/-- Three signals, two of them for the first subject. -/
def threeSignals : List (Operation Unit) :=
  [.signal "a", .signal "b", .signal "a"]

theorem bothRuns_balance :
    (∃ ms m, Path nesting (start nestingRun (.new 1 ())) ms m ∧
      m.flights = [] ∧ ms.countP asks = 4 ∧ ms.countP meets = 1 ∧
      {id | m.system.cache.state id ≠ .absent}.ncard = 2) ∧
    ∃ ms m, Path System.naming (start quietRun (.new 1 ())) ms m ∧ m.flights = [] ∧
      ∀ a : Subject Unit, a.id = "a" →
        (∃ contexts s', System.answer System.naming 1 (.query a) m.system = some (contexts, s') ∧
          s'.cache.stats.recomputations = 1) ∧
        ∃ transcript s', System.operateAll System.naming 1
            (.query a :: (threeSignals ++ [.query a])) m.system = some (transcript, s') ∧
          s'.cache.stats.recomputations = 2 := by
  refine ⟨?_, ?_⟩
  · obtain ⟨s, hrun, hstats⟩ := nestingRun_ends
    obtain ⟨ms, hpath⟩ := exists_path (reaches_of_run hrun)
    obtain ⟨hqueries, hsignals, hsubjects, -⟩ := accounts_balance hpath rfl
    have hstats : (⟨s, Ending.finished.routine, .empty, []⟩ :
        Machine Unit Unit Unit).system.cache.stats = ⟨3, 1, 1, 2⟩ := hstats
    rw [hstats] at hqueries hsignals hsubjects
    exact ⟨ms, _, hpath, rfl, hqueries.symm, hsignals.symm, hsubjects.symm⟩
  · obtain ⟨s, hrun, hcache⟩ := quietRun_ends
    obtain ⟨ms, hpath⟩ := exists_path (reaches_of_run hrun)
    obtain ⟨-, -, -, -, hquery, hqueries⟩ := accounts_balance hpath rfl
    have hcache : (⟨s, Ending.finished.routine, .empty, []⟩ :
        Machine Unit Unit Unit).system.cache = .empty := hcache
    rw [hcache] at hquery hqueries
    have hquiet : System.naming.Quiet := System.naming_passive.quiet
    refine ⟨ms, _, hpath, rfl, ?_⟩
    intro a ha
    obtain ⟨contexts, s₁, hanswer, hcount⟩ := hquery hquiet 0 a
    obtain ⟨transcript, s₂, hall, hcounts⟩ :=
      hqueries hquiet 0 a a threeSignals rfl (by rw [ha]; decide)
    rw [ha] at hcount hcounts
    exact ⟨⟨contexts, s₁, hanswer, hcount.trans (by decide)⟩,
      transcript, s₂, hall, hcounts.trans (by decide)⟩

end Machine

end PermissionContexts
