import PermissionContexts.Engine.System
import PermissionContexts.Proofs.Cache

/-! # How the system lets queries in

    A query finds the entry of its subject, or gets a new one, and is answered at once
    exactly if what is kept there was computed at the entry's present generation. If the
    calculators do not call back, the query renews this entry and does nothing else to the
    cache (`Queried`).
-/

namespace PermissionContexts

/-- Guests that do nothing. -/
def Guests.idle {ι κ ε : Type} : Guests ι κ ε where
  calculator _ := ⟨fun _ => .done, fun _ => none⟩
  handle _ _ := .done

/-- Whether a request is a signal that is told to have met an entry. -/
def Request.meets {ι κ ε : Type} (s : System ι κ ε) : Request ι κ ε → Bool
  | .signal id => (s.signal id).1
  | _ => false

namespace System

variable {ι κ ε : Type}

/-- The two things that a query can meet, with what becomes of the system. -/
theorem arrive_cases (s : System ι κ ε) (id : SubjectId) :
    (∃ contexts,
      (s.cache.entryAt (s.cache.enter id).1).computed =
        some ⟨(s.cache.entryAt (s.cache.enter id).1).generation, contexts⟩ ∧
      s.arrive id = (.kept contexts, { s with
        cache := (s.cache.enter id).2.countHit
        journal := .served id (s.cache.enter id).1 contexts ::
          .asked id (s.cache.enter id).1 :: s.journal })) ∨
    ((∀ contexts, (s.cache.entryAt (s.cache.enter id).1).computed ≠
        some ⟨(s.cache.entryAt (s.cache.enter id).1).generation, contexts⟩) ∧
      s.arrive id = (.due ⟨s.clock, id, (s.cache.enter id).1,
          (s.cache.entryAt (s.cache.enter id).1).generation⟩, { s with
        cache := (s.cache.enter id).2
        clock := s.clock + 1
        journal := .sweepBegan s.clock id (s.cache.enter id).1
            (s.cache.entryAt (s.cache.enter id).1).generation ::
          .asked id (s.cache.enter id).1 :: s.journal })) := by
  -- to enter changes no entry, so the one that is asked can be read off the cache of before
  have hentry := s.cache.entryAt_enter id (s.cache.enter id).1
  cases h : (s.cache.entryAt (s.cache.enter id).1).cachedAt
      (s.cache.entryAt (s.cache.enter id).1).generation with
  | some contexts =>
    left
    refine ⟨contexts, Entry.cachedAt_eq_some.mp h, ?_⟩
    simp only [arrive, hentry, h]
    rfl
  | none =>
    right
    refine ⟨?_, ?_⟩
    · intro contexts hk
      rw [Entry.cachedAt_eq_some.mpr hk] at h
      simp at h
    · simp only [arrive, hentry, h]
      rfl

/-- When a query is answered at once, something good is kept; what becomes of the system. -/
theorem arrive_kept {s s' : System ι κ ε} {id : SubjectId} {contexts : ContextSet}
    (h : s.arrive id = (.kept contexts, s')) :
    (s.cache.entryAt (s.cache.enter id).1).computed =
      some ⟨(s.cache.entryAt (s.cache.enter id).1).generation, contexts⟩ ∧
    s' = { s with
      cache := (s.cache.enter id).2.countHit
      journal := .served id (s.cache.enter id).1 contexts ::
        .asked id (s.cache.enter id).1 :: s.journal } := by
  rcases s.arrive_cases id with ⟨kept, hk, harrive⟩ | ⟨_, harrive⟩
  · rw [harrive] at h
    obtain ⟨hkept, rfl⟩ := Prod.mk.inj h
    obtain rfl := Arrival.kept.inj hkept
    exact ⟨hk, rfl⟩
  · rw [harrive] at h
    simp at h

/-- When a sweep is due, nothing good is kept; its flight and what becomes of the system. -/
theorem arrive_due {s s' : System ι κ ε} {id : SubjectId} {f : Flight}
    (h : s.arrive id = (.due f, s')) :
    (∀ contexts, (s.cache.entryAt (s.cache.enter id).1).computed ≠
      some ⟨(s.cache.entryAt (s.cache.enter id).1).generation, contexts⟩) ∧
    f = ⟨s.clock, id, (s.cache.enter id).1,
      (s.cache.entryAt (s.cache.enter id).1).generation⟩ ∧
    s' = { s with
      cache := (s.cache.enter id).2
      clock := s.clock + 1
      journal := .sweepBegan f.number id f.ticket f.generation ::
        .asked id f.ticket :: s.journal } := by
  rcases s.arrive_cases id with ⟨_, _, harrive⟩ | ⟨hnone, harrive⟩
  · rw [harrive] at h
    simp at h
  · rw [harrive] at h
    obtain ⟨hf, rfl⟩ := Prod.mk.inj h
    obtain rfl := Arrival.due.inj hf
    exact ⟨hnone, rfl, rfl⟩

/-- A query is answered at once by the good set that is kept for its subject. -/
theorem kept_of_arrive {s s' : System ι κ ε} {id : SubjectId} {contexts : ContextSet}
    (h : s.arrive id = (.kept contexts, s')) : s.cache.Keeps id contexts :=
  Cache.keeps_iff_enter.mpr (arrive_kept h).1

/-- A sweep is due for a subject of which nothing good is kept. -/
theorem exists_due {s : System ι κ ε} {id : SubjectId} (h : s.cache.state id ≠ .fresh) :
    ∃ f s', s.arrive id = (.due f, s') := by
  rcases s.arrive_cases id with ⟨contexts, _, harrive⟩ | ⟨_, harrive⟩
  · exact absurd (Cache.state_eq_fresh.mpr ⟨contexts, kept_of_arrive harrive⟩) h
  · exact ⟨_, _, harrive⟩

theorem query_of_kept {g : Guests ι κ ε} {answer : Answering ι κ ε} {subject : Subject ε}
    {s s' : System ι κ ε} {contexts : ContextSet}
    (harrive : s.arrive subject.id = (.kept contexts, s')) :
    query g answer subject s = some (contexts, s') := by
  simp only [query, harrive]

theorem query_of_due {g : Guests ι κ ε} {answer : Answering ι κ ε} {subject : Subject ε}
    {s s₁ s₂ : System ι κ ε} {f : Flight} {contexts : ContextSet}
    (harrive : s.arrive subject.id = (.due f, s₁))
    (hsweep : sweep g answer f.number subject s₁.registry.snapshot s₁ .empty =
      some (s₂, contexts)) :
    query g answer subject s = some (contexts, s₂.land f contexts) := by
  simp only [query, harrive, hsweep]

/-! ### What a query leaves behind -/

/-- What a query leaves behind that was answered by `contexts`, if calculators did not call
    back. -/
structure Queried (subject : Subject ε) (contexts : ContextSet) (s s' : System ι κ ε) : Prop where
  /-- The cache is valid. -/
  valid : s'.cache.Valid
  /-- The registry is as it was. -/
  registry : s'.registry = s.registry
  /-- The answer is kept for the subject, and others find what they found before. -/
  find? : ∀ id, s'.cache.find? id =
    if subject.id = id then some (((s.cache.find? id).getD .new).renewed contexts)
    else s.cache.find? id
  /-- A good set is the answer. -/
  kept : ∀ kept, s.cache.Keeps subject.id kept → contexts = kept
  /-- Something is computed unless there is a good set. -/
  recomputations : s'.cache.stats.recomputations =
    s.cache.stats.recomputations + if s.cache.state subject.id ≠ .fresh then 1 else 0

/-- Nothing becomes good but the answer. -/
theorem Queried.keeps {subject : Subject ε} {contexts contexts' : ContextSet}
    {s s' : System ι κ ε} (h : Queried subject contexts s s') {id : SubjectId}
    (hk : s'.cache.Keeps id contexts') :
    (id = subject.id ∧ contexts' = contexts) ∨ s.cache.Keeps id contexts' := by
  obtain ⟨e, he, hcomputed⟩ := Cache.keeps_iff.mp hk
  rw [h.find?] at he
  split_ifs at he with hid
  · left
    obtain rfl := Option.some.inj he
    simp only [Entry.renewed, Option.some.injEq, Computed.mk.injEq, true_and] at hcomputed
    exact ⟨hid.symm, hcomputed.symm⟩
  · exact Or.inr (Cache.keeps_iff.mpr ⟨e, he, hcomputed⟩)

theorem queried_of_kept {subject : Subject ε} {contexts : ContextSet} {s s' : System ι κ ε}
    (hv : s.cache.Valid) (h : s.arrive subject.id = (.kept contexts, s')) :
    Queried subject contexts s s' := by
  have hgood : s.cache.Keeps subject.id contexts := kept_of_arrive h
  obtain ⟨hk, rfl⟩ := arrive_kept h
  refine ⟨(hv.enter subject.id).countHit, rfl, ?_, ?_, ?_⟩
  · intro id
    rw [Cache.find?_countHit, Cache.find?_enter]
    split_ifs with hid
    · subst hid
      rw [Cache.entryAt_enter_ticket] at hk
      rw [Entry.renewed_of_computed hk]
    · rfl
  · intro kept hkept
    have hk' := Cache.keeps_iff_enter.mp hkept
    exact (Computed.mk.inj (Option.some.inj (hk.symm.trans hk'))).2
  · rw [if_neg (not_not.mpr (Cache.state_eq_fresh.mpr ⟨contexts, hgood⟩))]
    show (s.cache.enter subject.id).2.stats.recomputations = _
    rw [Cache.stats_enter]
    rfl

/-- The sweep leaves its result in the entry that let the query in. -/
theorem queried_of_due {subject : Subject ε} {f : Flight} {s s₁ s₂ : System ι κ ε}
    (hv : s.cache.Valid) (h : s.arrive subject.id = (.due f, s₁)) (hcache : s₂.cache = s₁.cache)
    (hregistry : s₂.registry = s₁.registry) (contexts : ContextSet) :
    Queried subject contexts s (s₂.land f contexts) := by
  obtain ⟨hnone, rfl, rfl⟩ := arrive_due h
  have hv' : (s.cache.enter subject.id).2.Valid := hv.enter subject.id
  have hlookup : (s.cache.enter subject.id).2.countSweep.tickets.lookup subject.id =
      some (s.cache.enter subject.id).1 := by
    show (s.cache.enter subject.id).2.tickets.lookup subject.id = _
    rw [Cache.lookup_enter, if_pos rfl]
  have hnot : ∀ kept, ¬ s.cache.Keeps subject.id kept :=
    fun kept hkept => hnone kept (Cache.keeps_iff_enter.mp hkept)
  refine ⟨?_, hregistry, ?_, fun kept hkept => absurd hkept (hnot kept), ?_⟩
  · show (s₂.cache.countSweep.deposit _ _ _).Valid
    rw [hcache]
    refine hv'.countSweep.deposit contexts ?_
    simp
  · intro id
    show (s₂.cache.countSweep.deposit _ _ _).find? id = _
    rw [hcache, hv'.countSweep.find?_deposit hlookup, Cache.entryAt_enter_ticket,
      Cache.find?_countSweep]
    have hfound := s.cache.find?_enter subject.id id
    split_ifs at hfound ⊢ with hid
    · subst hid
      rw [hfound, Option.map_some, Entry.store_present (hv'.behind_find? hfound)]
    · exact hfound
  · have hstate : s.cache.state subject.id ≠ .fresh := by
      intro hfresh
      obtain ⟨kept, hkept⟩ := Cache.state_eq_fresh.mp hfresh
      exact hnot kept hkept
    rw [if_pos hstate]
    show s₂.cache.stats.recomputations + 1 = _
    rw [hcache]
    show (s.cache.enter subject.id).2.stats.recomputations + 1 = _
    rw [Cache.stats_enter]

/-! ### Requests without sweeps and dispatches -/

/-- A request that is no query and publishes no event needs no depth. -/
theorem answer_zero {g : Guests ι κ ε} {depth : Nat} {r : Request ι κ ε} {s : System ι κ ε}
    (hquery : ∀ subject, r ≠ .query subject) (hpublish : ∀ event, r ≠ .publish event) :
    answer g depth r s = answer g 0 r s := by
  cases r with
  | query subject => exact absurd rfl (hquery subject)
  | publish event => exact absurd rfl (hpublish event)
  | _ => simp only [answer]

/-- A calculator that is added or refused changes the registry at most. -/
theorem register_snd (s : System ι κ ε) (name : String) (calculator : ι) :
    ∃ registry, (s.register name calculator).2 = { s with registry := registry } :=
  ⟨(s.registry.register name calculator).2, rfl⟩

/-- All that a request without a sweep or a dispatch can do to a system: of cache, clock and
    journal it touches none, but for signals, removals and invalidation. -/
theorem at_once_cases {g : Guests ι κ ε} {r : Request ι κ ε} {a : r.Reply} {s s' : System ι κ ε}
    (hr : answer g 0 r s = some (a, s')) :
    (∃ id, s' = (s.signal id).2) ∨ (∃ id, s' = (s.remove id).2) ∨ s' = s.invalidateAll ∨
      ∃ registry bus env, s' = { s with registry := registry, bus := bus, env := env } := by
  cases r with
  | query subject => simp [answer] at hr
  | publish event => simp [answer] at hr
  | signal id =>
    obtain ⟨-, rfl⟩ := Prod.mk.inj (Option.some.inj hr)
    exact Or.inl ⟨id, rfl⟩
  | remove id =>
    obtain ⟨-, rfl⟩ := Prod.mk.inj (Option.some.inj hr)
    exact Or.inr (Or.inl ⟨id, rfl⟩)
  | invalidateAll =>
    obtain ⟨-, rfl⟩ := Prod.mk.inj (Option.some.inj hr)
    exact Or.inr (Or.inr (Or.inl rfl))
  | register name calculator =>
    -- whether the name is taken makes a difference to the registry only
    obtain ⟨registry, hregister⟩ := s.register_snd name calculator
    have hs' : s' = (s.register name calculator).2 := (Prod.mk.inj (Option.some.inj hr)).2.symm
    exact Or.inr (Or.inr (Or.inr ⟨registry, s.bus, s.env, hs'.trans hregister⟩))
  | _ =>
    obtain ⟨-, rfl⟩ := Prod.mk.inj (Option.some.inj hr)
    exact Or.inr (Or.inr (Or.inr ⟨_, _, _, rfl⟩))

/-- A request that is answered at once counts as a signal at most. -/
theorem stats_at_once {g : Guests ι κ ε} {r : Request ι κ ε} {a : r.Reply}
    {s s' : System ι κ ε} (hr : answer g 0 r s = some (a, s')) :
    s'.cache.stats.recomputations = s.cache.stats.recomputations ∧
      s'.cache.stats.cacheHits = s.cache.stats.cacheHits ∧
      s'.cache.stats.signals = s.cache.stats.signals + if r.meets s then 1 else 0 := by
  cases r with
  | query subject => simp [answer] at hr
  | publish event => simp [answer] at hr
  | signal id =>
    obtain rfl : (s.signal id).2 = s' := (Prod.mk.inj (Option.some.inj hr)).2
    have hstats : (s.signal id).2.cache.stats = _ := s.cache.stats_signal id
    rw [hstats]
    exact ⟨rfl, rfl, rfl⟩
  | remove id =>
    obtain rfl : (s.remove id).2 = s' := (Prod.mk.inj (Option.some.inj hr)).2
    have hstats : (s.remove id).2.cache.stats = _ := s.cache.stats_remove id
    rw [hstats]
    exact ⟨rfl, rfl, rfl⟩
  | invalidateAll =>
    obtain ⟨-, rfl⟩ := Prod.mk.inj (Option.some.inj hr)
    have hstats : s.invalidateAll.cache.stats = _ := s.cache.stats_invalidateAll
    rw [hstats]
    exact ⟨rfl, rfl, rfl⟩
  | register name calculator =>
    obtain ⟨registry, hregister⟩ := s.register_snd name calculator
    obtain rfl : s' = (s.register name calculator).2 := (Prod.mk.inj (Option.some.inj hr)).2.symm
    rw [hregister]
    exact ⟨rfl, rfl, rfl⟩
  | _ =>
    obtain ⟨-, rfl⟩ := Prod.mk.inj (Option.some.inj hr)
    exact ⟨rfl, rfl, rfl⟩

/-! ### Requests one after the other -/

/-- The system after requests have been answered one after the other. -/
def perform (g : Guests ι κ ε) (depth : Nat) : List (Request ι κ ε) → System ι κ ε →
    Option (System ι κ ε)
  | [], s => some s
  | r :: rest, s =>
    match answer g depth r s with
    | some (_, s) => perform g depth rest s
    | none => none

section

variable {g : Guests ι κ ε} {depth : Nat} {start s s' : System ι κ ε}
  {requests : List (Request ι κ ε)} {r : Request ι κ ε}

theorem perform_append (before after : List (Request ι κ ε)) :
    perform g depth (before ++ after) start =
      (perform g depth before start).bind (perform g depth after) := by
  induction before generalizing start with
  | nil => rfl
  | cons r rest ih =>
    simp only [List.cons_append, perform]
    cases answer g depth r start with
    | none => rfl
    | some p => exact ih

theorem perform_concat {a : r.Reply} (hs : perform g depth requests start = some s)
    (hr : answer g depth r s = some (a, s')) :
    perform g depth (requests ++ [r]) start = some s' := by
  rw [perform_append, hs]
  simp only [Option.bind_some, perform, hr]

end

end System

end PermissionContexts
