import Mathlib.Data.List.Basic
import PermissionContexts.Engine.Cache
import PermissionContexts.Proofs.Keyed

/-! # What the operations of the cache do

    A valid cache gives every subject a ticket of its own, and keeps nothing that was
    computed at a generation that its entry has not reached. For such a cache this
    module says, operation by operation,

    * what a subject finds afterwards (`find?`), and
    * what becomes of each entry on the heap (`entryAt`), whoever holds its ticket.

    Entries only ever grow **later**: their generation never falls, and what they keep
    is replaced by nothing of an earlier generation.
-/

namespace PermissionContexts

/-! ### Entries -/

namespace Entry

variable {e e' e'' : Entry}

theorem cachedAt_eq_some {generation : Nat} {contexts : ContextSet} :
    e.cachedAt generation = some contexts ↔ e.computed = some ⟨generation, contexts⟩ := by
  unfold cachedAt
  cases hc : e.computed with
  | none => simp
  | some k =>
    obtain ⟨n, s⟩ := k
    by_cases hn : n = generation <;> simp [hn]

theorem state_eq_fresh_iff :
    e.state = .fresh ↔ ∃ contexts, e.computed = some ⟨e.generation, contexts⟩ := by
  unfold state
  cases hc : e.computed with
  | none => simp
  | some k =>
    obtain ⟨n, s⟩ := k
    by_cases hn : n = e.generation <;> simp [hn]

@[simp] theorem new_generation : new.generation = 0 := rfl

@[simp] theorem new_computed : new.computed = none := rfl

@[simp] theorem bump_generation : e.bump.generation = e.generation + 1 := rfl

@[simp] theorem bump_computed : e.bump.computed = e.computed := rfl

/-- A store is refused when something of a later generation is kept, and otherwise
    done. -/
theorem store_cases (e : Entry) (generation : Nat) (contexts : ContextSet) :
    (e.store generation contexts = e ∧ ∃ k, e.computed = some k ∧ generation < k.generation) ∨
      (e.store generation contexts = { e with computed := some ⟨generation, contexts⟩ } ∧
        ∀ k, e.computed = some k → k.generation ≤ generation) := by
  unfold store
  cases hc : e.computed with
  | none => right; simp
  | some k =>
    by_cases hlt : generation < k.generation
    · left
      simp [hlt]
    · right
      simp only [hlt, if_false, true_and]
      intro k' hk'
      obtain rfl := Option.some.inj hk'
      exact Nat.le_of_not_lt hlt

theorem store_of_forall_le {g : Nat} (h : ∀ k, e.computed = some k → k.generation ≤ g)
    (contexts : ContextSet) :
    e.store g contexts = { e with computed := some ⟨g, contexts⟩ } := by
  rcases e.store_cases g contexts with ⟨-, k, hk, hlt⟩ | ⟨hs, -⟩
  · exact absurd (h k hk) (Nat.not_le_of_lt hlt)
  · exact hs

theorem store_of_lt {g : Nat} {k : Computed} (hk : e.computed = some k) (h : g < k.generation)
    (contexts : ContextSet) : e.store g contexts = e := by
  rcases e.store_cases g contexts with ⟨hs, -⟩ | ⟨-, hle⟩
  · exact hs
  · exact absurd (hle k hk) (Nat.not_le_of_lt h)

/-- The entry with a set that was computed at its present generation. -/
def renewed (e : Entry) (contexts : ContextSet) : Entry :=
  { e with computed := some ⟨e.generation, contexts⟩ }

@[simp] theorem state_renewed (e : Entry) (contexts : ContextSet) :
    (e.renewed contexts).state = .fresh := by
  simp [renewed, state]

theorem renewed_of_computed {contexts : ContextSet}
    (h : e.computed = some ⟨e.generation, contexts⟩) : e.renewed contexts = e := by
  obtain ⟨generation, computed⟩ := e
  exact congrArg (Entry.mk generation) h.symm

/-- Nothing that is kept is later than the entry itself, so what was computed at the present
    generation is not refused. -/
theorem store_present (h : ∀ k, e.computed = some k → k.generation ≤ e.generation)
    (contexts : ContextSet) : e.store e.generation contexts = e.renewed contexts :=
  store_of_forall_le h contexts

@[simp] theorem store_generation (generation : Nat) (contexts : ContextSet) :
    (e.store generation contexts).generation = e.generation := by
  rcases e.store_cases generation contexts with ⟨h, _⟩ | ⟨h, _⟩ <;> rw [h]

/-- `e'` is what may become of `e`: its generation has not fallen, and what `e` kept was
    replaced by nothing of an earlier generation. -/
structure Later (e e' : Entry) : Prop where
  /-- The generation has not fallen. -/
  generation : e.generation ≤ e'.generation
  /-- Something as late as before is kept. -/
  computed : ∀ k, e.computed = some k →
    ∃ k', e'.computed = some k' ∧ k.generation ≤ k'.generation

theorem Later.refl (e : Entry) : Later e e :=
  ⟨Nat.le_refl _, fun k hk => ⟨k, hk, Nat.le_refl _⟩⟩

theorem Later.trans (h : Later e e') (h' : Later e' e'') : Later e e'' := by
  refine ⟨Nat.le_trans h.generation h'.generation, ?_⟩
  intro k hk
  obtain ⟨k', hk', hle⟩ := h.computed k hk
  obtain ⟨k'', hk'', hle'⟩ := h'.computed k' hk'
  exact ⟨k'', hk'', Nat.le_trans hle hle'⟩

theorem later_bump (e : Entry) : Later e e.bump :=
  ⟨Nat.le_succ _, fun k hk => ⟨k, hk, Nat.le_refl _⟩⟩

theorem later_store (e : Entry) (generation : Nat) (contexts : ContextSet) :
    Later e (e.store generation contexts) := by
  rcases e.store_cases generation contexts with ⟨h, _⟩ | ⟨h, hle⟩
  · rw [h]
    exact Later.refl e
  · rw [h]
    exact ⟨Nat.le_refl _, fun k hk => ⟨_, rfl, hle k hk⟩⟩

end Entry

/-! ### Valid caches -/

namespace Cache

variable {c : Cache}

/-- What every cache keeps up. -/
structure Valid (c : Cache) : Prop where
  /-- No two subjects have one entry. -/
  distinct : (c.tickets.map Prod.snd).Nodup
  /-- Every ticket leads to a place on the heap. -/
  placed : ∀ id ticket, (id, ticket) ∈ c.tickets → ticket < c.heap.length
  /-- Nothing is kept that is ahead of its entry. -/
  behind : ∀ ticket k, (c.entryAt ticket).computed = some k →
    k.generation ≤ (c.entryAt ticket).generation

theorem valid_empty : Valid empty := by
  refine ⟨by simp [empty], by simp [empty], ?_⟩
  intro ticket k hk
  simp [empty, entryAt] at hk

theorem Valid.ticket_lt (hc : Valid c) {id : SubjectId} {ticket : Nat}
    (h : c.tickets.lookup id = some ticket) : ticket < c.heap.length :=
  hc.placed id ticket (Keyed.mem_of_lookup h)

/-- A ticket tells the subject that has it. -/
theorem Valid.ticket_inj (hc : Valid c) {id id' : SubjectId} {ticket : Nat}
    (h : c.tickets.lookup id = some ticket) (h' : c.tickets.lookup id' = some ticket) :
    id = id' :=
  Keyed.lookup_inj hc.distinct h h'

@[simp] theorem entryAt_countHit (c : Cache) (ticket : Nat) :
    c.countHit.entryAt ticket = c.entryAt ticket := rfl

@[simp] theorem entryAt_countSweep (c : Cache) (ticket : Nat) :
    c.countSweep.entryAt ticket = c.entryAt ticket := rfl

theorem Valid.countHit (hc : Valid c) : Valid c.countHit :=
  ⟨hc.distinct, hc.placed, hc.behind⟩

theorem Valid.countSweep (hc : Valid c) : Valid c.countSweep :=
  ⟨hc.distinct, hc.placed, hc.behind⟩

/-! ### Changing one entry -/

@[simp] theorem modify_tickets (ticket : Nat) (f : Entry → Entry) :
    (c.modify ticket f).tickets = c.tickets := rfl

@[simp] theorem modify_heap_length (ticket : Nat) (f : Entry → Entry) :
    (c.modify ticket f).heap.length = c.heap.length := by
  simp [modify]

theorem entryAt_modify_self {ticket : Nat} (f : Entry → Entry) (h : ticket < c.heap.length) :
    (c.modify ticket f).entryAt ticket = f (c.entryAt ticket) := by
  simp [modify, entryAt, List.getD_eq_getElem?_getD, h]

theorem entryAt_modify_of_ne {ticket ticket' : Nat} (f : Entry → Entry)
    (h : ticket' ≠ ticket) : (c.modify ticket f).entryAt ticket' = c.entryAt ticket' := by
  simp [modify, entryAt, List.getD_eq_getElem?_getD, Ne.symm h]

/-- Beyond the heap there is nothing to change. -/
theorem modify_of_length_le {ticket : Nat} (f : Entry → Entry) (h : c.heap.length ≤ ticket) :
    c.modify ticket f = c := by
  unfold modify
  rw [List.modify_eq_self h]

/-- A change that gives later entries, and keeps nothing ahead of its entry, leaves the
    cache valid. -/
theorem Valid.modify (hc : Valid c) {ticket : Nat} {f : Entry → Entry}
    (hf : ∀ k, (f (c.entryAt ticket)).computed = some k →
      k.generation ≤ (f (c.entryAt ticket)).generation) :
    Valid (c.modify ticket f) := by
  refine ⟨hc.distinct, ?_, ?_⟩
  · intro id t h
    rw [modify_heap_length]
    exact hc.placed id t h
  · intro t k hk
    by_cases hlt : ticket < c.heap.length
    · by_cases ht : t = ticket
      · subst ht
        rw [entryAt_modify_self f hlt] at hk ⊢
        exact hf k hk
      · rw [entryAt_modify_of_ne f ht] at hk ⊢
        exact hc.behind t k hk
    · rw [modify_of_length_le f (Nat.le_of_not_lt hlt)] at hk ⊢
      exact hc.behind t k hk

theorem later_modify {f : Entry → Entry} (ticket : Nat)
    (hf : Entry.Later (c.entryAt ticket) (f (c.entryAt ticket))) (t : Nat) :
    Entry.Later (c.entryAt t) ((c.modify ticket f).entryAt t) := by
  by_cases hlt : ticket < c.heap.length
  · by_cases ht : t = ticket
    · subst ht
      rw [entryAt_modify_self f hlt]
      exact hf
    · rw [entryAt_modify_of_ne f ht]
      exact Entry.Later.refl _
  · rw [modify_of_length_le f (Nat.le_of_not_lt hlt)]
    exact Entry.Later.refl _

/-! ### Entering

    A query enters the cache under its subject. If the subject has no entry it gets a
    new one, on a place of the heap that nobody had a ticket for. -/

theorem enter_of_some {id : SubjectId} {ticket : Nat} (h : c.tickets.lookup id = some ticket) :
    c.enter id = (ticket, c) := by
  simp [enter, h]

theorem enter_of_none {id : SubjectId} (h : c.tickets.lookup id = none) :
    c.enter id = (c.heap.length, { c with
      tickets := c.tickets.insert id c.heap.length, heap := c.heap ++ [.new] }) := by
  simp [enter, h]

theorem lookup_enter (c : Cache) (id id' : SubjectId) :
    (c.enter id).2.tickets.lookup id' =
      if id = id' then some (c.enter id).1 else c.tickets.lookup id' := by
  cases h : c.tickets.lookup id with
  | some ticket =>
    rw [enter_of_some h]
    by_cases hid : id = id'
    · subst hid
      simp [h]
    · simp [hid]
  | none =>
    rw [enter_of_none h]
    exact Keyed.lookup_insert id id' c.heap.length c.tickets

/-- A place that nobody has a ticket for holds a new entry already. -/
@[simp] theorem entryAt_enter (c : Cache) (id : SubjectId) (ticket : Nat) :
    (c.enter id).2.entryAt ticket = c.entryAt ticket := by
  cases h : c.tickets.lookup id with
  | some _ => rw [enter_of_some h]
  | none =>
    rw [enter_of_none h]
    simp only [entryAt, List.getD_eq_getElem?_getD]
    -- before the new place, at it, or beyond the heap
    rcases Nat.lt_trichotomy ticket c.heap.length with hlt | heq | hgt
    · rw [List.getElem?_append_left hlt]
    · subst heq
      simp
    · rw [List.getElem?_eq_none (by simp; omega), List.getElem?_eq_none (Nat.le_of_lt hgt)]

theorem length_le_enter (c : Cache) (id : SubjectId) :
    c.heap.length ≤ (c.enter id).2.heap.length := by
  cases h : c.tickets.lookup id with
  | some _ =>
    simp only [enter_of_some h, Nat.le_refl]
  | none =>
    rw [enter_of_none h]
    simp

theorem Valid.enter (hc : Valid c) (id : SubjectId) : Valid (c.enter id).2 := by
  cases h : c.tickets.lookup id with
  | some ticket =>
    rw [enter_of_some h]
    exact hc
  | none =>
    -- the new ticket is the length of the heap, which no ticket has reached
    have hentry := entryAt_enter c id
    rw [enter_of_none h] at hentry ⊢
    have hperm := Keyed.insert_perm c.heap.length h
    refine ⟨?_, ?_, ?_⟩
    · rw [(hperm.map Prod.snd).nodup_iff, List.map_cons, List.nodup_cons]
      refine ⟨?_, hc.distinct⟩
      intro hmem
      obtain ⟨⟨id', t⟩, hin, rfl⟩ := List.mem_map.mp hmem
      exact Nat.lt_irrefl _ (hc.placed id' _ hin)
    · intro id' t hin
      simp only [List.length_append, List.length_singleton]
      rcases List.mem_cons.mp (hperm.mem_iff.mp hin) with heq | hin
      · obtain rfl := congrArg Prod.snd heq
        exact Nat.lt_succ_self _
      · exact Nat.lt_succ_of_lt (hc.placed id' t hin)
    · intro t k hk
      rw [hentry] at hk ⊢
      exact hc.behind t k hk

/-- The subject of a query has an entry on the heap from then on. -/
theorem Valid.enter_lt (hc : Valid c) (id : SubjectId) :
    (c.enter id).1 < (c.enter id).2.heap.length := by
  have h : (c.enter id).2.tickets.lookup id = some (c.enter id).1 := by
    rw [lookup_enter, if_pos rfl]
  exact (hc.enter id).ticket_lt h

/-- The entry of a query is one that its subject had, or a place beyond the heap. -/
theorem enter_ticket (c : Cache) (id : SubjectId) :
    c.tickets.lookup id = some (c.enter id).1 ∨
      (c.tickets.lookup id = none ∧ (c.enter id).1 = c.heap.length) := by
  cases h : c.tickets.lookup id with
  | some ticket =>
    left
    rw [enter_of_some h]
  | none =>
    right
    rw [enter_of_none h]
    exact ⟨rfl, rfl⟩

/-! ### Signals -/

theorem signal_of_some {id : SubjectId} {ticket : Nat} (h : c.tickets.lookup id = some ticket) :
    c.signal id = (true, { c.modify ticket Entry.bump with signals := c.signals + 1 }) := by
  simp [signal, h]

theorem signal_of_none {id : SubjectId} (h : c.tickets.lookup id = none) :
    c.signal id = (false, c) := by
  simp [signal, h]

@[simp] theorem signal_tickets (c : Cache) (id : SubjectId) :
    (c.signal id).2.tickets = c.tickets := by
  unfold signal
  cases c.tickets.lookup id <;> rfl

@[simp] theorem signal_heap_length (c : Cache) (id : SubjectId) :
    (c.signal id).2.heap.length = c.heap.length := by
  unfold signal
  cases c.tickets.lookup id <;> simp

theorem Valid.bump (hc : Valid c) (ticket : Nat) : Valid (c.modify ticket Entry.bump) :=
  hc.modify fun k hk => Nat.le_succ_of_le (hc.behind ticket k hk)

theorem Valid.signal (hc : Valid c) (id : SubjectId) : Valid (c.signal id).2 := by
  cases h : c.tickets.lookup id with
  | some ticket =>
    rw [signal_of_some h]
    have hb := hc.bump ticket
    exact ⟨hb.distinct, hb.placed, hb.behind⟩
  | none =>
    rw [signal_of_none h]
    exact hc

/-- A signal raises the generation of the entry that its subject has, and no other
    entry changes. -/
theorem Valid.entryAt_signal (hc : Valid c) (id : SubjectId) (ticket : Nat) :
    (c.signal id).2.entryAt ticket =
      if c.tickets.lookup id = some ticket then (c.entryAt ticket).bump
      else c.entryAt ticket := by
  cases h : c.tickets.lookup id with
  | some t =>
    rw [signal_of_some h]
    show (c.modify t Entry.bump).entryAt ticket = _
    by_cases ht : ticket = t
    · subst ht
      rw [entryAt_modify_self _ (hc.ticket_lt h), if_pos rfl]
    · rw [entryAt_modify_of_ne _ ht, if_neg]
      exact fun heq => ht (Option.some.inj heq).symm
  | none =>
    rw [signal_of_none h]
    simp

/-! ### Removal -/

@[simp] theorem remove_heap (c : Cache) (id : SubjectId) : (c.remove id).2.heap = c.heap := by
  unfold remove
  cases c.tickets.lookup id <;> rfl

@[simp] theorem entryAt_remove (c : Cache) (id : SubjectId) (ticket : Nat) :
    (c.remove id).2.entryAt ticket = c.entryAt ticket := by
  simp [entryAt]

theorem lookup_remove (c : Cache) (id id' : SubjectId) :
    (c.remove id).2.tickets.lookup id' = if id = id' then none else c.tickets.lookup id' := by
  unfold remove
  cases h : c.tickets.lookup id with
  | some _ => exact Keyed.lookup_erase id id' c.tickets
  | none =>
    by_cases hid : id = id'
    · subst hid
      simp [h]
    · simp [hid]

theorem Valid.remove (hc : Valid c) (id : SubjectId) : Valid (c.remove id).2 := by
  -- a removal takes one ticket away and leaves the heap as it is
  have hsub : (c.remove id).2.tickets.Sublist c.tickets := by
    unfold Cache.remove
    cases c.tickets.lookup id with
    | some _ => exact Keyed.erase_sublist id c.tickets
    | none => exact List.Sublist.refl _
  refine ⟨hc.distinct.sublist (hsub.map Prod.snd), ?_, ?_⟩
  · intro id' t hin
    rw [remove_heap]
    exact hc.placed id' t (hsub.subset hin)
  · intro t k hk
    rw [entryAt_remove] at hk ⊢
    exact hc.behind t k hk

/-! ### Making everything stale -/

/-- Raising one entry after the other raises each of them once. -/
theorem entryAt_foldl_bump (es : Keyed Nat) (c : Cache) (hes : (es.map Prod.snd).Nodup)
    (hlt : ∀ id t, (id, t) ∈ es → t < c.heap.length) (ticket : Nat) :
    (es.foldl (fun c e => c.modify e.2 Entry.bump) c).entryAt ticket =
      if ticket ∈ es.map Prod.snd then (c.entryAt ticket).bump else c.entryAt ticket := by
  induction es generalizing c with
  | nil => simp
  | cons e rest ih =>
    obtain ⟨id, t⟩ := e
    rw [List.map_cons, List.nodup_cons] at hes
    -- no entry is met twice, so the one raised first is left alone by the rest
    have hrest : ∀ id' t', (id', t') ∈ rest → t' < (c.modify t Entry.bump).heap.length := by
      intro id' t' hin
      rw [modify_heap_length]
      exact hlt id' t' (List.mem_cons_of_mem _ hin)
    rw [List.foldl_cons, ih _ hes.2 hrest]
    by_cases ht : ticket = t
    · subst ht
      rw [if_neg hes.1, entryAt_modify_self _ (hlt id ticket (List.mem_cons_self ..))]
      simp
    · rw [entryAt_modify_of_ne _ ht]
      simp only [List.map_cons, List.mem_cons, ht, false_or]

theorem foldl_bump_tickets (es : Keyed Nat) (c : Cache) :
    (es.foldl (fun c e => c.modify e.2 Entry.bump) c).tickets = c.tickets := by
  induction es generalizing c with
  | nil => rfl
  | cons e rest ih =>
    rw [List.foldl_cons, ih]
    rfl

theorem foldl_bump_heap_length (es : Keyed Nat) (c : Cache) :
    (es.foldl (fun c e => c.modify e.2 Entry.bump) c).heap.length = c.heap.length := by
  induction es generalizing c with
  | nil => rfl
  | cons e rest ih => rw [List.foldl_cons, ih, modify_heap_length]

@[simp] theorem invalidateAll_tickets (c : Cache) : c.invalidateAll.tickets = c.tickets :=
  foldl_bump_tickets c.tickets c

@[simp] theorem invalidateAll_heap_length (c : Cache) :
    c.invalidateAll.heap.length = c.heap.length :=
  foldl_bump_heap_length c.tickets c

/-- Every entry that a subject has is raised once, and no other. -/
theorem Valid.entryAt_invalidateAll (hc : Valid c) (ticket : Nat) :
    c.invalidateAll.entryAt ticket =
      if ticket ∈ c.tickets.map Prod.snd then (c.entryAt ticket).bump else c.entryAt ticket :=
  entryAt_foldl_bump c.tickets c hc.distinct hc.placed ticket

theorem Valid.invalidateAll (hc : Valid c) : Valid c.invalidateAll := by
  refine ⟨?_, ?_, ?_⟩
  · rw [invalidateAll_tickets]
    exact hc.distinct
  · intro id t hin
    rw [invalidateAll_tickets] at hin
    rw [invalidateAll_heap_length]
    exact hc.placed id t hin
  · intro t k hk
    rw [hc.entryAt_invalidateAll] at hk ⊢
    split_ifs at hk ⊢
    · exact Nat.le_succ_of_le (hc.behind t k hk)
    · exact hc.behind t k hk

/-! ### Results of computations -/

theorem Valid.deposit (hc : Valid c) {ticket generation : Nat} (contexts : ContextSet)
    (h : generation ≤ (c.entryAt ticket).generation) :
    Valid (c.deposit ticket generation contexts) := by
  refine hc.modify ?_
  intro k hk
  rw [Entry.store_generation]
  rcases (c.entryAt ticket).store_cases generation contexts with ⟨heq, _⟩ | ⟨heq, _⟩
  · rw [heq] at hk
    exact hc.behind ticket k hk
  · rw [heq] at hk
    obtain rfl := Option.some.inj hk
    exact h

/-- A result changes no generation. -/
@[simp] theorem deposit_generation (c : Cache) (ticket generation : Nat) (contexts : ContextSet)
    (t : Nat) :
    ((c.deposit ticket generation contexts).entryAt t).generation = (c.entryAt t).generation := by
  unfold deposit
  by_cases hlt : ticket < c.heap.length
  · by_cases ht : t = ticket
    · subst ht
      rw [entryAt_modify_self _ hlt, Entry.store_generation]
    · rw [entryAt_modify_of_ne _ ht]
  · rw [modify_of_length_le _ (Nat.le_of_not_lt hlt)]

/-! ### Subjects -/

theorem find?_eq_none {id : SubjectId} : c.find? id = none ↔ c.tickets.lookup id = none := by
  simp [find?]

theorem state_eq_absent {id : SubjectId} : c.state id = .absent ↔ c.tickets.lookup id = none := by
  unfold state
  cases h : c.find? id with
  | none => simpa using find?_eq_none.mp h
  | some e =>
    have hne : c.tickets.lookup id ≠ none := by
      rw [Ne, ← find?_eq_none, h]
      simp
    simp only [hne, iff_false]
    unfold Entry.state
    cases e.computed with
    | none => simp
    | some k =>
      show ¬ (if k.generation = e.generation then CacheState.fresh else .stale) = .absent
      split_ifs <;> simp

/-! ### What a subject finds

    After an operation a subject finds the entry that it found before, or what the
    operation made of that. -/

theorem find?_of_lookup {id : SubjectId} {ticket : Nat} (h : c.tickets.lookup id = some ticket) :
    c.find? id = some (c.entryAt ticket) := by
  rw [find?, h, Option.map_some]

theorem Valid.behind_find? (hc : Valid c) {id : SubjectId} {e : Entry} (h : c.find? id = some e)
    (k : Computed) (hk : e.computed = some k) : k.generation ≤ e.generation := by
  obtain ⟨ticket, -, rfl⟩ := Option.map_eq_some_iff.mp h
  exact hc.behind ticket k hk

@[simp] theorem find?_countHit (c : Cache) (id : SubjectId) : c.countHit.find? id = c.find? id :=
  rfl

@[simp] theorem find?_countSweep (c : Cache) (id : SubjectId) :
    c.countSweep.find? id = c.find? id := rfl

/-- A query is let in by the entry that its subject has, or else by a new one. -/
theorem entryAt_enter_ticket (c : Cache) (id : SubjectId) :
    c.entryAt (c.enter id).1 = (c.find? id).getD .new := by
  rcases c.enter_ticket id with hold | ⟨hnone, hnew⟩
  · rw [find?_of_lookup hold, Option.getD_some]
  · rw [find?_eq_none.mpr hnone, Option.getD_none, hnew]
    simp [entryAt]

theorem find?_enter (c : Cache) (id id' : SubjectId) : (c.enter id).2.find? id' =
    if id = id' then some ((c.find? id).getD .new) else c.find? id' := by
  unfold find?
  rw [lookup_enter]
  split_ifs with hid
  · rw [Option.map_some, entryAt_enter, entryAt_enter_ticket, find?]
  · exact Option.map_congr fun ticket _ => c.entryAt_enter id ticket

theorem Valid.find?_signal (hc : Valid c) (id id' : SubjectId) : (c.signal id).2.find? id' =
    if id = id' then (c.find? id').map Entry.bump else c.find? id' := by
  cases h : c.tickets.lookup id' with
  | none =>
    have h' : (c.signal id).2.tickets.lookup id' = none := by rw [signal_tickets, h]
    rw [find?_eq_none.mpr h, find?_eq_none.mpr h']
    split_ifs <;> rfl
  | some ticket =>
    have h' : (c.signal id).2.tickets.lookup id' = some ticket := by rw [signal_tickets, h]
    rw [find?_of_lookup h, find?_of_lookup h', hc.entryAt_signal]
    by_cases hid : id = id'
    · subst hid
      rw [if_pos h, if_pos rfl, Option.map_some]
    · rw [if_neg fun h'' => hid (hc.ticket_inj h'' h), if_neg hid]

theorem find?_remove (c : Cache) (id id' : SubjectId) :
    (c.remove id).2.find? id' = if id = id' then none else c.find? id' := by
  unfold find?
  rw [lookup_remove]
  split_ifs
  · rfl
  · exact Option.map_congr fun ticket _ => c.entryAt_remove id ticket

theorem Valid.find?_invalidateAll (hc : Valid c) (id : SubjectId) :
    c.invalidateAll.find? id = (c.find? id).map Entry.bump := by
  cases h : c.tickets.lookup id with
  | none =>
    have h' : c.invalidateAll.tickets.lookup id = none := by rw [invalidateAll_tickets, h]
    rw [find?_eq_none.mpr h, find?_eq_none.mpr h', Option.map_none]
  | some ticket =>
    have h' : c.invalidateAll.tickets.lookup id = some ticket := by rw [invalidateAll_tickets, h]
    -- the subject has the entry, so it is among those that are raised
    have hmem : ticket ∈ c.tickets.map Prod.snd := List.mem_map_of_mem (Keyed.mem_of_lookup h)
    rw [find?_of_lookup h, find?_of_lookup h', hc.entryAt_invalidateAll, if_pos hmem,
      Option.map_some]

theorem Valid.find?_deposit (hc : Valid c) {id : SubjectId} {ticket : Nat}
    (h : c.tickets.lookup id = some ticket) (generation : Nat) (contexts : ContextSet)
    (id' : SubjectId) : (c.deposit ticket generation contexts).find? id' =
      if id = id' then (c.find? id').map (·.store generation contexts) else c.find? id' := by
  cases h' : c.tickets.lookup id' with
  | none =>
    have hsame : (c.deposit ticket generation contexts).tickets.lookup id' = none := h'
    rw [find?_eq_none.mpr h', find?_eq_none.mpr hsame]
    split_ifs <;> rfl
  | some ticket' =>
    have hsame : (c.deposit ticket generation contexts).tickets.lookup id' = some ticket' := h'
    rw [find?_of_lookup h', find?_of_lookup hsame, Cache.deposit]
    by_cases hid : id = id'
    · subst hid
      obtain rfl : ticket = ticket' := Option.some.inj (h.symm.trans h')
      rw [if_pos rfl, entryAt_modify_self _ (hc.ticket_lt h), Option.map_some]
    · have hne : ticket' ≠ ticket := by
        rintro rfl
        exact hid (hc.ticket_inj h h')
      rw [if_neg hid, entryAt_modify_of_ne _ hne]

/-! ### Answers and counts -/

/-- A signal tells whether it met an entry. -/
theorem signal_fst (c : Cache) (id : SubjectId) :
    (c.signal id).1 = true ↔ c.state id ≠ .absent := by
  rw [Ne, state_eq_absent]
  unfold signal
  cases c.tickets.lookup id <;> simp

/-- A removal tells whether it met an entry. -/
theorem remove_fst (c : Cache) (id : SubjectId) :
    (c.remove id).1 = true ↔ c.state id ≠ .absent := by
  rw [Ne, state_eq_absent]
  unfold remove
  cases c.tickets.lookup id <;> simp

theorem stats_enter (c : Cache) (id : SubjectId) : (c.enter id).2.stats =
    { c.stats with cachedSubjects := (c.enter id).2.tickets.length } := by
  unfold enter
  cases c.tickets.lookup id <;> rfl

theorem stats_signal (c : Cache) (id : SubjectId) : (c.signal id).2.stats =
    { c.stats with signals := c.stats.signals + if (c.signal id).1 then 1 else 0 } := by
  unfold signal
  cases c.tickets.lookup id <;> rfl

theorem stats_remove (c : Cache) (id : SubjectId) : (c.remove id).2.stats =
    { c.stats with cachedSubjects := (c.remove id).2.tickets.length } := by
  unfold remove
  cases c.tickets.lookup id <;> rfl

theorem stats_foldl_bump (es : Keyed Nat) (c : Cache) :
    (es.foldl (fun c e => c.modify e.2 Entry.bump) c).stats = c.stats := by
  induction es generalizing c with
  | nil => rfl
  | cons e rest ih =>
    rw [List.foldl_cons, ih]
    rfl

theorem stats_invalidateAll (c : Cache) : c.invalidateAll.stats = c.stats :=
  stats_foldl_bump c.tickets c

/-! ### Good sets

    A subject's set is good as long as it was computed at the generation that the
    subject's entry is at. -/

/-- A good set is kept for a subject. -/
def Keeps (c : Cache) (id : SubjectId) (contexts : ContextSet) : Prop :=
  ∃ ticket, c.tickets.lookup id = some ticket ∧
    (c.entryAt ticket).computed = some ⟨(c.entryAt ticket).generation, contexts⟩

theorem keeps_iff {id : SubjectId} {contexts : ContextSet} : c.Keeps id contexts ↔
    ∃ e, c.find? id = some e ∧ e.computed = some ⟨e.generation, contexts⟩ := by
  unfold Keeps find?
  cases c.tickets.lookup id with
  | none => simp
  | some ticket => simp

theorem state_eq_fresh {id : SubjectId} :
    c.state id = .fresh ↔ ∃ contexts, c.Keeps id contexts := by
  unfold state find? Keeps
  cases c.tickets.lookup id with
  | none => simp
  | some ticket => simpa using Entry.state_eq_fresh_iff

theorem not_keeps_empty (id : SubjectId) (contexts : ContextSet) : ¬ empty.Keeps id contexts := by
  rintro ⟨ticket, hid, _⟩
  simp [empty, Keyed.lookup] at hid

/-- A raised entry keeps nothing good. -/
theorem Valid.computed_bump_ne (hc : Valid c) (ticket : Nat) (contexts : ContextSet) :
    (c.entryAt ticket).bump.computed ≠
      some ⟨(c.entryAt ticket).bump.generation, contexts⟩ := by
  intro hk
  exact Nat.not_succ_le_self _ (hc.behind ticket _ hk)

/-- What is good is what a query finds in the entry that lets it in: a new entry keeps
    nothing. -/
theorem keeps_iff_enter {id : SubjectId} {contexts : ContextSet} : c.Keeps id contexts ↔
    (c.entryAt (c.enter id).1).computed =
      some ⟨(c.entryAt (c.enter id).1).generation, contexts⟩ := by
  rw [keeps_iff, entryAt_enter_ticket]
  cases c.find? id with
  | none => simp
  | some e => simp

theorem Keeps.of_signal (hc : Valid c) {id id' : SubjectId} {contexts : ContextSet}
    (h : (c.signal id).2.Keeps id' contexts) : c.Keeps id' contexts ∧ id ≠ id' := by
  obtain ⟨ticket, hid, hk⟩ := h
  rw [signal_tickets] at hid
  rw [hc.entryAt_signal] at hk
  split_ifs at hk with hbumped
  · exact absurd hk (hc.computed_bump_ne ticket contexts)
  · refine ⟨⟨ticket, hid, hk⟩, ?_⟩
    rintro rfl
    exact hbumped hid

theorem Keeps.of_remove {id id' : SubjectId} {contexts : ContextSet}
    (h : (c.remove id).2.Keeps id' contexts) : c.Keeps id' contexts ∧ id ≠ id' := by
  obtain ⟨ticket, hid, hk⟩ := h
  rw [entryAt_remove] at hk
  rw [lookup_remove] at hid
  split_ifs at hid with hne
  exact ⟨⟨ticket, hid, hk⟩, hne⟩

theorem Valid.not_keeps_invalidateAll (hc : Valid c) (id : SubjectId) (contexts : ContextSet) :
    ¬ c.invalidateAll.Keeps id contexts := by
  rintro ⟨ticket, hid, hk⟩
  rw [invalidateAll_tickets] at hid
  have hmem : ticket ∈ c.tickets.map Prod.snd := List.mem_map_of_mem (Keyed.mem_of_lookup hid)
  rw [hc.entryAt_invalidateAll, if_pos hmem] at hk
  exact hc.computed_bump_ne ticket contexts hk

end Cache

end PermissionContexts
