import PermissionContexts.Proofs.Bridge

/-! # The life of an entry as others see it

    What can be seen of a subject goes through four states. Signals and invalidation
    spoil what is good (`CacheState.spoiled`) and do nothing else; removal ends the life
    of the entry. So what events do to a subject can be told from its state alone
    (`CacheState.after`, `state_foldl_told`).
-/

namespace PermissionContexts

namespace CacheState

/-- The state after a signal: what was good is so no longer. -/
def spoiled : CacheState → CacheState
  | .fresh => .stale
  | state => state

@[simp] theorem spoiled_spoiled (state : CacheState) : state.spoiled.spoiled = state.spoiled := by
  cases state <;> rfl

/-- The state of a subject after the bridge has learned of an event. -/
def after (id : SubjectId) (state : CacheState) (e : HostEvent) : CacheState :=
  match BridgeAction.ofEvent e with
  | .signal id' => if id' = id then state.spoiled else state
  | .remove id' => if id' = id then .absent else state
  | .ignore => state

variable {id : SubjectId} {es : List HostEvent}

theorem foldl_after_absent (id : SubjectId) (es : List HostEvent) :
    es.foldl (after id) .absent = .absent := by
  induction es with
  | nil => rfl
  | cons e es ih =>
    -- an event never makes an entry
    have hstep : after id .absent e = .absent := by
      unfold after
      cases BridgeAction.ofEvent e <;> simp [spoiled]
    rw [List.foldl_cons, hstep, ih]

/-- A subject that left in the course of some events has no entry after them. -/
theorem foldl_after_of_mem (h : .subjectDisconnected (.subject id) ∈ es) (state : CacheState) :
    es.foldl (after id) state = .absent := by
  induction es generalizing state with
  | nil => simp at h
  | cons e es ih =>
    rw [List.foldl_cons]
    rcases List.mem_cons.mp h with rfl | h
    · have hstep : after id state (.subjectDisconnected (.subject id)) = .absent := by
        unfold after
        rw [ofEvent_eq_remove.mpr rfl]
        simp
      rw [hstep, foldl_after_absent]
    · exact ih h _

/-- Of a subject that did not leave, nothing more can be spoiled than is. -/
theorem foldl_after_of_not_mem (h : .subjectDisconnected (.subject id) ∉ es)
    (state : CacheState) : es.foldl (after id) state.spoiled = state.spoiled := by
  induction es with
  | nil => rfl
  | cons e es ih =>
    have hstep : after id state.spoiled e = state.spoiled := by
      unfold after
      cases he : BridgeAction.ofEvent e with
      | signal id' => simp
      | remove id' =>
        have hne : id' ≠ id := by
          rintro rfl
          exact h (by simp [ofEvent_eq_remove.mp he])
        simp [hne]
      | ignore => rfl
    rw [List.foldl_cons, hstep, ih fun hin => h (List.mem_cons_of_mem _ hin)]

end CacheState

/-! ### The operations of the cache -/

/-- A signal spoils the entry that it meets. -/
theorem Entry.state_bump {e : Entry}
    (h : ∀ k, e.computed = some k → k.generation ≤ e.generation) :
    e.bump.state = e.state.spoiled := by
  unfold state
  rw [bump_computed, bump_generation]
  cases hc : e.computed with
  | none => rfl
  | some k =>
    -- what is kept is not ahead of the entry, so it cannot be good after the bump
    have hle : k.generation ≤ e.generation := h k hc
    have hne : k.generation ≠ e.generation + 1 := by omega
    by_cases heq : k.generation = e.generation <;> simp [heq, hne, CacheState.spoiled]

namespace Cache

variable {c : Cache}

theorem Valid.state_signal (hc : Valid c) (id id' : SubjectId) :
    (c.signal id).2.state id' = if id = id' then (c.state id').spoiled else c.state id' := by
  unfold state
  rw [hc.find?_signal]
  split_ifs
  · cases h : c.find? id' with
    | none => rfl
    | some e => exact Entry.state_bump (hc.behind_find? h)
  · rfl

theorem state_remove (c : Cache) (id id' : SubjectId) :
    (c.remove id).2.state id' = if id = id' then .absent else c.state id' := by
  unfold state
  rw [find?_remove]
  split_ifs <;> rfl

theorem Valid.state_invalidateAll (hc : Valid c) (id : SubjectId) :
    c.invalidateAll.state id = (c.state id).spoiled := by
  unfold state
  rw [hc.find?_invalidateAll]
  cases h : c.find? id with
  | none => rfl
  | some e => exact Entry.state_bump (hc.behind_find? h)

end Cache

/-! ### Events -/

namespace System

variable {ι κ ε : Type} {s : System ι κ ε}

theorem valid_told (hv : s.cache.Valid) (e : HostEvent) : (s.told e).cache.Valid := by
  unfold told
  cases BridgeAction.ofEvent e with
  | signal id => exact hv.signal id
  | remove id => exact hv.remove id
  | ignore => exact hv

theorem state_told (hv : s.cache.Valid) (e : HostEvent) (id : SubjectId) :
    (s.told e).cache.state id = (s.cache.state id).after id e := by
  unfold told CacheState.after
  cases BridgeAction.ofEvent e with
  | signal id' => exact hv.state_signal id' id
  | remove id' => exact s.cache.state_remove id' id
  | ignore => rfl

/-- What events do to a subject is told by its state. -/
theorem state_foldl_told (hv : s.cache.Valid) (es : List HostEvent) (id : SubjectId) :
    (es.foldl told s).cache.state id = es.foldl (CacheState.after id) (s.cache.state id) := by
  induction es generalizing s with
  | nil => rfl
  | cons e es ih => rw [List.foldl_cons, List.foldl_cons, ih (valid_told hv e), state_told hv]

end System

end PermissionContexts
