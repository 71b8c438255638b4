import PermissionContexts.Proofs.LifeCycle
import PermissionContexts.Proofs.Mailbox

/-! # What is left of a backlog

    Events are sent to a mailbox, and only then the bridge works through it. It learns of
    the last events alone, as many as the mailbox has room for, and answers the loss of
    others by making everything stale.

    Main statement: `backlog_removes_disconnected`. A subject that left has no entry
    afterwards, as if every event had come through, unless its leaving was lost. Then its
    entry is still there, if it had one, and is not good (`lost_leaving_keeps_entry`).
-/

namespace PermissionContexts

namespace System

variable {ι κ ε : Type} {g : Guests ι κ ε} {s : System ι κ ε}

/-- The bridge works through a mailbox: what it learns first is that events were lost. -/
theorem foldl_drain (m : Mailbox HostEvent) (s : System ι κ ε) :
    m.drain.foldl delivered s =
      m.pending.foldl told (if 0 < m.missed then s.invalidateAll else s) := by
  unfold Mailbox.drain
  rw [List.foldl_append, foldl_delivered_item]
  split_ifs <;> rfl

/-- **What a backlog does to those who left**, in any system with a valid cache:

    1. when the bridge is told of every event, they have no entry afterwards, and
    2. when it reads a mailbox of any room that the events were sent to before, until the
       mailbox is closed, they have none if the mailbox still held one of their
       disconnections; otherwise their entry is still there, if they had one, and spoiled. -/
theorem backlog_removes_disconnected (hv : s.cache.Valid) (depth room : Nat)
    (events : List HostEvent) :
    let mailbox := events.foldl Mailbox.put (.new room)
    ∃ readings s₁ s₂, (∀ ds, mailbox.Readings ds ↔ ds = readings) ∧
      s.run g depth (events.foldr Bridge.onEvent .done) = some (.finished, s₁, .empty) ∧
      s.run g depth (Bridge.work .done readings) = some (.finished, s₂, .empty) ∧
      mailbox.pending = events.drop (events.length - room) ∧
      ∀ id, .subjectDisconnected (.subject id) ∈ events →
        s₁.cache.state id = .absent ∧
        s₂.cache.state id = if .subjectDisconnected (.subject id) ∈ mailbox.pending then .absent
          else (s.cache.state id).spoiled := by
  -- the last events wait in the mailbox, as many as there is room for
  intro mailbox
  have hmailbox : mailbox = ⟨room, events.length - room, events.drop (events.length - room)⟩ :=
    Mailbox.foldl_put_new room events
  refine ⟨mailbox.drain, events.foldl told s, mailbox.drain.foldl delivered s,
    fun _ => Mailbox.readings_iff, run_onEvents events s, run_work mailbox.drain s,
    by rw [hmailbox], fun id hid => ⟨?_, ?_⟩⟩
  · rw [state_foldl_told hv, CacheState.foldl_after_of_mem hid]
  · rw [foldl_drain]
    by_cases hmissed : 0 < mailbox.missed
    · have hv' : s.invalidateAll.cache.Valid := hv.invalidateAll
      have hspoiled : s.invalidateAll.cache.state id = (s.cache.state id).spoiled :=
        hv.state_invalidateAll id
      rw [if_pos hmissed, state_foldl_told hv', hspoiled]
      split_ifs with hretained
      · exact CacheState.foldl_after_of_mem hretained _
      · exact CacheState.foldl_after_of_not_mem hretained _
    · -- nothing was lost, so the disconnection is still there
      have hall : mailbox.pending = events := by
        have hnone : events.length - room = 0 := by
          rw [hmailbox] at hmissed
          exact Nat.eq_zero_of_not_pos hmissed
        rw [hmailbox, hnone, List.drop_zero]
      rw [if_neg hmissed, state_foldl_told hv, hall, if_pos hid,
        CacheState.foldl_after_of_mem hid]

/-! ### A disconnection that is lost -/

/-- A system that keeps a good set for somebody called `a`. -/
def keepingOne : System Unit Unit Unit where
  registry := .empty
  cache := { Cache.empty with tickets := [("a", 0)], heap := [⟨0, some ⟨0, .empty⟩⟩] }
  bus := .new 1
  env := ()
  clock := 1
  journal := []

/-- The one that is kept leaves, and somebody else comes. -/
def leaving : List HostEvent :=
  [.subjectDisconnected (.subject "a"), .subjectConnected (.other "zombie")]

theorem keepingOne_valid : keepingOne.cache.Valid := by
  refine ⟨by decide, by simp [keepingOne], ?_⟩
  intro ticket k hk
  match ticket with
  | 0 =>
    obtain rfl := Option.some.inj hk
    exact Nat.le_refl _
  | ticket + 1 => simp [keepingOne, Cache.entryAt] at hk

/-- In a mailbox with room for both events the disconnection is not lost. -/
theorem backlog_removes_one :
    ∃ s₂, keepingOne.run Guests.idle 0
        (Bridge.work .done (leaving.foldl Mailbox.put (.new 2)).drain) =
          some (.finished, s₂, .empty) ∧ s₂.cache.state "a" = .absent := by
  obtain ⟨readings, _, s₂, hreadings, _, hwork, _, hstates⟩ :=
    backlog_removes_disconnected (g := Guests.idle) keepingOne_valid 0 2 leaving
  rw [← (hreadings _).mp (Mailbox.readings_drain _)] at hwork
  exact ⟨s₂, hwork, (hstates "a" (by decide)).2.trans (by decide +kernel)⟩

/-- In a mailbox with room for one event it is lost, and the entry stays. -/
theorem lost_leaving_keeps_entry :
    .subjectDisconnected (.subject "a") ∈ leaving ∧
    ∃ s₁ s₂, keepingOne.run Guests.idle 0 (leaving.foldr Bridge.onEvent .done) =
        some (.finished, s₁, .empty) ∧ s₁.cache.state "a" = .absent ∧
      keepingOne.run Guests.idle 0
        (Bridge.work .done (leaving.foldl Mailbox.put (.new (Mailbox.roomFor 1))).drain) =
          some (.finished, s₂, .empty) ∧ s₂.cache.state "a" = .stale := by
  refine ⟨by decide, _, _, run_onEvents leaving keepingOne, by decide, run_work _ _,
    by decide +kernel⟩

end System

end PermissionContexts
