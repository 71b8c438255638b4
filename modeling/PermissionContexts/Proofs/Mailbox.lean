import Mathlib.Data.List.Basic
import Mathlib.Data.List.Induction
import Mathlib.Order.Bounds.Basic
import PermissionContexts.Bus.Mailbox

/-! # What mailboxes hold

    Of what was sent to a mailbox since it was made, the last items wait in it, as many
    as it has room for, and the others are counted (`foldl_put_new`). A channel has room
    for no less than its capacity (`isLeast_roomFor`), so that nothing is lost of as many
    items (`drain_foldl_put_of_length_le`).

    When nothing more can be sent, the readings up to the one that finds the mailbox
    closed (`Readings`) give what `drain` tells at once (`readings_iff`).
-/

namespace PermissionContexts

namespace Mailbox

variable {α : Type} {m m' : Mailbox α} {a : α} {d : Delivery α}

/-- Nothing is left to be read, and nothing was lost that is still to be told. -/
def Drained (m : Mailbox α) : Prop :=
  m.missed = 0 ∧ m.pending = []

theorem drained_iff : m.Drained ↔ m.drain = [] := by
  unfold Drained drain
  by_cases hmissed : 0 < m.missed
  · simp [hmissed, Nat.ne_of_gt hmissed]
  · simp [Nat.eq_zero_of_not_pos hmissed]

/-! ### Sending -/

/-- An item is put behind the others, or pushes the oldest one out. -/
theorem put_cases (m : Mailbox α) (a : α) :
    (m.put a).missed = m.missed ∧ (m.put a).pending = m.pending ++ [a] ∨
      (m.put a).missed = m.missed + 1 ∧ (m.put a).pending = (m.pending ++ [a]).drop 1 := by
  unfold put
  split_ifs
  · exact Or.inl ⟨rfl, rfl⟩
  · exact Or.inr ⟨rfl, rfl⟩

/-- What is left in a mailbox of all that was sent to it. -/
theorem foldl_put_new (room : Nat) (as : List α) :
    as.foldl put (new room) =
      ⟨room, as.length - room, as.drop (as.length - room)⟩ := by
  induction as using List.reverseRecOn with
  | nil => simp [new]
  | append_singleton as a ih =>
    rw [List.foldl_append, ih, List.foldl_cons, List.foldl_nil, put]
    -- as many wait as there is room for, or all that were sent
    have hlength : (as.drop (as.length - room)).length = as.length - (as.length - room) :=
      List.length_drop
    split_ifs with hroom
    · have hfits : as.length < room := by
        simp only [hlength] at hroom
        omega
      have hnone : as.length - room = 0 := by omega
      have hnone' : (as ++ [a]).length - room = 0 := by
        rw [List.length_append, List.length_singleton]
        omega
      rw [hnone, hnone', List.drop_zero, List.drop_zero]
    · have hfull : room ≤ as.length := by
        simp only [hlength] at hroom
        omega
      have hmore : (as ++ [a]).length - room = as.length - room + 1 := by
        rw [List.length_append, List.length_singleton]
        omega
      have hle : as.length - room ≤ as.length := Nat.sub_le ..
      rw [hmore, ← List.drop_append_of_le_length hle, List.drop_drop]

/-! ### Room -/

/-- The room of a channel is its capacity, rounded up to a power of two. -/
theorem isLeast_roomFor (capacity : Nat) :
    IsLeast {room | capacity ≤ room ∧ room.isPowerOfTwo} (roomFor capacity) := by
  unfold roomFor
  rw [Nat.pow_eq]
  split_ifs with hone
  · exact ⟨⟨hone, Nat.isPowerOfTwo_one⟩, fun room h => Nat.pos_of_isPowerOfTwo h.2⟩
  · have hpos : capacity - 1 ≠ 0 := by omega
    refine ⟨⟨?_, _, rfl⟩, ?_⟩
    · have hlt : capacity - 1 < 2 ^ ((capacity - 1).log2 + 1) := Nat.lt_log2_self
      omega
    · -- another power of two that is not less has a greater exponent
      rintro _ ⟨hle, k, rfl⟩
      have hlog : (capacity - 1).log2 < k := (Nat.log2_lt hpos).mpr (by omega)
      exact Nat.pow_le_pow_right Nat.two_pos hlog

/-- A channel holds at least as many items as its capacity says. -/
theorem drain_foldl_put_of_length_le {capacity : Nat} {as : List α}
    (h : as.length ≤ capacity) :
    (as.foldl put (new (roomFor capacity))).drain = as.map .item := by
  have hroom : as.length - roomFor capacity = 0 :=
    Nat.sub_eq_zero_of_le (h.trans (isLeast_roomFor capacity).1.1)
  rw [foldl_put_new, hroom, List.drop_zero]
  rfl

/-! ### Reading -/

/-- That items were lost is told first, -/
theorem drain_of_missed (h : 0 < m.missed) :
    m.drain = .lagged m.missed :: { m with missed := 0 }.drain := by
  simp [drain, h]

/-- and then the items are, one after the other. -/
theorem drain_of_pending {rest : List α} (hmissed : m.missed = 0)
    (hpending : m.pending = a :: rest) : m.drain = .item a :: { m with pending := rest }.drain := by
  simp [drain, hmissed, hpending]

/-- What can be read. -/
theorem take_cases (m : Mailbox α) (isOpen : Bool) :
    (0 < m.missed ∧ m.take isOpen = (.lagged m.missed, { m with missed := 0 })) ∨
    (∃ a rest, m.missed = 0 ∧ m.pending = a :: rest ∧
      m.take isOpen = (.item a, { m with pending := rest })) ∨
    (m.Drained ∧ m.take isOpen = (if isOpen then .empty else .closed, m)) := by
  by_cases hmissed : 0 < m.missed
  · left
    simp [take, hmissed]
  · have hzero : m.missed = 0 := Nat.eq_zero_of_not_pos hmissed
    right
    cases hpending : m.pending with
    | nil =>
      right
      exact ⟨⟨hzero, hpending⟩, by simp [take, hzero, hpending]⟩
    | cons a rest =>
      left
      exact ⟨a, rest, hzero, rfl, by simp [take, hzero, hpending]⟩

/-- What is read first is what `drain` tells first. -/
theorem take_of_drain_cons {ds : List (Delivery α)} (h : m.drain = d :: ds) (isOpen : Bool) :
    (m.take isOpen).1 = d ∧ (m.take isOpen).2.drain = ds := by
  rcases m.take_cases isOpen with ⟨hlost, htake⟩ | ⟨a, rest, hnone, hpending, htake⟩ |
    ⟨hdrained, -⟩
  · rw [drain_of_missed hlost] at h
    rw [htake]
    exact List.cons.inj h
  · rw [drain_of_pending hnone hpending] at h
    rw [htake]
    exact List.cons.inj h
  · rw [drained_iff.mp hdrained] at h
    simp at h

/-- When nothing is left, that is read. -/
theorem take_of_drain_nil (h : m.drain = []) (isOpen : Bool) :
    m.take isOpen = (if isOpen then .empty else .closed, m) := by
  obtain ⟨hmissed, hpending⟩ := drained_iff.mpr h
  simp [take, hmissed, hpending]

/-- What is read one after the other, when nothing more can be sent, until the mailbox is
    closed. -/
inductive Readings : Mailbox α → List (Delivery α) → Prop
  | closed {m m' : Mailbox α} (h : m.take false = (.closed, m')) : Readings m []
  | next {m m' : Mailbox α} {d : Delivery α} {ds : List (Delivery α)}
      (h : m.take false = (d, m')) (hd : d ≠ .closed) (hrest : Readings m' ds) :
    Readings m (d :: ds)

theorem closed_not_mem_drain (m : Mailbox α) : .closed ∉ m.drain := by
  unfold drain
  split_ifs <;> simp

/-- What can be read in the end is read, -/
theorem readings_drain (m : Mailbox α) : m.Readings m.drain := by
  generalize hds : m.drain = ds
  -- each reading leaves a mailbox that the rest is read from
  induction ds generalizing m with
  | nil => exact .closed (take_of_drain_nil hds false)
  | cons d ds ih =>
    obtain ⟨hfirst, hrest⟩ := take_of_drain_cons hds false
    have hd : d ≠ .closed := by
      rintro rfl
      exact m.closed_not_mem_drain (hds ▸ List.mem_cons_self ..)
    exact .next (Prod.ext hfirst rfl) hd (ih _ hrest)

/-- and nothing else is. -/
theorem Readings.eq_drain {ds : List (Delivery α)} (h : m.Readings ds) : ds = m.drain := by
  induction h with
  | @closed m m' h =>
    cases hds : m.drain with
    | nil => rfl
    | cons d ds =>
      -- a mailbox with something left does not read as closed
      obtain ⟨hfirst, -⟩ := take_of_drain_cons hds false
      rw [h] at hfirst
      exact absurd (hds ▸ hfirst ▸ List.mem_cons_self ..) m.closed_not_mem_drain
  | @next m m' d ds h hd _ ih =>
    cases hds : m.drain with
    | nil =>
      rw [take_of_drain_nil hds] at h
      exact absurd (Prod.mk.inj h).1.symm hd
    | cons d' ds' =>
      obtain ⟨rfl, hrest⟩ := take_of_drain_cons hds false
      rw [h] at hrest ⊢
      exact congrArg _ (ih.trans hrest)

theorem readings_iff {ds : List (Delivery α)} : m.Readings ds ↔ ds = m.drain :=
  ⟨Readings.eq_drain, fun h => h ▸ m.readings_drain⟩

end Mailbox

end PermissionContexts
