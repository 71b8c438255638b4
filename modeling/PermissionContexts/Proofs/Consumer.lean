import PermissionContexts.Proofs.Bridge
import PermissionContexts.Proofs.Mailbox
import PermissionContexts.Proofs.Traffic

/-! # The bridge as a consumer of a channel

    The bridge reads a mailbox that others send events to, while the system is asked for
    contexts. The **state** of a `Consumer` is the system with its sweeps under way, the
    mailbox, and whether the channel is open and the bridge still at work. The **labels** are
    queries that come in and sweeps that end, in any order, other requests, and the sending,
    closing and reading of the channel.

    Main statement: `consumer_catches_up`. A set that is good when nothing waits to be read
    was made after the last event that spoiled it had been sent, also when events were lost.
    The invariant is that such an event **waits** to be read (`Waits`), or was **caught**
    since (`Caught`).
-/

namespace PermissionContexts

/-- A system, and the bridge at work on a mailbox. -/
structure Consumer (ι κ ε : Type) where
  /-- The system. -/
  system : System ι κ ε
  /-- The sweeps that have begun and not ended. -/
  flights : List Flight
  /-- The mailbox of the bridge. -/
  mailbox : Mailbox HostEvent
  /-- Whether more can be sent. -/
  isOpen : Bool
  /-- Whether the bridge is at work. -/
  running : Bool

namespace Consumer

/-- What can happen. -/
inductive Label (ι κ ε : Type) where
  /-- A query comes in. -/
  | ask (id : SubjectId)
  /-- A sweep ends. -/
  | land (f : Flight) (contexts : ContextSet)
  /-- A request that is answered at once. -/
  | call (r : Request ι κ ε)
  /-- An event is sent. -/
  | send (e : HostEvent)
  /-- The channel is closed. -/
  | close
  /-- The bridge reads its mailbox and does its work. -/
  | receive (d : Delivery HostEvent)

variable {ι κ ε : Type}

/-- The transitions. The bridge stops when it reads that the channel is closed. -/
inductive Step (g : Guests ι κ ε) : Consumer ι κ ε → Label ι κ ε → Consumer ι κ ε → Prop
  | keep {v id contexts s} (h : v.system.arrive id = (.kept contexts, s)) :
    Step g v (.ask id) { v with system := s }
  | launch {v id f s} (h : v.system.arrive id = (.due f, s)) :
    Step g v (.ask id) { v with system := s, flights := f :: v.flights }
  | land {v f contexts} (h : f ∈ v.flights) : Step g v (.land f contexts)
    { v with system := v.system.land f contexts, flights := v.flights.erase f }
  | call {v r a s} (h : System.answer g 0 r v.system = some (a, s)) :
    Step g v (.call r) { v with system := s }
  | send {v e} (h : v.isOpen = true) :
    Step g v (.send e) { v with mailbox := v.mailbox.put e }
  | close {v} : Step g v .close { v with isOpen := false }
  | receive {v d m ending s out} (hrunning : v.running = true)
    (htake : v.mailbox.take v.isOpen = (d, m)) (hd : d ≠ .closed)
    (hrun : v.system.run g 0 (Bridge.onDelivery .done d) = some (ending, s, out)) :
    Step g v (.receive d) { v with system := s, mailbox := m }
  | stop {v m} (hrunning : v.running = true)
    (htake : v.mailbox.take v.isOpen = (.closed, m)) :
    Step g v (.receive .closed) { v with mailbox := m, running := false }

/-- A run with the labels of its steps. -/
inductive Runs (g : Guests ι κ ε) (v : Consumer ι κ ε) :
    List (Label ι κ ε) → Consumer ι κ ε → Prop
  | nil : Runs g v [] v
  | snoc {ls u l u'} (h : Runs g v ls u) (hstep : Step g u l u') : Runs g v (ls ++ [l]) u'

/-- A new system, and the bridge at a new mailbox with the given room. -/
def new (busCapacity : Nat) (env : ε) (room : Nat) : Consumer ι κ ε :=
  ⟨.new busCapacity env, [], .new room, true, true⟩

variable {g : Guests ι κ ε} {u v v' : Consumer ι κ ε} {l : Label ι κ ε}
  {ls : List (Label ι κ ε)} {id : SubjectId}

/-! ### The consumer as traffic -/

/-- What has been done to the cache, and the sweeps under way. -/
def traffic (v : Consumer ι κ ε) : Traffic :=
  v.system.traffic v.flights

/-- What the bridge does at one reading is no more than one step. -/
theorem traffic_delivered (s : System ι κ ε) (d : Delivery HostEvent) (flights : List Flight) :
    ∃ l, (s.traffic flights).step l ((s.delivered d).traffic flights) := by
  cases d with
  | item e =>
    simp only [System.delivered, System.told]
    cases BridgeAction.ofEvent e with
    | signal id => exact ⟨.signal id, trivial, rfl⟩
    | remove id => exact ⟨.remove id, trivial, rfl⟩
    | ignore => exact Traffic.exists_step_same rfl
  | lagged n => exact ⟨.invalidateAll, trivial, rfl⟩
  | empty => exact Traffic.exists_step_same rfl
  | closed => exact Traffic.exists_step_same rfl

theorem delivered_of_run {s s' : System ι κ ε} {d : Delivery HostEvent} {ending : Ending}
    {out : ContextSet}
    (h : s.run g 0 (Bridge.onDelivery .done d) = some (ending, s', out)) : s' = s.delivered d := by
  unfold System.run at h
  rw [System.run_onDelivery] at h
  simp only [Routine.run, Option.some.injEq, Prod.mk.injEq] at h
  exact h.2.1.symm

/-- What the bridge can read, and what becomes of the consumer. -/
theorem receive_cases {d : Delivery HostEvent} (h : Step g v (.receive d) v') :
    (∃ n, d = .lagged n ∧ 0 < v.mailbox.missed ∧
      v' = { v with
        system := v.system.invalidateAll
        mailbox := { v.mailbox with missed := 0 } }) ∨
    (∃ e rest, d = .item e ∧ v.mailbox.missed = 0 ∧ v.mailbox.pending = e :: rest ∧
      v' = { v with
        system := v.system.told e
        mailbox := { v.mailbox with pending := rest } }) ∨
    (d = .empty ∧ v.mailbox.Drained ∧ v.isOpen = true ∧ v' = v) ∨
    (d = .closed ∧ v.mailbox.Drained ∧ v.isOpen = false ∧ v' = { v with running := false }) := by
  -- what is read is told by the mailbox, and by whether the channel is open
  have htake := v.mailbox.take_cases v.isOpen
  cases h with
  | @receive _ m ending s out _ hread hd hrun =>
    rw [delivered_of_run hrun]
    rw [hread] at htake
    rcases htake with ⟨hlost, heq⟩ | ⟨e, rest, hnone, hpending, heq⟩ | ⟨hdrained, heq⟩ <;>
      obtain ⟨rfl, rfl⟩ := Prod.mk.inj heq
    · exact Or.inl ⟨_, rfl, hlost, rfl⟩
    · exact Or.inr (Or.inl ⟨e, rest, rfl, hnone, hpending, rfl⟩)
    · by_cases hopen : v.isOpen = true
      · refine Or.inr (Or.inr (Or.inl ⟨if_pos hopen, hdrained, hopen, ?_⟩))
        rw [if_pos hopen]
        rfl
      · exact absurd (if_neg hopen) hd
  | @stop m _ hread =>
    rw [hread] at htake
    rcases htake with ⟨_, heq⟩ | ⟨e, rest, _, _, heq⟩ | ⟨hdrained, heq⟩
    · simp at heq
    · simp at heq
    · obtain ⟨hclosed, rfl⟩ := Prod.mk.inj heq
      cases hopen : v.isOpen with
      | true => simp [hopen] at hclosed
      | false => exact Or.inr (Or.inr (Or.inr ⟨rfl, hdrained, rfl, rfl⟩))

theorem traffic_step (h : Step g v l v') : ∃ l, v.traffic.step l v'.traffic := by
  cases h with
  | keep h => exact ⟨_, System.traffic_kept h v.flights⟩
  | launch h => exact ⟨_, System.traffic_due h v.flights⟩
  | land h => exact ⟨_, System.traffic_land h⟩
  | call h => exact System.traffic_at_once h v.flights
  | send h => exact Traffic.exists_step_same rfl
  | close => exact Traffic.exists_step_same rfl
  | @receive d m ending s out _ _ _ hrun =>
    rw [delivered_of_run hrun]
    exact traffic_delivered v.system d v.flights
  | stop _ _ => exact Traffic.exists_step_same rfl

theorem Runs.traffic (h : Runs g v ls v') : Traffic.Reaches v.traffic v'.traffic := by
  induction h with
  | nil => exact .refl
  | snoc _ hstep ih => exact .tail ih (traffic_step hstep)

theorem sound_new (busCapacity : Nat) (env : ε) (room : Nat) :
    (new busCapacity env room : Consumer ι κ ε).traffic.Sound :=
  System.sound_new busCapacity env

/-! ### Events that wait, and events that were caught -/

/-- An event that spoils what is kept for the subject waits to be read, or some events were
    lost and that has not been read. -/
def Waits (id : SubjectId) (m : Mailbox HostEvent) : Prop :=
  0 < m.missed ∨ ∃ e ∈ m.pending, e.Spoils id

theorem Waits.put {m : Mailbox HostEvent} (h : Waits id m) (e : HostEvent) :
    Waits id (m.put e) := by
  rcases m.put_cases e with ⟨hmissed, hpending⟩ | ⟨hmissed, _⟩
  · rcases h with hlost | ⟨e', he', hspoils⟩
    · exact Or.inl (hmissed ▸ hlost)
    · exact Or.inr ⟨e', hpending ▸ List.mem_append_left _ he', hspoils⟩
  · exact Or.inl (hmissed ▸ Nat.succ_pos _)

theorem waits_put {e : HostEvent} (h : e.Spoils id) (m : Mailbox HostEvent) :
    Waits id (m.put e) := by
  rcases m.put_cases e with ⟨_, hpending⟩ | ⟨hmissed, _⟩
  · exact Or.inr ⟨e, by rw [hpending]; simp, h⟩
  · exact Or.inl (hmissed ▸ Nat.succ_pos _)

theorem not_waits_of_drained {m : Mailbox HostEvent} (h : m.Drained) : ¬ Waits id m := by
  rintro (hlost | ⟨e, he, _⟩)
  · exact Nat.ne_of_gt hlost h.1
  · simp [h.2] at he

/-- Since `u`, the entry of the subject was spoiled, or the subject had none at some moment. -/
def Caught (id : SubjectId) (u v : Consumer ι κ ε) : Prop :=
  (∃ noted, v.system.journal = noted ++ u.system.journal ∧ ∃ h ∈ noted, h.bumps id = true) ∨
    ∃ w, Traffic.Reaches u.traffic w ∧ w.cache.tickets.lookup id = none ∧
      Traffic.Reaches w v.traffic

theorem Caught.step (h : Caught id u v) (hstep : Step g v l v') : Caught id u v' := by
  -- both ways of being caught speak of the past, which a step only adds to
  have htraffic := traffic_step hstep
  rcases h with ⟨noted, hj, x, hx, hbumps⟩ | ⟨w, hw, hnone, hv⟩
  · obtain ⟨l, _, hv'⟩ := htraffic
    refine Or.inl ⟨v.traffic.noted l ++ noted, ?_, x, List.mem_append_right _ hx, hbumps⟩
    rw [List.append_assoc, ← hj]
    exact congrArg Traffic.journal hv'
  · exact Or.inr ⟨w, hw, hnone, hv.tail htraffic⟩

theorem caught_of_bumped (huv : Traffic.Reaches u.traffic v.traffic) {x : Happening}
    (hj : v'.system.journal = x :: v.system.journal) (hx : x.bumps id = true) :
    Caught id u v' := by
  -- all that was noted since `u` is still there
  obtain ⟨noted, hnoted, _⟩ := huv.noted
  refine Or.inl ⟨x :: noted, ?_, x, List.mem_cons_self .., hx⟩
  rw [hj]
  exact congrArg (x :: ·) hnoted

/-- An event that is read is caught: its signal spoils the entry of the subject, or the
    subject has none at this moment. -/
theorem caught_of_spoiling (huv : Traffic.Reaches u.traffic v.traffic) {e : HostEvent}
    (he : e.Spoils id) (hv' : v'.system = v.system.told e) (hflights : v'.flights = v.flights) :
    Caught id u v' := by
  have htold : v'.system = (v.system.signal id).2 := by
    rw [hv', System.told, ofEvent_eq_signal.mpr he]
  cases hid : v.system.cache.tickets.lookup id with
  | none =>
    have hstep : ∃ l, v.traffic.step l v'.traffic := by
      unfold Consumer.traffic
      rw [hv', hflights]
      exact traffic_delivered v.system (.item e) v.flights
    exact Or.inr ⟨v.traffic, huv, hid, .single hstep⟩
  | some ticket =>
    refine caught_of_bumped huv (x := .signalled id true) ?_ (by simp [Happening.bumps])
    rw [htold, System.signal, Cache.signal_of_some hid]
    rfl

/-- What waits to be read still waits after a step, or was caught. -/
theorem waits_or_caught_step (huv : Traffic.Reaches u.traffic v.traffic)
    (h : Waits id v.mailbox) (hstep : Step g v l v') :
    Waits id v'.mailbox ∨ Caught id u v' := by
  match l with
  | .ask _ => cases hstep <;> exact Or.inl h
  | .land _ _ | .call _ | .close =>
    cases hstep
    exact Or.inl h
  | .send e =>
    cases hstep
    exact Or.inl (h.put e)
  | .receive d =>
    rcases receive_cases hstep with ⟨n, rfl, _, rfl⟩ | ⟨e, rest, rfl, hnone, hpending, rfl⟩ |
      ⟨_, hdrained, _⟩ | ⟨_, hdrained, _⟩
    · -- the loss of events is told, and everything is made stale
      exact Or.inr (caught_of_bumped huv (x := .invalidatedAll) rfl rfl)
    · rcases h with hlost | ⟨e', he', hspoils⟩
      · exact absurd hnone (Nat.ne_of_gt hlost)
      · rw [hpending] at he'
        rcases List.mem_cons.mp he' with rfl | he'
        · exact Or.inr (caught_of_spoiling huv hspoils rfl rfl)
        · exact Or.inl (Or.inr ⟨e', he', hspoils⟩)
    · exact absurd h (not_waits_of_drained hdrained)
    · exact absurd h (not_waits_of_drained hdrained)

/-- What waits to be read waits as long as the bridge has not caught it. -/
theorem Runs.waits_or_caught (hu : Waits id u.mailbox) (h : Runs g u ls v) :
    Waits id v.mailbox ∨ Caught id u v := by
  induction h with
  | nil => exact Or.inl hu
  | snoc h hstep ih =>
    rcases ih with hwaits | hcaught
    · exact waits_or_caught_step h.traffic hwaits hstep
    · exact Or.inr (hcaught.step hstep)

/-! ### What is good was made since -/

theorem split_of_ne {α : Type} {a b c d : List α} {x y : α} (h : a ++ x :: b = c ++ y :: d)
    (hy : y ∉ a) (hne : x ≠ y) : ∃ b', c = a ++ x :: b' := by
  rcases List.append_eq_append_iff.mp h with ⟨a', rfl, h'⟩ | ⟨c', rfl, h'⟩
  · cases a' with
    | nil => exact absurd (List.cons.inj h').1 hne
    | cons z zs =>
      obtain ⟨rfl, -⟩ := List.cons.inj h'
      exact ⟨zs, rfl⟩
  · cases c' with
    | nil => exact absurd (List.cons.inj h').1.symm hne
    | cons z zs =>
      obtain ⟨rfl, -⟩ := List.cons.inj h'
      exact absurd (List.mem_append_right _ (List.mem_cons_self ..)) hy

/-- The journal tells that the set was made for the subject, by a sweep that began when all of
    `old` had happened. -/
def MadeAfter (old : List Happening) (id : SubjectId) (contexts : ContextSet)
    (journal : List Happening) : Prop :=
  ∃ late number middle ticket generation early,
    journal = late ++ .sweepEnded number contexts ::
      (middle ++ .sweepBegan number id ticket generation :: (early ++ old))

/-- A good set was made after its entry was last spoiled. -/
theorem madeAfter_of_spoiled (hv : v.traffic.Sound) {contexts : ContextSet}
    (hk : v.system.cache.Keeps id contexts) {noted old : List Happening} {x : Happening}
    (hj : v.system.journal = noted ++ old) (hx : x ∈ noted) (hbumps : x.bumps id = true) :
    MadeAfter old id contexts v.system.journal := by
  obtain ⟨ticket, hid, hk⟩ := hk
  obtain ⟨number, late, middle, early, hmade, hclean⟩ := (hv.made id ticket _ hid hk).unspoiled
  obtain ⟨newer, older, rfl⟩ := List.append_of_mem hx
  -- the same journal, split where the sweep began and where the entry was spoiled
  have hjournal : (late ++ .sweepEnded number contexts :: middle) ++
      .sweepBegan number id ticket (v.system.cache.entryAt ticket).generation :: early =
        newer ++ x :: (older ++ old) := by
    rw [List.append_assoc, List.cons_append, ← hmade]
    show v.system.journal = _
    simpa using hj
  have hnot : x ∉ late ++ .sweepEnded number contexts :: middle := by
    intro hin
    have hcases : x ∈ late ++ middle ∨ x = .sweepEnded number contexts := by
      simp only [List.mem_append, List.mem_cons] at hin ⊢
      tauto
    rcases hcases with hin | rfl
    · simp [hclean x hin] at hbumps
    · simp [Happening.bumps] at hbumps
  have hne : .sweepBegan number id ticket (v.system.cache.entryAt ticket).generation ≠ x := by
    rintro rfl
    simp [Happening.bumps] at hbumps
  obtain ⟨rest, rfl⟩ := split_of_ne hjournal hnot hne
  refine ⟨late, number, middle, ticket, (v.system.cache.entryAt ticket).generation,
    rest ++ x :: older, ?_⟩
  rw [hj]
  simp

/-- A good set was made after the last moment at which its subject had no entry. -/
theorem madeAfter_of_absent {w : Traffic} (hw : w.Sound)
    (hnone : w.cache.tickets.lookup id = none) (hv : Traffic.Reaches w v.traffic)
    {contexts : ContextSet} (hk : v.system.cache.Keeps id contexts) :
    MadeAfter w.journal id contexts v.system.journal := by
  obtain ⟨ticket, hid, hk⟩ := hk
  obtain ⟨noted, hj, _⟩ := hv.noted
  obtain ⟨number, late, middle, early, hmade, _⟩ := hv.made_since hw hnone hj hid hk
  refine ⟨late, number, middle, ticket, (v.system.cache.entryAt ticket).generation, early, ?_⟩
  have hjournal : v.system.journal = noted ++ w.journal := hj
  rw [hjournal, hmade]
  simp

theorem MadeAfter.older {old noted journal : List Happening} {contexts : ContextSet}
    (h : MadeAfter (noted ++ old) id contexts journal) : MadeAfter old id contexts journal := by
  obtain ⟨late, number, middle, ticket, generation, early, rfl⟩ := h
  exact ⟨late, number, middle, ticket, generation, early ++ noted, by simp⟩

/-- A good set was made after its subject was caught. -/
theorem Caught.made (hu : u.traffic.Sound) (huv : Traffic.Reaches u.traffic v.traffic)
    (h : Caught id u v) {contexts : ContextSet} (hk : v.system.cache.Keeps id contexts) :
    MadeAfter u.system.journal id contexts v.system.journal := by
  rcases h with ⟨noted, hj, x, hx, hbumps⟩ | ⟨w, hw, hnone, hv⟩
  · exact madeAfter_of_spoiled (huv.sound hu) hk hj hx hbumps
  · obtain ⟨noted, hj, _⟩ := hw.noted
    have hmade := madeAfter_of_absent (hw.sound hu) hnone hv hk
    rw [hj] at hmade
    exact hmade.older

/-! ### Without loss the channel makes no difference -/

/-- What a step does to the system when the bridge is told of events directly. -/
def Label.direct (g : Guests ι κ ε) (s : System ι κ ε) : Label ι κ ε → Option (System ι κ ε)
  | .ask id => some (s.arrive id).2
  | .land f contexts => some (s.land f contexts)
  | .call r => (System.answer g 0 r s).map Prod.snd
  | .receive (.item e) => (s.run g 0 (Bridge.onEvent e .done)).map fun p => p.2.1
  | .receive _ => some s
  | .send _ => some s
  | .close => some s

/-- The event that a step sends. -/
def Label.sent? : Label ι κ ε → Option HostEvent
  | .send e => some e
  | _ => none

/-- The event that the bridge learns of in a step. -/
def Label.learnt? : Label ι κ ε → Option HostEvent
  | .receive (.item e) => some e
  | _ => none

theorem Step.direct (h : Step g v l v') (hlag : ∀ n, l ≠ .receive (.lagged n)) :
    l.direct g v.system = some v'.system := by
  match l with
  | .ask _ => cases h <;> next h => simp only [Label.direct, h]
  | .land _ _ | .close | .send _ =>
    cases h
    rfl
  | .call _ =>
    cases h with
    | call h => simp only [Label.direct, h, Option.map_some]
  | .receive d =>
    rcases receive_cases h with ⟨n, rfl, _⟩ | ⟨e, rest, rfl, _, _, rfl⟩ | ⟨rfl, _, _, rfl⟩ |
      ⟨rfl, _, _, rfl⟩
    · exact absurd rfl (hlag n)
    · simp only [Label.direct, System.run, System.run_onEvent, Routine.run, Option.map_some]
    · rfl
    · rfl

/-- What was sent was learnt, or was lost and that has not been told, or waits. -/
def Accounts (m : Mailbox HostEvent) (sent learnt : List HostEvent) : Prop :=
  ∃ lost, lost.length = m.missed ∧ sent = learnt ++ (lost ++ m.pending)

theorem Accounts.put {m : Mailbox HostEvent} {sent learnt : List HostEvent}
    (h : Accounts m sent learnt) (e : HostEvent) : Accounts (m.put e) (sent ++ [e]) learnt := by
  obtain ⟨lost, hlost, rfl⟩ := h
  rcases m.put_cases e with ⟨hmissed, hpending⟩ | ⟨hmissed, hpending⟩
  · exact ⟨lost, hlost.trans hmissed.symm, by rw [hpending]; simp⟩
  · -- the oldest item that waited is lost
    obtain ⟨x, rest, hx⟩ := List.exists_cons_of_ne_nil
      (List.append_ne_nil_of_right_ne_nil m.pending (List.cons_ne_nil e []))
    refine ⟨lost ++ [x], ?_, ?_⟩
    · rw [hmissed, List.length_append, List.length_singleton, hlost]
    · rw [hpending, hx, List.append_assoc, List.append_assoc, List.append_assoc, hx]
      rfl

theorem Step.accounts {sent learnt : List HostEvent} (h : Step g v l v')
    (hlag : ∀ n, l ≠ .receive (.lagged n)) (hv : Accounts v.mailbox sent learnt) :
    Accounts v'.mailbox (sent ++ l.sent?.toList) (learnt ++ l.learnt?.toList) := by
  have hquiet : Accounts v.mailbox (sent ++ []) (learnt ++ []) := by simpa using hv
  match l with
  | .ask _ => cases h <;> exact hquiet
  | .land _ _ | .call _ | .close =>
    cases h
    exact hquiet
  | .send e =>
    cases h
    have hput := hv.put e
    rwa [← List.append_nil learnt] at hput
  | .receive d =>
    rcases receive_cases h with ⟨n, rfl, _⟩ | ⟨e, rest, rfl, hnone, hpending, rfl⟩ |
      ⟨rfl, _, _, rfl⟩ | ⟨rfl, _, _, rfl⟩
    · exact absurd rfl (hlag n)
    · obtain ⟨lost, hlost, rfl⟩ := hv
      obtain rfl : lost = [] := List.eq_nil_of_length_eq_zero (hlost.trans hnone)
      refine ⟨[], hlost, ?_⟩
      simp [hpending, Label.sent?, Label.learnt?]
    · exact hquiet
    · exact hquiet

/-- As long as no loss is told, the system is as if the bridge were told of events directly,
    and every event is accounted for. -/
theorem Runs.direct {busCapacity room : Nat} {env : ε}
    (h : Runs g (new busCapacity env room) ls v) (hlag : ∀ n, .receive (.lagged n) ∉ ls) :
    ls.foldlM (Label.direct g) (.new busCapacity env) = some v.system ∧
      Accounts v.mailbox (ls.filterMap Label.sent?) (ls.filterMap Label.learnt?) := by
  induction h with
  | nil => exact ⟨rfl, [], rfl, rfl⟩
  | @snoc ls v l v' h hstep ih =>
    obtain ⟨hsystem, haccounts⟩ := ih fun n hin => hlag n (List.mem_append_left _ hin)
    have hl : ∀ n, l ≠ .receive (.lagged n) := by
      rintro n rfl
      exact hlag n (by simp)
    refine ⟨?_, ?_⟩
    · rw [List.foldlM_append, hsystem]
      simpa using hstep.direct hl
    · have hnext := hstep.accounts hl haccounts
      have hsingle : ∀ f : Label ι κ ε → Option HostEvent, [l].filterMap f = (f l).toList := by
        intro f
        cases hf : f l <;> simp [hf]
      rwa [← hsingle, ← hsingle, ← List.filterMap_append, ← List.filterMap_append] at hnext

/-! ### The end of the work -/

/-- Whether the bridge reads its mailbox in a step. -/
def Label.reads : Label ι κ ε → Bool
  | .receive _ => true
  | _ => false

/-- The bridge can read its mailbox as long as it is at work. -/
theorem exists_receive (g : Guests ι κ ε) (h : v.running = true) :
    ∃ d v', Step g v (.receive d) v' := by
  by_cases hd : (v.mailbox.take v.isOpen).1 = .closed
  · exact ⟨_, _, .stop h (Prod.ext hd rfl)⟩
  · exact ⟨_, _, .receive h rfl hd (System.run_onDelivery _ _ _ _)⟩

/-- As long as more can be sent, the bridge is at work. -/
theorem Runs.running {busCapacity room : Nat} {env : ε}
    (h : Runs g (new busCapacity env room) ls v) (hopen : v.isOpen = true) :
    v.running = true := by
  induction h with
  | nil => rfl
  | @snoc ls v l v' h hstep ih =>
    match l with
    | .ask _ => cases hstep <;> exact ih hopen
    | .land _ _ | .call _ | .send _ =>
      cases hstep
      exact ih hopen
    | .close =>
      cases hstep
      simp at hopen
    | .receive d =>
      rcases receive_cases hstep with ⟨n, _, _, rfl⟩ | ⟨e, rest, _, _, _, rfl⟩ | ⟨_, _, _, rfl⟩ |
        ⟨_, _, hclosed, rfl⟩
      · exact ih hopen
      · exact ih hopen
      · exact ih hopen
      · have hopen : v.isOpen = true := hopen
        simp [hclosed] at hopen

/-- When nothing more can be sent, each reading leaves less to be read, and the first one that
    finds nothing is the last. -/
theorem Runs.reads (h : Runs g u ls v) (hclosed : u.isOpen = false) (hu : u.running = true) :
    v.isOpen = false ∧
      (v.running = true ∧ ls.countP Label.reads + v.mailbox.drain.length = u.mailbox.drain.length ∨
        v.running = false ∧ ls.countP Label.reads = u.mailbox.drain.length + 1) := by
  induction h with
  | nil => exact ⟨hclosed, Or.inl ⟨hu, by simp⟩⟩
  | @snoc ls v l v' h hstep ih =>
    rw [List.countP_append]
    match l with
    | .ask _ => cases hstep <;> exact ih
    | .land _ _ | .call _ =>
      cases hstep
      exact ih
    | .close =>
      cases hstep
      exact ⟨rfl, ih.2⟩
    | .send _ =>
      cases hstep with
      | send hopen => simp [hopen] at ih
    | .receive d =>
      have hone : [(.receive d : Label ι κ ε)].countP Label.reads = 1 := rfl
      rw [hone]
      obtain ⟨hclosed', hcount⟩ := ih
      -- only a bridge at work reads
      have hrunning : v.running = true := by cases hstep <;> assumption
      have hcount : ls.countP Label.reads + v.mailbox.drain.length = u.mailbox.drain.length := by
        simpa [hrunning] using hcount
      rcases receive_cases hstep with ⟨n, _, hlost, rfl⟩ | ⟨e, rest, _, hnone, hpending, rfl⟩ |
        ⟨_, _, hopen, _⟩ | ⟨_, hdrained, _, rfl⟩
      · refine ⟨hclosed', Or.inl ⟨hrunning, ?_⟩⟩
        rw [← hcount, Mailbox.drain_of_missed hlost, List.length_cons]
        exact Nat.add_right_comm ..
      · refine ⟨hclosed', Or.inl ⟨hrunning, ?_⟩⟩
        rw [← hcount, Mailbox.drain_of_pending hnone hpending, List.length_cons]
        exact Nat.add_right_comm ..
      · simp [hclosed'] at hopen
      · refine ⟨hclosed', Or.inr ⟨rfl, ?_⟩⟩
        rw [← hcount, Mailbox.drained_iff.mp hdrained]
        rfl

/-! ### All of it -/

/-- **The bridge catches up**, at a channel of any room that is used in any order:

    1. When nothing waits to be read, a subject whose set is good has one from a sweep that
       began after every event that spoiled it had been sent.
    2. As long as no loss was told, the system is as if the bridge had been told directly of
       the events that it read, in their order. These are all that were sent, but for those
       that wait and those whose loss is not told yet.
    3. The bridge is at work as long as the channel is open. After that each reading leaves
       less to be read, and the one that finds nothing is the last. -/
theorem consumer_catches_up (g : Guests ι κ ε) (busCapacity room : Nat) (env : ε) :
    (∀ ls₁ u e v ls₂ w id, Runs g (new busCapacity env room) ls₁ u → Step g u (.send e) v →
      Runs g v ls₂ w → e.Spoils id → w.mailbox.Drained → w.system.cache.state id = .fresh →
        ∃ contexts, w.system.cache.Keeps id contexts ∧
          MadeAfter v.system.journal id contexts w.system.journal) ∧
    (∀ ls v, Runs g (new busCapacity env room) ls v → (∀ n, .receive (.lagged n) ∉ ls) →
      ls.foldlM (Label.direct g) (.new busCapacity env) = some v.system ∧
      Accounts v.mailbox (ls.filterMap Label.sent?) (ls.filterMap Label.learnt?)) ∧
    ∀ ls v, Runs g (new busCapacity env room) ls v →
      (v.isOpen = true → v.running = true) ∧
      (v.running = true → ∃ d v', Step g v (.receive d) v') ∧
      (v.isOpen = false → v.running = true → ∀ ls' v', Runs g v ls' v' →
        ls'.countP Label.reads ≤ v.mailbox.drain.length + 1 ∧
        (v'.running = false ↔ ls'.countP Label.reads = v.mailbox.drain.length + 1)) := by
  refine ⟨?_, fun ls v h hlag => h.direct hlag, fun ls v h =>
    ⟨h.running, exists_receive g, ?_⟩⟩
  · intro ls₁ u e v ls₂ w id h₁ hsend h₂ he hdrained hfresh
    -- from the sending on the event waits, until it is caught
    have hwaits : Waits id v.mailbox := by
      cases hsend
      exact waits_put he u.mailbox
    have hv : v.traffic.Sound :=
      Traffic.Reaches.sound (sound_new busCapacity env room)
        (h₁.traffic.tail (traffic_step hsend))
    obtain ⟨contexts, hkeeps⟩ := Cache.state_eq_fresh.mp hfresh
    have hcaught : Caught id v w :=
      (h₂.waits_or_caught hwaits).resolve_left (not_waits_of_drained hdrained)
    exact ⟨contexts, hkeeps, hcaught.made hv h₂.traffic hkeeps⟩
  · intro hclosed hrunning ls' v' h'
    obtain ⟨-, ⟨hv', hcount⟩ | ⟨hv', hcount⟩⟩ := h'.reads hclosed hrunning
    · refine ⟨by omega, ?_⟩
      simp only [hv', Bool.true_eq_false, false_iff]
      omega
    · exact ⟨by omega, by simp [hv', hcount]⟩

/-! ### An event that is lost -/

/-- Somebody called `a` is asked for, and a sweep begins. -/
def begun : System Unit Unit Unit :=
  ((System.new 1 ()).arrive "a").2

/-- The sweep has ended, and the loss of an event was told. -/
def warned : System Unit Unit Unit :=
  (begun.land ⟨0, "a", 0, 0⟩ .empty).invalidateAll

/-- A second sweep has begun and ended. -/
def renewed : System Unit Unit Unit :=
  (warned.arrive "a").2.land ⟨1, "a", 0, 1⟩ .empty

/-- The event that is lost. -/
def moved : HostEvent :=
  .gameModeChanged (.subject "a") none (.inDefaultSpace "creative")

/-- The event that is read. -/
def came : HostEvent :=
  .subjectConnected (.other "zombie")

/-- An event spoils what the sweep under way will find, and is lost in a mailbox with room for
    one. The sweep ends, the bridge reads of the loss, and the set that is good in the end is
    from the second sweep. -/
theorem consumer_catches_up_after_loss :
    ∃ (v w : Consumer Unit Unit Unit) (ls : List (Label Unit Unit Unit)),
      Runs .idle v ls w ∧ .receive (.lagged 1) ∈ ls ∧ w.mailbox.Drained ∧
      w.system.cache.state "a" = .fresh ∧
      ∃ contexts, w.system.cache.Keeps "a" contexts ∧
        MadeAfter v.system.journal "a" contexts w.system.journal := by
  have hmade := (consumer_catches_up (.idle : Guests Unit Unit Unit) 1 1 ()).1
  have hask : Step .idle (new 1 () 1) (.ask "a")
      ⟨begun, [⟨0, "a", 0, 0⟩], ⟨1, 0, []⟩, true, true⟩ := .launch rfl
  have hsend : Step .idle ⟨begun, [⟨0, "a", 0, 0⟩], ⟨1, 0, []⟩, true, true⟩ (.send moved)
      ⟨begun, [⟨0, "a", 0, 0⟩], ⟨1, 0, [moved]⟩, true, true⟩ := .send rfl
  -- there is room for one event only
  have hlose : Step .idle ⟨begun, [⟨0, "a", 0, 0⟩], ⟨1, 0, [moved]⟩, true, true⟩ (.send came)
      ⟨begun, [⟨0, "a", 0, 0⟩], ⟨1, 1, [came]⟩, true, true⟩ := .send rfl
  have hland : Step .idle ⟨begun, [⟨0, "a", 0, 0⟩], ⟨1, 1, [came]⟩, true, true⟩
      (.land ⟨0, "a", 0, 0⟩ .empty)
      ⟨begun.land ⟨0, "a", 0, 0⟩ .empty, [], ⟨1, 1, [came]⟩, true, true⟩ := .land (by simp)
  have hwarn : Step .idle ⟨begun.land ⟨0, "a", 0, 0⟩ .empty, [], ⟨1, 1, [came]⟩, true, true⟩
      (.receive (.lagged 1)) ⟨warned, [], ⟨1, 0, [came]⟩, true, true⟩ :=
    .receive rfl rfl (by simp) (System.run_onDelivery _ _ _ _)
  have hread : Step .idle ⟨warned, [], ⟨1, 0, [came]⟩, true, true⟩ (.receive (.item came))
      ⟨warned, [], ⟨1, 0, []⟩, true, true⟩ :=
    .receive rfl rfl (by simp) (System.run_onDelivery _ _ _ _)
  -- the kept set is stale now, so that a sweep is due again
  have hagain : Step .idle ⟨warned, [], ⟨1, 0, []⟩, true, true⟩ (.ask "a")
      ⟨(warned.arrive "a").2, [⟨1, "a", 0, 1⟩], ⟨1, 0, []⟩, true, true⟩ :=
    .launch (Prod.ext (by decide +kernel) rfl)
  have hrenew : Step .idle ⟨(warned.arrive "a").2, [⟨1, "a", 0, 1⟩], ⟨1, 0, []⟩, true, true⟩
      (.land ⟨1, "a", 0, 1⟩ .empty) ⟨renewed, [], ⟨1, 0, []⟩, true, true⟩ := .land (by simp)
  have hruns := Runs.nil.snoc hlose |>.snoc hland |>.snoc hwarn |>.snoc hread |>.snoc hagain
    |>.snoc hrenew
  have hfresh : renewed.cache.state "a" = .fresh := by decide +kernel
  exact ⟨_, _, _, hruns, by simp, ⟨rfl, rfl⟩, hfresh,
    hmade _ _ moved _ _ _ "a" (Runs.nil.snoc hask) hsend hruns (Or.inr ⟨_, _, rfl⟩) ⟨rfl, rfl⟩
      hfresh⟩

end Consumer

end PermissionContexts
