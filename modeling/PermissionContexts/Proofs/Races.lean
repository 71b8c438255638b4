import PermissionContexts.Proofs.Machine
import PermissionContexts.Proofs.System
import PermissionContexts.Proofs.Traffic

/-! # Signals and removals during sweeps

    Calculators may call the system back while a sweep runs: they may ask for contexts,
    signal, remove subjects and change the registry, nested to any depth. Every run of
    the machine is a run of `Traffic` (`traffic_step`), and so

    * `no_signal_is_lost`: no signal is lost to a sweep under way, and
    * `removal_is_final`: no sweep under way brings back what was removed.
-/

namespace PermissionContexts

namespace Machine

variable {ι κ ε : Type} {g : Guests ι κ ε} {m m' m₁ m₂ : Machine ι κ ε}

/-! ### The machine as traffic -/

/-- What the machine has done to the cache, and the sweeps under way. -/
def traffic (m : Machine ι κ ε) : Traffic :=
  ⟨m.system.cache, m.system.clock, m.flights, m.system.journal⟩

/-- The entry with the given ticket. -/
def entryAt (m : Machine ι κ ε) (ticket : Nat) : Entry :=
  m.system.cache.entryAt ticket

theorem traffic_resume {e : Ending} (h : m.resume g e = some m') :
    ∃ l, m.traffic.step l m'.traffic := by
  obtain ⟨s, r, out, frames⟩ := m
  match frames with
  | [] => simp [resume] at h
  | .sweep f _ [] merged next out' :: frames =>
    -- the last calculator of the sweep has ended
    obtain rfl := Option.some.inj h
    refine ⟨.land f (e.keep merged out), ?_, ?_⟩
    · simp [Traffic.gate, traffic, flights, Frame.flight?]
    · simp [Traffic.effect, Traffic.cacheAfter, Traffic.clockAfter, Traffic.flightsAfter,
        Traffic.noted, traffic, flights, Frame.flight?, System.land, System.note]
  | .sweep f subject (c :: cs) merged next out' :: frames =>
    obtain rfl := Option.some.inj h
    refine Traffic.exists_step_idle rfl rfl (Nat.le_refl _) [.consulted f.number c.1] rfl ?_
    simp [Happening.neutral]
  | .dispatch number bus event [] next out' :: frames =>
    obtain rfl := Option.some.inj h
    refine Traffic.exists_step_idle rfl rfl (Nat.le_refl _) [.sent number event] rfl ?_
    simp [Happening.neutral]
  | .dispatch number bus event (l :: ls) next out' :: frames =>
    obtain rfl := Option.some.inj h
    refine Traffic.exists_step_idle rfl rfl (Nat.le_refl _) [.notified number l.name] rfl ?_
    simp [Happening.neutral]

theorem traffic_query {subject : Subject ε} {next : ContextSet → Routine ι κ ε}
    (h : m.serve g (.query subject) next = some m') : ∃ l, m.traffic.step l m'.traffic := by
  simp only [serve] at h
  split at h
  · next contexts s harrive =>
    obtain rfl := Option.some.inj h
    exact ⟨_, System.traffic_kept harrive m.flights⟩
  · next f s harrive =>
    obtain rfl := Option.some.inj h
    exact ⟨_, System.traffic_due harrive m.flights⟩

theorem traffic_serve {r : Request ι κ ε} {next : r.Reply → Routine ι κ ε}
    (h : m.serve g r next = some m') : ∃ l, m.traffic.step l m'.traffic := by
  cases r with
  | query subject => exact traffic_query h
  | publish e =>
    obtain rfl := Option.some.inj h
    refine Traffic.exists_step_idle rfl rfl (Nat.le_succ _)
      [.dispatchBegan m.system.clock e] rfl ?_
    simp [Happening.neutral]
  | _ =>
    simp only [serve, Option.map_eq_some_iff] at h
    obtain ⟨⟨a, s⟩, hr, rfl⟩ := h
    exact System.traffic_at_once hr m.flights

/-- Every step of the machine is a step of its traffic. -/
theorem traffic_step (h : m.step g = some m') : ∃ l, m.traffic.step l m'.traffic := by
  unfold step at h
  split at h
  · exact traffic_resume h
  · exact traffic_resume h
  · obtain rfl := Option.some.inj h
    exact Traffic.exists_step_same rfl
  · obtain rfl := Option.some.inj h
    exact Traffic.exists_step_same rfl
  · exact traffic_serve h

theorem traffic_reaches (h : Reaches g m m') : Traffic.Reaches m.traffic m'.traffic := by
  induction h with
  | refl => exact .refl
  | tail _ hstep ih => exact .tail ih (traffic_step hstep)

theorem Reachable.reaches (hm : Reachable g m) (h : Reaches g m m') : Reachable g m' := by
  obtain ⟨capacity, env, r, hstart⟩ := hm
  exact ⟨capacity, env, r, hstart.trans h⟩

theorem Reachable.step (hm : Reachable g m) (hs : m.step g = some m') : Reachable g m' :=
  hm.reaches (.single hs)

/-- The invariants of the traffic hold at every moment of every run. -/
theorem Reachable.sound (h : Reachable g m) : m.traffic.Sound := by
  obtain ⟨capacity, env, r, h⟩ := h
  exact (traffic_reaches h).sound (System.sound_new capacity env)

/-! ### Guests that meddle -/

/-- Guests whose one calculator asks for something about its own subject. -/
def meddling (request : SubjectId → Request Unit Unit Unit) : Guests Unit Unit Unit where
  calculator _ := ⟨fun subject => .ask (request subject.id) fun _ => .done, fun _ => none⟩
  handle _ _ := .done

/-- The moment of the first query, of a subject called `a`, at which the only calculator
    is about to ask for something and the sweep has merged `merged`. -/
def meddlingMoment (request : SubjectId → Request Unit Unit Unit) (merged : ContextSet) :
    Machine Unit Unit Unit where
  system := {
    registry := ⟨[("meddler", ())]⟩
    cache := { Cache.empty with tickets := [("a", 0)], heap := [.new] }
    bus := .new 1
    env := ()
    clock := 1
    journal := [.consulted 0 "meddler", .sweepBegan 0 "a" 0 0, .asked "a" 0] }
  routine := .ask (request "a") fun _ => .done
  out := .empty
  frames := [.sweep ⟨0, "a", 0, 0⟩ ⟨"a", fun _ => none, fun _ => none⟩ [] merged
    (fun _ => .done) .empty]

theorem reachable_meddlingMoment (request : SubjectId → Request Unit Unit Unit) :
    Reachable (meddling request) (meddlingMoment request .empty) := by
  refine ⟨1, (), .ask (.register "meddler" ()) fun _ =>
    .ask (.query ⟨"a", fun _ => none, fun _ => none⟩) fun _ => .done, ?_⟩
  refine .head rfl (.head rfl (.single ?_))
  exact congrArg (fun merged => some (meddlingMoment request merged))
    (Ending.keep_empty .finished)

/-! ### Signals -/

/-- What is done next makes the entry of the given subject stale. -/
def Bumping (m : Machine ι κ ε) (id : SubjectId) : Prop :=
  (∃ next, m.routine = .ask (.signal id) next) ∨ ∃ next, m.routine = .ask .invalidateAll next

/-- A query that is answered at once gets the result of a sweep that began after
    everything that made the entry of its subject stale. -/
theorem kept_unspoiled (hm : Reachable g m) {id : SubjectId} {contexts : ContextSet}
    {s' : System ι κ ε} (harrive : m.system.arrive id = (.kept contexts, s')) :
    ∃ number ticket generation late middle early,
      m.system.journal = late ++ .sweepEnded number contexts ::
        (middle ++ .sweepBegan number id ticket generation :: early) ∧
      ∀ h ∈ late ++ middle, h.bumps id = false := by
  -- what is served is kept for the subject, and what is kept was made by some sweep
  obtain ⟨ticket, hid, hk⟩ := System.kept_of_arrive harrive
  have hmade := hm.sound.made id ticket _ hid hk
  obtain ⟨number, late, middle, early, hj, hclean⟩ := hmade.unspoiled
  exact ⟨number, ticket, _, late, middle, early, hj, hclean⟩

theorem traffic_bumping {id : SubjectId} {ticket : Nat}
    (hid : m.system.cache.tickets.lookup id = some ticket) (hb : m.Bumping id)
    (hs : m.step g = some m₁) :
    ∃ l, m.traffic.step l m₁.traffic ∧ bumpCount id (m.traffic.noted l) = 1 := by
  obtain ⟨s, r, out, frames⟩ := m
  rcases hb with ⟨next, hr⟩ | ⟨next, hr⟩
  · obtain rfl : r = .ask (.signal id) next := hr
    obtain rfl := Option.some.inj hs
    refine ⟨.signal id, ⟨trivial, rfl⟩, ?_⟩
    simp [Traffic.noted, traffic, bumpCount, Happening.bumps, Cache.signal_of_some hid]
  · obtain rfl : r = .ask .invalidateAll next := hr
    obtain rfl := Option.some.inj hs
    exact ⟨.invalidateAll, ⟨trivial, rfl⟩, rfl⟩

/-- The entry of a sweep under way goes ahead of it when it is made stale. -/
theorem bumping_ahead (hm : Reachable g m) {f : Flight} (hf : f ∈ m.flights)
    (hid : m.system.cache.tickets.lookup f.id = some f.ticket) (hb : m.Bumping f.id)
    (hs : m.step g = some m₁) : f.generation < (m₁.entryAt f.ticket).generation := by
  obtain ⟨l, hstep, hcount⟩ := traffic_bumping hid hb hs
  -- a flight begins at the generation of its entry, which never falls
  have hle : f.generation ≤ (m.entryAt f.ticket).generation :=
    (hm.sound.inFlight f hf).generation_le
  have hbump : (m₁.entryAt f.ticket).generation = 1 + (m.entryAt f.ticket).generation := by
    rw [← hcount]
    exact Traffic.step_bumps hm.sound.valid hstep hid
  omega

/-- The result of a sweep that its entry has gone ahead of is refused or stale. -/
theorem landing_behind {f : Flight} (hs : m.step g = some m₁) (hf : f ∈ m.flights)
    (hf₁ : f ∉ m₁.flights) (hlt : f.generation < (m.entryAt f.ticket).generation) :
    (m₁.entryAt f.ticket).computed = (m.entryAt f.ticket).computed ∨
      (m₁.entryAt f.ticket).state = .stale := by
  obtain ⟨l, hstep⟩ := traffic_step hs
  obtain ⟨contexts, rfl⟩ := Traffic.step_land hstep hf hf₁
  exact Traffic.land_behind hstep hlt

/-- **No signal is lost**, whatever calculators ask for in the middle of sweeps:

    1. nothing is kept that is ahead of its entry,
    2. what is kept is replaced by nothing of an earlier generation,
    3. a query that is answered at once gets the result of a sweep that began after
       everything that made the entry of its subject stale, and
    4. when an entry is made stale while a sweep for it is under way, it is ahead of
       that sweep for good, so that the result is refused or stale. -/
theorem no_signal_is_lost (hm : Reachable g m) :
    (∀ ticket k, (m.entryAt ticket).computed = some k →
      k.generation ≤ (m.entryAt ticket).generation) ∧
    (∀ m' ticket k, Reaches g m m' → (m.entryAt ticket).computed = some k →
      ∃ k', (m'.entryAt ticket).computed = some k' ∧ k.generation ≤ k'.generation) ∧
    (∀ subject next contexts s', m.routine = .ask (.query subject) next →
      m.system.arrive subject.id = (.kept contexts, s') →
        m.step g = some { m with system := s', routine := next contexts } ∧
        ∃ number ticket generation late middle early,
          m.system.journal = late ++ .sweepEnded number contexts ::
            (middle ++ .sweepBegan number subject.id ticket generation :: early) ∧
          ∀ h ∈ late ++ middle, h.bumps subject.id = false) ∧
    (∀ f m₁ m₂, f ∈ m.flights → m.system.cache.tickets.lookup f.id = some f.ticket →
      m.Bumping f.id → m.step g = some m₁ → Reaches g m₁ m₂ →
        f.generation < (m₂.entryAt f.ticket).generation ∧
        ∀ m₃, m₂.step g = some m₃ → f ∈ m₂.flights → f ∉ m₃.flights →
          (m₃.entryAt f.ticket).computed = (m₂.entryAt f.ticket).computed ∨
            (m₃.entryAt f.ticket).state = .stale) := by
  refine ⟨hm.sound.valid.behind, ?_, ?_, ?_⟩
  · intro m' ticket k h hk
    exact ((traffic_reaches h).later hm.sound ticket).computed k hk
  · intro subject next contexts s' hr harrive
    refine ⟨?_, kept_unspoiled hm harrive⟩
    simp only [step, hr, serve, harrive]
  · intro f m₁ m₂ hf hid hb hs h
    -- once ahead of the flight, always ahead of it
    have hahead : f.generation < (m₂.entryAt f.ticket).generation :=
      Nat.lt_of_lt_of_le (bumping_ahead hm hf hid hb hs)
        ((traffic_reaches h).later (hm.step hs).sound f.ticket).generation
    exact ⟨hahead, fun m₃ hs₃ hf₂ hf₃ => landing_behind hs₃ hf₂ hf₃ hahead⟩

/-- A signal in the middle of the first sweep for a subject makes its result stale. -/
theorem no_signal_is_lost_to_the_first_sweep :
    ∃ m₁ m₂, (meddlingMoment .signal .empty).step (meddling .signal) = some m₁ ∧
      m₁.step (meddling .signal) = some m₂ ∧ 0 < (m₁.entryAt 0).generation ∧
      ((m₂.entryAt 0).computed = (m₁.entryAt 0).computed ∨ (m₂.entryAt 0).state = .stale) := by
  obtain ⟨_, _, _, hbumped⟩ := no_signal_is_lost (reachable_meddlingMoment .signal)
  refine ⟨_, _, rfl, rfl, ?_⟩
  obtain ⟨hahead, hlanding⟩ := hbumped ⟨0, "a", 0, 0⟩ _ _ (by decide) rfl (Or.inl ⟨_, rfl⟩) rfl .refl
  exact ⟨hahead, hlanding _ rfl (by decide) (by decide)⟩

/-! ### Removal -/

/-- A removal takes its subject's entry away, and leaves the sweeps under way. -/
theorem removal_step {id : SubjectId} {next : Bool → Routine ι κ ε}
    (hr : m.routine = .ask (.remove id) next) (hs : m.step g = some m₁) :
    m₁.system.cache.tickets.lookup id = none ∧ m₁.flights = m.flights := by
  obtain ⟨s, r, out, frames⟩ := m
  obtain rfl : r = .ask (.remove id) next := hr
  obtain rfl := Option.some.inj hs
  refine ⟨?_, rfl⟩
  show (s.cache.remove id).2.tickets.lookup id = none
  rw [Cache.lookup_remove, if_pos rfl]

/-- What is kept for a subject that had no entry at some moment was made by a sweep that
    began and ended after that moment, and so by none that was under way then. -/
theorem kept_since (hm : Reachable g m) {id : SubjectId}
    (hnone : m.system.cache.tickets.lookup id = none) (h : Reaches g m m')
    {noted : List Happening} (hj : m'.system.journal = noted ++ m.system.journal)
    {contexts : ContextSet} {s' : System ι κ ε}
    (harrive : m'.system.arrive id = (.kept contexts, s')) :
    ∃ number ticket generation late middle early,
      noted = late ++ .sweepEnded number contexts ::
        (middle ++ .sweepBegan number id ticket generation :: early) ∧
      ∀ f ∈ m.flights, f.number ≠ number := by
  obtain ⟨ticket, hid, hk⟩ := System.kept_of_arrive harrive
  obtain ⟨number, late, middle, early, hnoted, hclock⟩ :=
    (traffic_reaches h).made_since hm.sound hnone hj hid hk
  refine ⟨number, ticket, _, late, middle, early, hnoted, ?_⟩
  intro f hf
  exact Nat.ne_of_lt (Nat.lt_of_lt_of_le (hm.sound.inFlight f hf).number_lt hclock)

/-- A sweep that was under way when its subject had no entry changes for nobody what is
    found, whenever it ends. -/
theorem landing_detached (hm : Reachable g m) {f : Flight} (hf : f ∈ m.flights)
    (hnone : m.system.cache.tickets.lookup f.id = none) (h : Reaches g m m₁)
    (hs : m₁.step g = some m₂) (hf₁ : f ∈ m₁.flights) (hf₂ : f ∉ m₂.flights)
    (id : SubjectId) : m₂.system.cache.find? id = m₁.system.cache.find? id := by
  obtain ⟨l, hstep⟩ := traffic_step hs
  obtain ⟨contexts, rfl⟩ := Traffic.step_land hstep hf₁ hf₂
  -- its entry belongs to nobody, and is given to nobody again
  have hdetached := (hm.sound.inFlight f hf).detached hnone (traffic_reaches h)
  exact Traffic.land_detached hstep hdetached id

/-- **Removal is final**, whatever calculators ask for in the middle of sweeps. After a
    subject was removed, and with the sweeps that were under way then in mind,

    1. a query for it that is answered at once gets the result of none of them, but of
       a sweep that began after the removal,
    2. when one of them that was for it ends, no subject finds anything else than before,
       be it in an entry that the removed subject got meanwhile, and
    3. the removed subject is absent until it is asked for. -/
theorem removal_is_final (hm : Reachable g m) {id : SubjectId} {next : Bool → Routine ι κ ε}
    (hr : m.routine = .ask (.remove id) next) (hs : m.step g = some m₁) (h : Reaches g m₁ m₂) :
    ∃ noted, m₂.system.journal = noted ++ m₁.system.journal ∧
      (∀ subject next' contexts s', subject.id = id → m₂.routine = .ask (.query subject) next' →
        m₂.system.arrive id = (.kept contexts, s') →
          m₂.step g = some { m₂ with system := s', routine := next' contexts } ∧
          ∃ number ticket generation late middle early,
            noted = late ++ .sweepEnded number contexts ::
              (middle ++ .sweepBegan number id ticket generation :: early) ∧
            ∀ f ∈ m.flights, f.number ≠ number) ∧
      (∀ f m₃, f ∈ m.flights → f.id = id → m₂.step g = some m₃ → f ∈ m₂.flights →
        f ∉ m₃.flights → ∀ id', m₃.system.cache.find? id' = m₂.system.cache.find? id' ∧
          m₃.system.cache.state id' = m₂.system.cache.state id') ∧
      ((∀ ticket, .asked id ticket ∉ noted) → m₂.system.cache.state id = .absent) := by
  -- from here on only the moment after the removal matters
  obtain ⟨hnone, hflights⟩ := removal_step hr hs
  have hm₁ := hm.step hs
  obtain ⟨noted, hj, _, habsent⟩ := (traffic_reaches h).noted
  refine ⟨noted, hj, ?_, ?_, ?_⟩
  · rintro subject next' contexts s' rfl hr' harrive
    refine ⟨by simp only [step, hr', serve, harrive], ?_⟩
    rw [← hflights]
    exact kept_since hm₁ hnone h hj harrive
  · rintro f m₃ hf rfl hs₃ hf₂ hf₃ id'
    rw [← hflights] at hf
    have hfind := landing_detached hm₁ hf hnone h hs₃ hf₂ hf₃ id'
    refine ⟨hfind, ?_⟩
    unfold Cache.state
    rw [hfind]
  · intro hn
    exact Cache.state_eq_absent.mpr (habsent id hnone hn)

/-- A removal in the middle of the first sweep for a subject leaves it absent when the
    sweep has ended. -/
theorem removal_is_final_in_the_first_sweep :
    ∃ m₁ m₂, (meddlingMoment .remove .empty).step (meddling .remove) = some m₁ ∧
      m₁.step (meddling .remove) = some m₂ ∧ m₁.system.cache.state "a" = .absent ∧
      m₂.system.cache.state "a" = .absent := by
  have hm := reachable_meddlingMoment .remove
  refine ⟨_, _, rfl, rfl, ?_⟩
  obtain ⟨noted, hj, _, hlanding, habsent⟩ := removal_is_final hm rfl rfl .refl
  obtain rfl : [] = noted := List.append_cancel_right hj
  have hgone := habsent (by simp)
  refine ⟨hgone, ?_⟩
  rw [(hlanding ⟨0, "a", 0, 0⟩ _ (by decide) rfl rfl (by decide) (by decide) "a").2]
  exact hgone

end Machine

end PermissionContexts
