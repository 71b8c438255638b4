import PermissionContexts.Proofs.LifeCycle
import PermissionContexts.Proofs.Sweep

/-! # Events published on a bus with the bridge

    An event reaches the cache on a long way: it is published on the bus, the listeners
    are called in order, some of them fail, one of them is the bridge, and the bridge
    signals or removes. A listener is **aloof** if it asks neither cache nor bus for
    anything, so that of all the listeners only the bridge can touch the cache
    (`publish_bridged`).

    What is left of the way is a machine of four states for each subject
    (`CacheState.onEvent`) that sees the events about this subject and no others.

    Main statement: `published_events_fold`.
-/

namespace PermissionContexts

/-! ### What events say of a subject -/

namespace HostEvent

/-- Whether the event is about the subject with this identity. -/
def names (id : SubjectId) (e : HostEvent) : Bool :=
  e.actor = .subject id

/-- Whether the contexts of the subject that the event is about are stale after it. -/
def outdates : HostEvent → Bool
  | .worldChanged _ _ _ .post => true
  | .gameModeChanged _ _ _ => true
  | _ => false

/-- Whether the event is a signal for a subject that has an entry. -/
def meets (states : SubjectId → CacheState) (e : HostEvent) : Bool :=
  match e.actor with
  | .subject id => e.outdates && states id ≠ .absent
  | .other _ => false

/-- A signal that the event is to the bridge, for a subject that has an entry. -/
theorem meets_eq (states : SubjectId → CacheState) (e : HostEvent) :
    e.meets states = match BridgeAction.ofEvent e with
      | .signal id => decide (states id ≠ .absent)
      | .remove _ => false
      | .ignore => false := by
  unfold meets BridgeAction.ofEvent subjectId?
  cases e with
  | worldChanged actor source target phase =>
    cases actor <;> cases phase <;>
      simp [actor, Actor.subjectId?, outdates]
  | _ actor => cases actor <;> simp [actor, Actor.subjectId?, outdates]

end HostEvent

namespace CacheState

/-- The state of a subject after an event about it. -/
def onEvent (state : CacheState) : HostEvent → CacheState
  | .subjectConnected _ => state
  | .worldChanged _ _ _ .pre => state
  | .worldChanged _ _ _ .post => state.spoiled
  | .gameModeChanged _ _ _ => state.spoiled
  | .subjectDisconnected _ => .absent

/-- The states of all subjects after an event. -/
def allOnEvent (states : SubjectId → CacheState) (e : HostEvent) : SubjectId → CacheState :=
  fun id => if e.names id then (states id).onEvent e else states id

/-- The bridge acts on a subject as the events about it say. -/
theorem after_eq_allOnEvent (states : SubjectId → CacheState) (e : HostEvent) (id : SubjectId) :
    (states id).after id e = allOnEvent states e id := by
  unfold after BridgeAction.ofEvent HostEvent.subjectId? allOnEvent HostEvent.names
  cases e with
  | worldChanged actor source target phase =>
    cases actor <;> cases phase <;>
      simp [HostEvent.actor, Actor.subjectId?, onEvent]
  | _ actor => cases actor <;> simp [HostEvent.actor, Actor.subjectId?, onEvent]

/-- Events about others can be left out. -/
theorem foldl_after (id : SubjectId) (state : CacheState) (es : List HostEvent) :
    es.foldl (after id) state = (es.filter (·.names id)).foldl onEvent state := by
  have hafter : after id = fun state e => if e.names id then state.onEvent e else state := by
    funext state e
    exact after_eq_allOnEvent (fun _ => state) e id
  rw [List.foldl_filter, hafter]

end CacheState

/-- How many of the events, which come one after the other, are signals for subjects that
    have an entry by then. At first the subjects are in the given states. -/
def signalsMet (states : SubjectId → CacheState) : List HostEvent → Nat
  | [] => 0
  | e :: es =>
    (if e.meets states then 1 else 0) + signalsMet (CacheState.allOnEvent states e) es

namespace Guests

variable {ι κ ε : Type}

/-- The listener asks the system for nothing but the environment; it may fail. -/
def Aloof (g : Guests ι κ ε) (listener : κ) : Prop :=
  ∀ e env, ∃ p, (g.handle listener e).alone env .empty = some p

/-- The bridge stands once among the listeners, and all others are aloof. -/
def Bridged (g : Guests ι κ ε) (ls : List (Listener κ)) : Prop :=
  ∃ before bridge after, ls = before ++ bridge :: after ∧
    (∀ e, g.handle bridge.body e = Bridge.onEvent e .done) ∧
    ∀ l ∈ before ++ after, g.Aloof l.body

/-- The bridge may be registered after all others, at any rank. -/
theorem bridged_register {g : Guests ι κ ε} {b : Bus κ} {body : κ}
    (hbridge : ∀ e, g.handle body e = Bridge.onEvent e .done)
    (haloof : ∀ l ∈ b.listeners, g.Aloof l.body) (order : EventOrder) (name : String) :
    g.Bridged (b.register order name body).listeners := by
  refine ⟨_, ⟨order, name, body⟩, _, rfl, hbridge, ?_⟩
  rw [List.take_append_drop]
  exact haloof

end Guests

namespace System

variable {ι κ ε : Type} {s s' : System ι κ ε}

/-! ### What the bridge does to the cache -/

/-- The bridge looks at nothing but the cache. -/
theorem told_cache_congr (h : s'.cache = s.cache) (e : HostEvent) :
    (s'.told e).cache = (s.told e).cache := by
  unfold told signal remove
  rw [h]
  cases BridgeAction.ofEvent e with
  | ignore => exact h
  | _ => rfl

theorem foldl_told_cache_congr (h : s'.cache = s.cache) (es : List HostEvent) :
    (es.foldl told s').cache = (es.foldl told s).cache := by
  induction es generalizing s s' with
  | nil => exact h
  | cons e es ih => exact ih (told_cache_congr h e)

/-- The bridge makes no entry. -/
theorem lookup_told (s : System ι κ ε) (e : HostEvent) {id : SubjectId} {ticket : Nat}
    (h : (s.told e).cache.tickets.lookup id = some ticket) :
    s.cache.tickets.lookup id = some ticket := by
  unfold told at h
  cases hact : BridgeAction.ofEvent e with
  | signal id' =>
    rw [hact] at h
    exact (s.cache.signal_tickets id') ▸ h
  | remove id' =>
    rw [hact] at h
    have hin : (s.cache.remove id').2.tickets.lookup id = some ticket := h
    rw [Cache.lookup_remove] at hin
    split_ifs at hin
    exact hin
  | ignore =>
    rw [hact] at h
    exact h

theorem heap_length_told (s : System ι κ ε) (e : HostEvent) :
    (s.told e).cache.heap.length = s.cache.heap.length := by
  unfold told
  cases BridgeAction.ofEvent e with
  | signal id => exact s.cache.signal_heap_length id
  | remove id => exact congrArg List.length (s.cache.remove_heap id)
  | ignore => rfl

/-- The bridge has nothing computed and answers no query, and it counts the signals that
    meet an entry. -/
theorem stats_told (s : System ι κ ε) (e : HostEvent) :
    (s.told e).cache.stats.recomputations = s.cache.stats.recomputations ∧
      (s.told e).cache.stats.cacheHits = s.cache.stats.cacheHits ∧
      (s.told e).cache.stats.signals =
        s.cache.stats.signals + if e.meets s.cache.state then 1 else 0 := by
  rw [HostEvent.meets_eq]
  unfold told
  cases BridgeAction.ofEvent e with
  | signal id =>
    obtain ⟨hrecomputations, hhits, hsignals⟩ :=
      stats_at_once (g := Guests.idle) (r := .signal id) (s := s) rfl
    refine ⟨hrecomputations, hhits, ?_⟩
    have hmet : (Request.signal id : Request ι κ ε).meets s = true ↔ s.cache.state id ≠ .absent :=
      s.cache.signal_fst id
    simp only [hmet] at hsignals
    simp only [decide_eq_true_eq]
    exact hsignals
  | remove id => exact stats_at_once (g := Guests.idle) (r := .remove id) (s := s) rfl
  | ignore => exact ⟨rfl, rfl, rfl⟩

/-! ### Events one after the other -/

theorem lookup_foldl_told (es : List HostEvent) {id : SubjectId} {ticket : Nat}
    (h : (es.foldl told s).cache.tickets.lookup id = some ticket) :
    s.cache.tickets.lookup id = some ticket := by
  induction es generalizing s with
  | nil => exact h
  | cons e es ih => exact lookup_told s e (ih h)

theorem heap_length_foldl_told (es : List HostEvent) (s : System ι κ ε) :
    (es.foldl told s).cache.heap.length = s.cache.heap.length := by
  induction es generalizing s with
  | nil => rfl
  | cons e es ih => rw [List.foldl_cons, ih, heap_length_told]

theorem stats_foldl_told (hv : s.cache.Valid) (es : List HostEvent) :
    (es.foldl told s).cache.stats.recomputations = s.cache.stats.recomputations ∧
      (es.foldl told s).cache.stats.cacheHits = s.cache.stats.cacheHits ∧
      (es.foldl told s).cache.stats.signals =
        s.cache.stats.signals + signalsMet s.cache.state es := by
  induction es generalizing s with
  | nil => exact ⟨rfl, rfl, rfl⟩
  | cons e es ih =>
    -- the states that the later events find are those after the first one
    have hstates : (s.told e).cache.state = CacheState.allOnEvent s.cache.state e := by
      funext id
      rw [state_told hv, CacheState.after_eq_allOnEvent]
    obtain ⟨hrecomputations, hhits, hsignals⟩ := stats_told s e
    obtain ⟨hrecomputations', hhits', hsignals'⟩ := ih (valid_told hv e)
    rw [List.foldl_cons]
    refine ⟨hrecomputations'.trans hrecomputations, hhits'.trans hhits, ?_⟩
    rw [hsignals', hsignals, hstates, signalsMet, Nat.add_assoc]

/-! ### Aloof listeners and the bridge -/

variable {g : Guests ι κ ε} {depth number : Nat}

theorem told_bus (s : System ι κ ε) (e : HostEvent) : (s.told e).bus = s.bus := by
  unfold told
  cases BridgeAction.ofEvent e <;> rfl

theorem dispatch_append (answer : Answering ι κ ε) (e : HostEvent) (ls ls' : List (Listener κ))
    (s : System ι κ ε) : dispatch g answer number e (ls ++ ls') s =
      (dispatch g answer number e ls s).bind (dispatch g answer number e ls') := by
  induction ls generalizing s with
  | nil => rfl
  | cons l ls ih =>
    simp only [List.cons_append, dispatch]
    cases (g.handle l.body e).run answer (s.note (.notified number l.name)) .empty with
    | none => rfl
    | some p => exact ih p.2.1

/-- Aloof listeners touch neither cache nor bus, whether they fail or not. -/
theorem dispatch_aloof (depth number : Nat) (e : HostEvent) {ls : List (Listener κ)}
    (hls : ∀ l ∈ ls, g.Aloof l.body) (s : System ι κ ε) :
    ∃ s', dispatch g (answer g depth) number e ls s = some s' ∧
      s'.cache = s.cache ∧ s'.bus = s.bus := by
  induction ls generalizing s with
  | nil => exact ⟨s, rfl, rfl, rfl⟩
  | cons l ls ih =>
    have hrest : ∀ l' ∈ ls, g.Aloof l'.body := fun l' h => hls l' (List.mem_cons_of_mem _ h)
    obtain ⟨⟨ending, env', out⟩, halone⟩ := hls l (List.mem_cons_self ..) e s.env
    have hrun : (g.handle l.body e).run (answer g depth) (s.note (.notified number l.name)) .empty
        = some (ending, { s.note (.notified number l.name) with env := env' }, out) :=
      Routine.run_of_alone halone
    obtain ⟨s', hdispatch, hcache, hbus⟩ :=
      ih hrest { s.note (.notified number l.name) with env := env' }
    refine ⟨s', ?_, hcache, hbus⟩
    simp only [dispatch, hrun, hdispatch]

/-- Publishing on a bus with the bridge does to the cache what the bridge does, and leaves
    the listeners as they are. -/
theorem publish_bridged (hb : g.Bridged s.bus.listeners) (depth : Nat) (e : HostEvent) :
    ∃ s', publish g (answer g depth) e s = some s' ∧ s'.cache = (s.told e).cache ∧
      s'.bus.listeners = s.bus.listeners := by
  obtain ⟨before, bridge, after, hls, hbridge, haloof⟩ := hb
  have hbefore : ∀ l ∈ before, g.Aloof l.body := fun l h => haloof l (List.mem_append_left _ h)
  have hafter : ∀ l ∈ after, g.Aloof l.body := fun l h => haloof l (List.mem_append_right _ h)
  -- those before the bridge, the bridge, and those after it
  obtain ⟨s₁, hdispatch₁, hcache₁, hbus₁⟩ :=
    dispatch_aloof depth s.clock e hbefore (s.announce e)
  have hrun : (g.handle bridge.body e).run (answer g depth)
      (s₁.note (.notified s.clock bridge.name)) .empty =
        some (.finished, (s₁.note (.notified s.clock bridge.name)).told e, .empty) := by
    rw [hbridge, run_onEvent]
    rfl
  obtain ⟨s₂, hdispatch₂, hcache₂, hbus₂⟩ :=
    dispatch_aloof depth s.clock e hafter ((s₁.note (.notified s.clock bridge.name)).told e)
  have hdispatch : dispatch g (answer g depth) s.clock e (s.announce e).bus.listeners
      (s.announce e) = some s₂ := by
    show dispatch g (answer g depth) s.clock e s.bus.listeners (s.announce e) = some s₂
    rw [hls, dispatch_append, hdispatch₁]
    simp only [Option.bind_some, dispatch, hrun, hdispatch₂]
  refine ⟨s₂.conclude s.clock s.bus.number e, ?_, ?_, ?_⟩
  · simp only [publish, hdispatch]
  · have hsame : (s₁.note (.notified s.clock bridge.name)).cache = s.cache := hcache₁
    exact hcache₂.trans (told_cache_congr hsame e)
  · have hbus : s₂.bus = (s.announce e).bus := by
      rw [hbus₂, told_bus]
      exact hbus₁
    show s₂.bus.listeners = s.bus.listeners
    rw [hbus]
    rfl

/-- Events published one after the other are told to the cache one after the other. -/
theorem perform_bridged (hb : g.Bridged s.bus.listeners) (depth : Nat) (es : List HostEvent) :
    ∃ s', perform g (depth + 1) (es.map .publish) s = some s' ∧
      s'.cache = (es.foldl told s).cache := by
  induction es generalizing s with
  | nil => exact ⟨s, rfl, rfl⟩
  | cons e es ih =>
    obtain ⟨s₁, hpublish, hcache₁, hlisteners⟩ := publish_bridged hb depth e
    obtain ⟨s', hperform, hcache⟩ := ih (hlisteners.symm ▸ hb)
    refine ⟨s', ?_, ?_⟩
    · have hanswer : answer g (depth + 1) (.publish e) s = some ((), s₁) := by
        simp only [answer, hpublish, Option.map_some]
      simp only [List.map_cons, perform, hanswer, hperform]
    · rw [List.foldl_cons, hcache, foldl_told_cache_congr hcache₁]

/-- **Published events fold into states**: however many events are published on a bus with
    the bridge, each subject is in the state that the events about it lead to. No entry is
    made, nothing is computed, no query is answered, and each signal that meets an entry is
    counted. -/
theorem published_events_fold (hb : g.Bridged s.bus.listeners) (hv : s.cache.Valid)
    (depth : Nat) (es : List HostEvent) :
    ∃ s', perform g (depth + 1) (es.map .publish) s = some s' ∧
      (∀ id, s'.cache.state id =
        (es.filter (·.names id)).foldl CacheState.onEvent (s.cache.state id)) ∧
      (∀ id ticket, s'.cache.tickets.lookup id = some ticket →
        s.cache.tickets.lookup id = some ticket) ∧
      s'.cache.heap.length = s.cache.heap.length ∧
      s'.cache.stats.recomputations = s.cache.stats.recomputations ∧
      s'.cache.stats.cacheHits = s.cache.stats.cacheHits ∧
      s'.cache.stats.signals = s.cache.stats.signals + signalsMet s.cache.state es := by
  obtain ⟨s', hperform, hcache⟩ := perform_bridged hb depth es
  refine ⟨s', hperform, ?_⟩
  rw [hcache]
  refine ⟨?_, ?_, heap_length_foldl_told es s, stats_foldl_told hv es⟩
  · intro id
    rw [state_foldl_told hv, CacheState.foldl_after]
  · intro id ticket h
    exact lookup_foldl_told es h

/-- Guests without calculators. A listener is the bridge, or it fails at every event. -/
def bridgeOrFailing : Guests Unit Bool Unit where
  calculator _ := ⟨fun _ => .done, fun _ => none⟩
  handle isBridge e := if isBridge then Bridge.onEvent e .done else .panic

/-- A bus with a failing listener before the bridge, and two subjects with good sets. -/
def twoKept : System Unit Bool Unit where
  registry := .empty
  cache := ⟨[("a", 0), ("b", 1)], [⟨0, some ⟨0, .empty⟩⟩, ⟨0, some ⟨0, .empty⟩⟩], 2, 0, 0⟩
  bus := ((Bus.new 1).register .default "failing" false).register .last Bridge.name true
  env := ()
  clock := 2
  journal := []

/-- One of the two moves and the other leaves, and so does something else called as the
    first; the second is heard of once more. -/
def someEvents : List HostEvent :=
  let nether := ResourceKey.inDefaultSpace "the_nether"
  [.worldChanged (.subject "a") none nether .pre, .worldChanged (.subject "a") none nether .post,
    .subjectDisconnected (.other "a"), .subjectDisconnected (.subject "b"),
    .gameModeChanged (.subject "b") none nether]

theorem twoKept_bridged : bridgeOrFailing.Bridged twoKept.bus.listeners := by
  refine Guests.bridged_register (fun _ => rfl) ?_ .last Bridge.name
  intro l hl e env
  obtain rfl : l = ⟨.default, "failing", false⟩ := by
    simpa [Bus.register, Bus.insertListener, Bus.new] using hl
  exact ⟨_, rfl⟩

theorem twoKept_valid : twoKept.cache.Valid := by
  refine ⟨by decide, ?_, ?_⟩
  · intro id ticket h
    simp only [twoKept, List.mem_cons, Prod.mk.injEq, List.not_mem_nil, or_false] at h
    rcases h with ⟨-, rfl⟩ | ⟨-, rfl⟩ <;> decide
  · intro ticket k hk
    match ticket with
    | 0 | 1 =>
      obtain rfl := Option.some.inj hk
      exact Nat.le_refl 0
    | ticket + 2 => simp [twoKept, Cache.entryAt] at hk

theorem published_events_fold_twoKept :
    ∃ s', perform bridgeOrFailing 1 (someEvents.map .publish) twoKept = some s' ∧
      s'.cache.state "a" = .stale ∧ s'.cache.state "b" = .absent ∧
      s'.cache.stats.signals = 1 := by
  obtain ⟨s', hperform, hstate, -, -, -, -, hsignals⟩ :=
    published_events_fold twoKept_bridged twoKept_valid 0 someEvents
  exact ⟨s', hperform, (hstate "a").trans (by decide), (hstate "b").trans (by decide),
    hsignals.trans (by decide)⟩

end System

end PermissionContexts
