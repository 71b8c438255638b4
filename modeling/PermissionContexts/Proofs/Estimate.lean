import Mathlib.Data.Fintype.EquivFin
import PermissionContexts.Engine.Calculators
import PermissionContexts.Proofs.Sweep
import PermissionContexts.Proofs.Tour

/-! # Estimates

    Each of the stock calculators has two ways to its contexts: what it offers to one
    subject, and what it estimates for all of them from the catalogs of the host. Both
    are told here by membership, and compared.

    Main statement: `estimate_covers_queries`. With the three stock calculators, what is
    estimated is what the subjects can have that the host knows (`Host.Knows`).
-/

namespace PermissionContexts

variable {ι κ ε : Type}

/-! ### Subjects that the host knows -/

/-- The host lists what the subject has: its game mode and the dimension type of its world,
    and, unless the subject is in a world that no server hosts, the world itself. -/
structure Host.Knows (host : Host ε) (e : ε) (subject : Subject ε) : Prop where
  /-- A game mode is in the catalog. -/
  gameMode : ∀ m, subject.gameMode e = some m → m ∈ host.gameModes e
  /-- A dimension type is in the catalog. -/
  dimension : ∀ w, subject.location e = some w → w.dimensionType ∈ host.dimensionTypes e
  /-- A world is one of the running server. -/
  world : ∀ w, subject.location e = some w →
    w.kind = .client ∨ ∃ worlds, host.worlds e = some worlds ∧ w.key ∈ worlds

/-- A context comes from the name of a world of the running server. -/
def Host.NamesWorld (host : Host ε) (rewrites : ε → RewriteTable) (e : ε) (c : Context) : Prop :=
  ∃ worlds, host.worlds e = some worlds ∧ ∃ w ∈ worlds,
    ∃ value ∈ (rewrites e).rewrite w.contextName, Context.ofRaw worldKey value = .ok c

/-- To be in a world gives its dimension type, and its name if a server hosts it. -/
def WorldView.Gives (table : RewriteTable) (c : Context) (w : WorldView) : Prop :=
  Context.ofRaw dimensionTypeKey w.dimensionType.contextName = .ok c ∨
    w.kind = .server ∧ ∃ value ∈ table.rewrite w.key.contextName,
      Context.ofRaw worldKey value = .ok c

/-- What a subject has: what its world and its game mode give, and the static contexts. -/
def Subject.Has (rewrites : ε → RewriteTable) (statics : ContextSet) (e : ε) (c : Context)
    (subject : Subject ε) : Prop :=
  (∃ w, subject.location e = some w ∧ w.Gives (rewrites e) c) ∨
    (∃ m, subject.gameMode e = some m ∧ Context.ofRaw gameModeKey m.contextName = .ok c) ∨
    c ∈ statics.contexts

/-- What can be had with a host: what its dimension types, its worlds and its game modes
    give, and the static contexts. -/
def Host.Offers (host : Host ε) (rewrites : ε → RewriteTable) (statics : ContextSet) (e : ε)
    (c : Context) : Prop :=
  ((∃ d ∈ host.dimensionTypes e, Context.ofRaw dimensionTypeKey d.contextName = .ok c) ∨
      host.NamesWorld rewrites e c) ∨
    (∃ m ∈ host.gameModes e, Context.ofRaw gameModeKey m.contextName = .ok c) ∨
    c ∈ statics.contexts

section

variable {host : Host ε} {rewrites : ε → RewriteTable} {statics : ContextSet} {e : ε}
  {c : Context}

/-- What a subject has that the host knows can be had with the host. -/
theorem Host.Knows.offers {subject : Subject ε} (h : host.Knows e subject)
    (hc : subject.Has rewrites statics e c) : host.Offers rewrites statics e c := by
  rcases hc with ⟨w, hw, hdimension | ⟨hkind, hname⟩⟩ | ⟨m, hm, hmode⟩ | hstatic
  · exact Or.inl (Or.inl ⟨_, h.dimension w hw, hdimension⟩)
  · -- a world that a server hosts is one of the running server
    obtain hclient | ⟨worlds, hworlds, hlive⟩ := h.world w hw
    · simp [hkind] at hclient
    · exact Or.inl (Or.inr ⟨worlds, hworlds, _, hlive, hname⟩)
  · exact Or.inr (Or.inl ⟨m, h.gameMode m hm, hmode⟩)
  · exact Or.inr (Or.inr hstatic)

/-- What can be had with a host, some subject has that the host knows. -/
theorem Host.Offers.exists_known (h : host.Offers rewrites statics e c)
    (hdimensions : host.dimensionTypes e ≠ []) (id : SubjectId) :
    ∃ subject : Subject ε, subject.id = id ∧ host.Knows e subject ∧
      subject.Has rewrites statics e c := by
  rcases h with (⟨d, hd, hdimension⟩ | ⟨worlds, hworlds, w, hw, hname⟩) | ⟨m, hm, hmode⟩ | hstatic
  · refine ⟨⟨id, fun _ => some ⟨d, d, .client⟩, fun _ => none⟩, rfl, ⟨?_, ?_, ?_⟩,
      Or.inl ⟨_, rfl, Or.inl hdimension⟩⟩ <;> simp [hd]
  · -- the world may be of any dimension type
    obtain ⟨d, hd⟩ := List.exists_mem_of_ne_nil _ hdimensions
    refine ⟨⟨id, fun _ => some ⟨w, d, .server⟩, fun _ => none⟩, rfl, ⟨?_, ?_, ?_⟩,
      Or.inl ⟨_, rfl, Or.inr ⟨rfl, hname⟩⟩⟩ <;> simp [hd, hworlds, hw]
  · refine ⟨⟨id, fun _ => none, fun _ => some m⟩, rfl, ⟨?_, ?_, ?_⟩,
      Or.inr (Or.inl ⟨m, rfl, hmode⟩)⟩ <;> simp [hm]
  · refine ⟨⟨id, fun _ => none, fun _ => none⟩, rfl, ⟨?_, ?_, ?_⟩, Or.inr (Or.inr hstatic)⟩ <;>
      simp

end

/-! ### What a stock calculator offers -/

theorem Routine.alone_offers (ps : List (String × String)) (e : ε) (out : ContextSet) :
    (offers ps : Routine ι κ ε).alone e out =
      some (.finished, e, ps.foldl (fun s p => s.add p.1 p.2) out) := by
  induction ps generalizing out with
  | nil => rfl
  | cons p ps ih => simp only [offers, alone, List.foldl_cons, ih]

namespace Calculator

/-- A calculator that looks at the environment and nothing else offers a set, and comes to
    its end. -/
def Offers (calculator : Calculator ι κ ε) (subject : Subject ε) (e : ε) (out : ContextSet) :
    Prop :=
  (calculator.calculate subject).alone e .empty = some (.finished, e, out)

theorem Offers.offered_eq {g : Guests ι κ ε} {calculator : ι} {subject : Subject ε} {e : ε}
    {out : ContextSet} (h : (g.calculator calculator).Offers subject e out) :
    g.offered calculator subject e = out := by
  unfold Guests.offered
  rw [h]

theorem exists_offers_iff {calculator : Calculator ι κ ε} {subject : Subject ε} {e : ε}
    {Q : Context → Prop} {c : Context}
    (h : ∃ out, calculator.Offers subject e out ∧ ∀ c, c ∈ out.contexts ↔ Q c) :
    (∃ out, calculator.Offers subject e out ∧ c ∈ out.contexts) ↔ Q c := by
  obtain ⟨out, hout, hmem⟩ := h
  rw [← hmem]
  refine ⟨?_, fun hc => ⟨out, hout, hc⟩⟩
  rintro ⟨out', hout', hc⟩
  -- a routine on its own ends in one way only
  obtain rfl : out = out' := by simpa [Offers] using hout.symm.trans hout'
  exact hc

variable {host : Host ε} {rewrites : ε → RewriteTable} {statics : ContextSet} {e : ε}
  {subject : Subject ε} {c : Context}

theorem exists_worldOffers {table : RewriteTable} {w : WorldView} :
    (∃ p ∈ worldOffers table w, Context.ofRaw p.1 p.2 = .ok c) ↔ w.Gives table c := by
  unfold worldOffers WorldView.isServerHosted RewriteTable.offers WorldView.Gives
  by_cases hkind : w.kind = .server <;> simp [hkind]

/-- The world calculator offers what the world of the subject gives. -/
theorem world_offers : ∃ out,
    (world host rewrites : Calculator ι κ ε).Offers subject e out ∧
    ∀ c, c ∈ out.contexts ↔ ∃ w, subject.location e = some w ∧ w.Gives (rewrites e) c := by
  cases hlocation : subject.location e with
  | none =>
    refine ⟨.empty, ?_, by simp⟩
    simp only [Offers, world, Routine.alone, hlocation]
  | some w =>
    refine ⟨(worldOffers (rewrites e) w).foldl (fun s p => s.add p.1 p.2) .empty, ?_,
      fun c => ?_⟩
    · simp only [Offers, world, Routine.alone, hlocation]
      exact Routine.alone_offers _ e .empty
    · simp only [ContextSet.mem_foldl_add, exists_worldOffers, ContextSet.not_mem_empty, or_false,
        Option.some.injEq, exists_eq_left']

/-- The game mode calculator offers the game mode. -/
theorem gameMode_offers : ∃ out,
    (gameMode host : Calculator ι κ ε).Offers subject e out ∧
    ∀ c, c ∈ out.contexts ↔ ∃ m, subject.gameMode e = some m ∧
      Context.ofRaw gameModeKey m.contextName = .ok c := by
  cases hmode : subject.gameMode e with
  | none =>
    refine ⟨.empty, ?_, by simp⟩
    simp only [Offers, gameMode, Routine.alone, hmode]
  | some m =>
    refine ⟨ContextSet.empty.add gameModeKey m.contextName, ?_, fun c => ?_⟩
    · simp only [Offers, gameMode, Routine.alone, hmode]
    · simp only [ContextSet.mem_add, ContextSet.not_mem_empty, or_false, Option.some.injEq,
        exists_eq_left']

/-- The static calculator offers its contexts. -/
theorem static_offers : ∃ out,
    (static statics : Calculator ι κ ε).Offers subject e out ∧
    ∀ c, c ∈ out.contexts ↔ c ∈ statics.contexts := by
  refine ⟨ContextSet.empty.addAll statics, ?_, fun c => ?_⟩
  · simp only [Offers, static, Routine.alone]
  · simp only [ContextSet.mem_addAll, ContextSet.not_mem_empty, false_or]

/-- No key is offered without a value, -/
theorem filled_of_world {out : ContextSet}
    (h : (world host rewrites : Calculator ι κ ε).Offers subject e out) : out.Filled := by
  cases hlocation : subject.location e with
  | none =>
    obtain rfl : .empty = out := by simpa [Offers, world, Routine.alone, hlocation] using h
    exact ContextSet.filled_empty
  | some w =>
    obtain rfl : (worldOffers (rewrites e) w).foldl (fun s p => s.add p.1 p.2) .empty = out := by
      simpa [Offers, world, Routine.alone, hlocation, Routine.alone_offers] using h
    exact ContextSet.filled_empty.foldl_add _

theorem filled_of_gameMode {out : ContextSet}
    (h : (gameMode host : Calculator ι κ ε).Offers subject e out) : out.Filled := by
  cases hmode : subject.gameMode e with
  | none =>
    obtain rfl : .empty = out := by simpa [Offers, gameMode, Routine.alone, hmode] using h
    exact ContextSet.filled_empty
  | some m =>
    obtain rfl : ContextSet.empty.add gameModeKey m.contextName = out := by
      simpa [Offers, gameMode, Routine.alone, hmode] using h
    exact ContextSet.filled_empty.add _ _

/-- if no static context is. -/
theorem filled_of_static {out : ContextSet} (hstatics : statics.Filled)
    (h : (static statics : Calculator ι κ ε).Offers subject e out) : out.Filled := by
  obtain rfl : ContextSet.empty.addAll statics = out := by
    simpa [Offers, static, Routine.alone] using h
  exact ContextSet.filled_empty.addAll hstatics

/-! ### What a stock calculator estimates -/

theorem mem_addName (key : String) (s : ContextSet) (k : ResourceKey) :
    c ∈ (s.add key k.contextName).contexts ↔
      c ∈ s.contexts ∨ Context.ofRaw key k.contextName = .ok c := by
  rw [ContextSet.mem_add, or_comm]

theorem mem_submitName (table : RewriteTable) (key : String) (s : ContextSet) (k : ResourceKey) :
    c ∈ (table.submit key k.contextName s).contexts ↔ c ∈ s.contexts ∨
      ∃ value ∈ table.rewrite k.contextName, Context.ofRaw key value = .ok c := by
  unfold RewriteTable.submit RewriteTable.offers
  rw [ContextSet.mem_foldl_add, or_comm]
  simp only [List.mem_map, exists_exists_and_eq_and]

/-- The world calculator estimates the dimension types of the catalog, and the names of the
    worlds if a server is running. -/
theorem world_estimate :
    (∃ set, (world host rewrites : Calculator ι κ ε).estimate e = some set ∧ c ∈ set.contexts) ↔
      (∃ d ∈ host.dimensionTypes e, Context.ofRaw dimensionTypeKey d.contextName = .ok c) ∨
        host.NamesWorld rewrites e c := by
  have hdimensions := ContextSet.mem_foldl (mem_addName dimensionTypeKey (c := c))
    (host.dimensionTypes e) .empty
  cases hworlds : host.worlds e with
  | none =>
    simp only [world, hworlds, Option.some.injEq, exists_eq_left', hdimensions]
    simp [Host.NamesWorld, hworlds]
  | some worlds =>
    simp only [world, hworlds, Option.some.injEq, exists_eq_left',
      ContextSet.mem_foldl (mem_submitName (rewrites e) worldKey), hdimensions]
    simp [Host.NamesWorld, hworlds]

/-- The game mode calculator estimates the game modes of the catalog. -/
theorem gameMode_estimate :
    (∃ set, (gameMode host : Calculator ι κ ε).estimate e = some set ∧ c ∈ set.contexts) ↔
      ∃ m ∈ host.gameModes e, Context.ofRaw gameModeKey m.contextName = .ok c := by
  simp only [gameMode, Option.some.injEq, exists_eq_left',
    ContextSet.mem_foldl (mem_addName gameModeKey), ContextSet.not_mem_empty, false_or]

theorem static_estimate :
    (∃ set, (static statics : Calculator ι κ ε).estimate e = some set ∧ c ∈ set.contexts) ↔
      c ∈ statics.contexts := by
  simp only [static, Option.some.injEq, exists_eq_left']

end Calculator

namespace System

variable {g : Guests ι κ ε} {s s₁ : System ι κ ε} {subject : Subject ε} {f : Flight}
  {c : Context}

/-! ### Calculators that look at the environment only -/

/-- Calculators that only look at the environment do not depend on each other. -/
theorem independent_of_offers {entries : List (String × ι)} {e : ε} (depth : Nat)
    (h : ∀ c ∈ entries, ∃ out, (g.calculator c.2).Offers subject e out) :
    Independent g (answer g depth) subject entries (fun s => s.env = e) (fun _ => .finished)
      fun i => g.offered i subject e := by
  refine ⟨fun _ _ _ hs => hs, ?_⟩
  rintro i hi s rfl
  obtain ⟨out, hout⟩ := h i hi
  have hrun : ((g.calculator i.2).calculate subject).run (answer g depth) s .empty =
      some (.finished, s, out) := Routine.run_of_alone hout
  obtain ⟨os, hends, hfold⟩ := Routine.ends_of_run hrun
  exact ⟨os, s, hends, rfl, hfold.symm.trans hout.offered_eq.symm⟩

/-- What such calculators are asked for is told by what each of them offers. -/
theorem query_of_offers {e : ε} (depth : Nat) (hstate : s.cache.state subject.id ≠ .fresh)
    (henv : s.env = e)
    (h : ∀ c ∈ s.registry.entries, ∃ out, (g.calculator c.2).Offers subject e out) :
    ∃ contexts s', query g (answer g depth) subject s = some (contexts, s') ∧ contexts.Sorted ∧
      ((∀ c ∈ s.registry.entries, ∀ out, (g.calculator c.2).Offers subject e out → out.Filled) →
        contexts.Filled) ∧
      ∀ x, x ∈ contexts.contexts ↔ ∃ c ∈ s.registry.entries, ∃ out,
        (g.calculator c.2).Offers subject e out ∧ x ∈ out.contexts := by
  -- nothing good is kept, so a sweep is due, and it begins in the same environment
  obtain ⟨f, s₁, harrive⟩ := exists_due hstate
  have henv₁ : s₁.env = e := by
    obtain ⟨-, -, rfl⟩ := arrive_due harrive
    exact henv
  obtain ⟨s', hquery⟩ := (independent_of_offers depth h).query harrive henv₁ fun _ he => he
  refine ⟨_, s', hquery, sorted_joined _, ?_, ?_⟩
  · intro hfilled
    apply filled_joined
    intro c hc
    obtain ⟨out, hout⟩ := h c hc
    rw [hout.offered_eq]
    exact hfilled c hc out hout
  · intro x
    rw [mem_joined]
    simp only [true_and]
    apply exists_congr
    intro c
    apply and_congr_right
    intro hc
    obtain ⟨out, hout⟩ := h c hc
    rw [hout.offered_eq, Calculator.exists_offers_iff ⟨out, hout, fun _ => Iff.rfl⟩]

theorem mem_estimate : c ∈ (s.estimate g).contexts ↔ ∃ e ∈ s.registry.entries, ∃ set,
    (g.calculator e.2).estimate s.env = some set ∧ c ∈ set.contexts := by
  unfold estimate Registry.snapshot
  rw [ContextSet.mem_foldl (P := fun e => ∃ set,
    (g.calculator e.2).estimate s.env = some set ∧ c ∈ set.contexts)]
  · simp only [ContextSet.not_mem_empty, false_or]
  · intro all e
    cases (g.calculator e.2).estimate s.env with
    | none => simp
    | some contexts => simp [ContextSet.mem_addAll]

/-! ### The three stock calculators -/

/-- The three stock calculators are registered and no others, under any names and in any
    order. -/
def Stocked (g : Guests ι κ ε) (host : Host ε) (rewrites : ε → RewriteTable)
    (statics : ContextSet) (s : System ι κ ε) : Prop :=
  ∀ calculator, (∃ e ∈ s.registry.entries, g.calculator e.2 = calculator) ↔
    calculator = .world host rewrites ∨ calculator = .gameMode host ∨
      calculator = .static statics

variable {host : Host ε} {rewrites : ε → RewriteTable} {statics : ContextSet}

theorem Stocked.exists_iff (h : Stocked g host rewrites statics s)
    {P : Calculator ι κ ε → Prop} : (∃ e ∈ s.registry.entries, P (g.calculator e.2)) ↔
      P (.world host rewrites) ∨ P (.gameMode host) ∨ P (.static statics) := by
  refine ⟨?_, ?_⟩
  · rintro ⟨e, he, hP⟩
    rcases (h _).mp ⟨e, he, rfl⟩ with heq | heq | heq <;> rw [heq] at hP
    · exact Or.inl hP
    · exact Or.inr (Or.inl hP)
    · exact Or.inr (Or.inr hP)
  · have hregistered : ∀ calculator, (∃ e ∈ s.registry.entries, g.calculator e.2 = calculator) →
        P calculator → ∃ e ∈ s.registry.entries, P (g.calculator e.2) := by
      rintro _ ⟨e, he, rfl⟩ hP
      exact ⟨e, he, hP⟩
    rintro (hP | hP | hP)
    · exact hregistered _ ((h _).mpr (Or.inl rfl)) hP
    · exact hregistered _ ((h _).mpr (Or.inr (Or.inl rfl))) hP
    · exact hregistered _ ((h _).mpr (Or.inr (Or.inr rfl))) hP

/-- What is estimated is what can be had with the host. -/
theorem Stocked.mem_estimate (h : Stocked g host rewrites statics s) :
    c ∈ (s.estimate g).contexts ↔ host.Offers rewrites statics s.env c := by
  rw [System.mem_estimate, h.exists_iff (P := fun calculator => ∃ set,
    calculator.estimate s.env = some set ∧ c ∈ set.contexts), Calculator.world_estimate,
    Calculator.gameMode_estimate, Calculator.static_estimate]
  rfl

/-- A subject of which nothing good is kept is answered with what it has. -/
theorem Stocked.query (h : Stocked g host rewrites statics s) (depth : Nat)
    (hstate : s.cache.state subject.id ≠ .fresh) :
    ∃ contexts s', query g (answer g depth) subject s = some (contexts, s') ∧
      ∀ c, c ∈ contexts.contexts ↔ subject.Has rewrites statics s.env c := by
  have hoffers : ∀ e ∈ s.registry.entries,
      ∃ out, (g.calculator e.2).Offers subject s.env out := by
    intro e he
    rcases (h _).mp ⟨e, he, rfl⟩ with heq | heq | heq <;> rw [heq]
    · exact Calculator.world_offers.imp fun _ h => h.1
    · exact Calculator.gameMode_offers.imp fun _ h => h.1
    · exact Calculator.static_offers.imp fun _ h => h.1
  obtain ⟨contexts, s', hquery, -, -, hmem⟩ := query_of_offers depth hstate rfl hoffers
  refine ⟨contexts, s', hquery, fun c => ?_⟩
  rw [hmem, h.exists_iff (P := fun calculator => ∃ out,
    calculator.Offers subject s.env out ∧ c ∈ out.contexts),
    Calculator.exists_offers_iff Calculator.world_offers,
    Calculator.exists_offers_iff Calculator.gameMode_offers,
    Calculator.exists_offers_iff Calculator.static_offers]
  rfl

/-! ### Estimates and queries -/

/-- Somebody was never asked for. -/
theorem exists_absent (s : System ι κ ε) : ∃ id, s.cache.state id ≠ .fresh := by
  obtain ⟨id, hid⟩ := Infinite.exists_notMem_finset s.cache.tickets.keys.toFinset
  refine ⟨id, ?_⟩
  have hnone : s.cache.tickets.lookup id = none := by
    refine Option.eq_none_iff_forall_ne_some.mpr fun ticket hlookup => hid ?_
    exact List.mem_toFinset.mpr (List.mem_map_of_mem (Keyed.mem_of_lookup hlookup))
  rw [Cache.state_eq_absent.mpr hnone]
  simp

/-- **Estimates cover queries.** With the stock calculators and any host, rewrite table and
    static contexts,

    1. a subject that the host knows and of which nothing good is kept is answered with
       contexts that are estimated,
    2. unless there are no dimension types, every context that is estimated is in such an
       answer, and
    3. without a server, what is estimated lacks only the names of its worlds. -/
theorem estimate_covers_queries (h : Stocked g host rewrites statics s) (depth : Nat) :
    (∀ subject, host.Knows s.env subject → s.cache.state subject.id ≠ .fresh →
      ∃ contexts s', query g (answer g depth) subject s = some (contexts, s') ∧
        ∀ c ∈ contexts.contexts, c ∈ (s.estimate g).contexts) ∧
    (host.dimensionTypes s.env ≠ [] → ∀ c ∈ (s.estimate g).contexts,
      ∃ subject contexts s', host.Knows s.env subject ∧ s.cache.state subject.id ≠ .fresh ∧
        query g (answer g depth) subject s = some (contexts, s') ∧ c ∈ contexts.contexts) ∧
    ∀ e, host.worlds e = none → host.gameModes e = host.gameModes s.env →
      host.dimensionTypes e = host.dimensionTypes s.env →
      ∀ c, c ∈ (s.estimate g).contexts ↔
        c ∈ ({ s with env := e }.estimate g).contexts ∨ host.NamesWorld rewrites s.env c := by
  refine ⟨?_, ?_, ?_⟩
  · intro subject hknows hstate
    obtain ⟨contexts, s', hquery, hmem⟩ := h.query depth hstate
    exact ⟨contexts, s', hquery, fun c hc => h.mem_estimate.mpr (hknows.offers ((hmem c).mp hc))⟩
  · intro hdimensions c hc
    obtain ⟨id, hid⟩ := exists_absent s
    obtain ⟨subject, rfl, hknows, hhas⟩ := (h.mem_estimate.mp hc).exists_known hdimensions id
    obtain ⟨contexts, s', hquery, hmem⟩ := h.query depth hid
    exact ⟨subject, contexts, s', hknows, hid, hquery, (hmem c).mpr hhas⟩
  · intro e hworlds hmodes hdimensions c
    have h' : Stocked g host rewrites statics { s with env := e } := h
    rw [h.mem_estimate, h'.mem_estimate]
    -- without a server no world has a name
    have hnone : ¬ host.NamesWorld rewrites e c := by
      rintro ⟨worlds, hsome, _⟩
      simp [hworlds] at hsome
    unfold Host.Offers
    simp only [hmodes, hdimensions, hnone, or_false]
    rw [or_right_comm]

end System

/-! ### A host with an arena -/

/-- Names for the three stock calculators. -/
inductive Stock where
  /-- The world calculator. -/
  | world
  /-- The game mode calculator. -/
  | gameMode
  /-- The static calculator. -/
  | static

namespace Stock

/-- The stock calculators as guests. -/
def guests (host : Host ε) (rewrites : ε → RewriteTable) (statics : ContextSet) :
    Guests Stock Unit ε where
  calculator
    | .world => .world host rewrites
    | .gameMode => .gameMode host
    | .static => .static statics
  handle _ _ := .done

/-- A system with the stock calculators. -/
def system (e : ε) : System Stock Unit ε :=
  ⟨⟨[("world", .world), ("gamemode", .gameMode), ("static", .static)]⟩, .empty, .new 1, e, 0, []⟩

theorem stocked (host : Host ε) (rewrites : ε → RewriteTable) (statics : ContextSet) (e : ε) :
    System.Stocked (guests host rewrites statics) host rewrites statics (system e) := by
  intro calculator
  simp [system, guests, eq_comm]

/-- A host whose server, if it is running, has one world. -/
def arenaHost : Host Bool where
  gameModes _ := [.inDefaultSpace "creative"]
  dimensionTypes _ := [.inDefaultSpace "overworld"]
  worlds running := if running then some [.inDefaultSpace "arena"] else none

/-- Somebody in that world. -/
def arenaSubject : Subject Bool where
  id := "a"
  location _ := some ⟨.inDefaultSpace "arena", .inDefaultSpace "overworld", .server⟩
  gameMode _ := some (.inDefaultSpace "creative")

/-- What somebody in the arena is answered is estimated, and so is the static context, which
    somebody is answered. -/
theorem estimate_covers_arena :
    let g := guests arenaHost (fun _ => .empty) ⟨[("server", ["east"])]⟩
    (∃ contexts s', System.query g (System.answer g 0) arenaSubject (system true) =
      some (contexts, s') ∧ ∀ c ∈ contexts.contexts, c ∈ ((system true).estimate g).contexts) ∧
    (∃ subject contexts s', System.query g (System.answer g 0) subject (system true) =
      some (contexts, s') ∧ ⟨"server", "east"⟩ ∈ contexts.contexts) ∧
    ⟨"server", "east"⟩ ∈ ((system false).estimate g).contexts := by
  intro g
  have hstocked := stocked arenaHost (fun _ => .empty) ⟨[("server", ["east"])]⟩ true
  obtain ⟨hqueries, hconverse, hserver⟩ := System.estimate_covers_queries hstocked 0
  have heast : ⟨"server", "east"⟩ ∈ ((system true).estimate g).contexts :=
    hstocked.mem_estimate.mpr (Or.inr (Or.inr (List.mem_singleton_self _)))
  refine ⟨hqueries arenaSubject ⟨?_, ?_, ?_⟩ ?_, ?_, ?_⟩
  · simp [arenaSubject, arenaHost, system]
  · simp [arenaSubject, arenaHost, system]
  · simp [arenaSubject, arenaHost, system]
  · decide
  · obtain ⟨subject, contexts, s', _, _, hquery, hmem⟩ := hconverse (by simp [arenaHost]) _ heast
    exact ⟨subject, contexts, s', hquery, hmem⟩
  · have hworld : ¬ arenaHost.NamesWorld (fun _ => .empty) true ⟨"server", "east"⟩ := by
      rintro ⟨_, _, _, _, value, _, hvalue⟩
      have hkey : "server" = normalForm worldKey :=
        congrArg Context.key (Context.ofRaw_eq_ok.mp hvalue).2.2
      exact absurd hkey (by decide +kernel)
    exact ((hserver false rfl rfl rfl _).mp heast).resolve_right hworld

end Stock

end PermissionContexts
