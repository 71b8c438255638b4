import PermissionContexts.Proofs.ContextOrder
import PermissionContexts.Proofs.Journal

/-! # What a sweep computes

    A sweep visits calculators one after the other, and each of them may change the system
    before the next is visited. A **tour** (`System.Tour`) says of such a walk what was
    visited, what was offered on each visit and how the visit ended.

    Main statement: `query_visits_snapshot`. A query that is not answered at once visits the
    calculators that were registered when it came in, each once and in their order, and its
    answer holds what was offered on the visits that came to their end. Where calculators do
    not depend on each other (`Independent`), neither their order nor the presence of those
    that fail makes a difference.
-/

namespace PermissionContexts

variable {ι κ ε : Type}

/-! ### Offers -/

/-- What a routine offers at one time. -/
inductive Offer where
  /-- A raw pair. -/
  | pair (key value : String)
  /-- A whole set. -/
  | all (contexts : ContextSet)

namespace Offer

variable {out : ContextSet} {c : Context}

/-- An offer gives a context if it is the normal form of the pair, and valid, or in the set. -/
def Gives (c : Context) : Offer → Prop
  | .pair key value => Context.ofRaw key value = .ok c
  | .all contexts => c ∈ contexts.contexts

/-- The set that offers are put into, after one more of them. -/
def into (out : ContextSet) : Offer → ContextSet
  | .pair key value => out.add key value
  | .all contexts => out.addAll contexts

@[simp] theorem into_pair (key value : String) : into out (.pair key value) = out.add key value :=
  rfl

@[simp] theorem into_all (contexts : ContextSet) : into out (.all contexts) = out.addAll contexts :=
  rfl

theorem mem_into (out : ContextSet) (o : Offer) :
    c ∈ (into out o).contexts ↔ c ∈ out.contexts ∨ o.Gives c := by
  cases o with
  | pair key value =>
    rw [into_pair, ContextSet.mem_add, or_comm]
    rfl
  | all contexts =>
    rw [into_all, ContextSet.mem_addAll]
    rfl

theorem mem_foldl_into (os : List Offer) :
    c ∈ (os.foldl into out).contexts ↔ c ∈ out.contexts ∨ ∃ o ∈ os, o.Gives c :=
  ContextSet.mem_foldl mem_into os out

end Offer

/-! ### Routines that end -/

/-- A routine that begins on `s` offers `os`, leaves the system as `s'` and ends. -/
inductive Routine.Ends (answer : Answering ι κ ε) :
    Routine ι κ ε → System ι κ ε → List Offer → Ending → System ι κ ε → Prop
  | done (s) : Ends answer .done s [] .finished s
  | panic (s) : Ends answer .panic s [] .panicked s
  | offer {key value next s os e s'} (h : Ends answer next s os e s') :
    Ends answer (.offer key value next) s (.pair key value :: os) e s'
  | offerAll {contexts next s os e s'} (h : Ends answer next s os e s') :
    Ends answer (.offerAll contexts next) s (.all contexts :: os) e s'
  | ask {r next s a s₁ os e s'} (ha : answer r s = some (a, s₁))
    (h : Ends answer (next a) s₁ os e s') : Ends answer (.ask r next) s os e s'

namespace Routine

variable {answer : Answering ι κ ε} {r : Routine ι κ ε} {s s' s₁ s₂ : System ι κ ε}
  {os os₁ os₂ : List Offer} {e e₁ e₂ : Ending} {out out' : ContextSet}

theorem run_of_ends (h : r.Ends answer s os e s') (out : ContextSet) :
    r.run answer s out = some (e, s', os.foldl Offer.into out) := by
  induction h generalizing out with
  | done s => rfl
  | panic s => rfl
  | offer h ih => simp only [run, ih, List.foldl_cons, Offer.into_pair]
  | offerAll h ih => simp only [run, ih, List.foldl_cons, Offer.into_all]
  | ask ha h ih => simp only [run, ha, ih]

theorem ends_of_run (h : r.run answer s out = some (e, s', out')) :
    ∃ os, r.Ends answer s os e s' ∧ out' = os.foldl Offer.into out := by
  induction r generalizing s out with
  | done =>
    simp only [run, Option.some.injEq, Prod.mk.injEq] at h
    obtain ⟨rfl, rfl, rfl⟩ := h
    exact ⟨[], .done s, rfl⟩
  | panic =>
    simp only [run, Option.some.injEq, Prod.mk.injEq] at h
    obtain ⟨rfl, rfl, rfl⟩ := h
    exact ⟨[], .panic s, rfl⟩
  | offer key value next ih =>
    obtain ⟨os, hends, hout⟩ := ih h
    exact ⟨.pair key value :: os, .offer hends, by rw [List.foldl_cons, Offer.into_pair, hout]⟩
  | offerAll contexts next ih =>
    obtain ⟨os, hends, hout⟩ := ih h
    exact ⟨.all contexts :: os, .offerAll hends, by rw [List.foldl_cons, Offer.into_all, hout]⟩
  | ask r next ih =>
    simp only [run] at h
    cases ha : answer r s with
    | none => simp [ha] at h
    | some p =>
      obtain ⟨a, s₁⟩ := p
      simp only [ha] at h
      obtain ⟨os, hends, hout⟩ := ih a h
      exact ⟨os, .ask ha hends, hout⟩

/-- A routine ends in one way only. -/
theorem Ends.unique (h₁ : r.Ends answer s os₁ e₁ s₁) (h₂ : r.Ends answer s os₂ e₂ s₂) :
    os₁ = os₂ ∧ e₁ = e₂ ∧ s₁ = s₂ := by
  induction h₁ generalizing os₂ with
  | done s =>
    cases h₂
    exact ⟨rfl, rfl, rfl⟩
  | panic s =>
    cases h₂
    exact ⟨rfl, rfl, rfl⟩
  | offer h ih =>
    cases h₂ with
    | offer h₂ =>
      obtain ⟨rfl, hrest⟩ := ih h₂
      exact ⟨rfl, hrest⟩
  | offerAll h ih =>
    cases h₂ with
    | offerAll h₂ =>
      obtain ⟨rfl, hrest⟩ := ih h₂
      exact ⟨rfl, hrest⟩
  | ask ha h ih =>
    cases h₂ with
    | ask ha₂ h₂ =>
      rw [ha] at ha₂
      obtain ⟨rfl, rfl⟩ := Prod.mk.inj (Option.some.inj ha₂)
      exact ih h₂

end Routine

/-! ### Visits -/

/-- The turn of a calculator in a sweep. -/
structure Visit (ι : Type) where
  /-- The name it is registered under. -/
  name : String
  /-- The calculator. -/
  calculator : ι
  /-- What it offered, in order. -/
  offers : List Offer
  /-- How it ended. -/
  ending : Ending

namespace Visit

/-- What was visited, as it stands in a registry. -/
def entry (v : Visit ι) : String × ι :=
  (v.name, v.calculator)

/-- What a sweep has merged after one more visit. -/
def collect (merged : ContextSet) (v : Visit ι) : ContextSet :=
  v.ending.keep merged (v.offers.foldl Offer.into .empty)

theorem mem_collect {c : Context} (merged : ContextSet) (v : Visit ι) :
    c ∈ (collect merged v).contexts ↔
      c ∈ merged.contexts ∨ (v.ending = .finished ∧ ∃ o ∈ v.offers, o.Gives c) := by
  unfold collect
  cases v.ending with
  | finished => simp [Ending.keep, ContextSet.mem_merge, Offer.mem_foldl_into]
  | panicked => simp [Ending.keep]

theorem mem_foldl_collect {merged : ContextSet} {vs : List (Visit ι)} {c : Context} :
    c ∈ (vs.foldl collect merged).contexts ↔ c ∈ merged.contexts ∨
      ∃ v ∈ vs, v.ending = .finished ∧ ∃ o ∈ v.offers, o.Gives c :=
  ContextSet.mem_foldl mem_collect vs merged

end Visit

/-! ### What is written down of visits -/

/-- The calculator that was called in the sweep with the given number. -/
def Happening.consulted? (number : Nat) : Happening → Option String
  | .consulted sweep name => if sweep = number then some name else none
  | _ => none

/-- The calculators that were called in the sweep with the given number, in order. -/
def consultations (number : Nat) (journal : List Happening) : List String :=
  (journal.filterMap (·.consulted? number)).reverse

theorem consultations_append (number : Nat) (late early : List Happening) :
    consultations number (late ++ early) =
      consultations number early ++ consultations number late := by
  simp [consultations]

theorem consultations_eq_nil {number : Nat} {journal : List Happening}
    (h : ∀ x ∈ journal, x.consulted? number = none) : consultations number journal = [] := by
  simpa [consultations] using h

namespace System

/-! ### Tours -/

/-- The sweep with the given number makes the visits one after the other. Each one finds
    the system as the one before it has left it. -/
inductive Tour (g : Guests ι κ ε) (answer : Answering ι κ ε) (number : Nat)
    (subject : Subject ε) : System ι κ ε → List (Visit ι) → System ι κ ε → Prop
  | nil (s) : Tour g answer number subject s [] s
  | cons {s v s₁ vs s'}
    (h : ((g.calculator v.calculator).calculate subject).Ends answer
      (s.note (.consulted number v.name)) v.offers v.ending s₁)
    (hrest : Tour g answer number subject s₁ vs s') : Tour g answer number subject s (v :: vs) s'

variable {g : Guests ι κ ε} {answer : Answering ι κ ε} {number : Nat} {subject : Subject ε}
  {s s' s₁ s₂ : System ι κ ε} {f : Flight} {contexts merged : ContextSet}

theorem sweep_of_tour {vs : List (Visit ι)} (h : Tour g answer number subject s vs s')
    (merged : ContextSet) :
    sweep g answer number subject (vs.map Visit.entry) s merged =
      some (s', vs.foldl Visit.collect merged) := by
  induction h generalizing merged with
  | nil s => rfl
  | cons h _ ih =>
    simp only [List.map_cons, sweep, Visit.entry, Routine.run_of_ends h]
    exact ih _

theorem tour_of_sweep {cs : List (String × ι)}
    (h : sweep g answer number subject cs s merged = some (s', contexts)) :
    ∃ vs, Tour g answer number subject s vs s' ∧ vs.map Visit.entry = cs ∧
      contexts = vs.foldl Visit.collect merged := by
  induction cs generalizing s merged with
  | nil =>
    simp only [sweep, Option.some.injEq, Prod.mk.injEq] at h
    obtain ⟨rfl, rfl⟩ := h
    exact ⟨[], .nil s, rfl, rfl⟩
  | cons c cs ih =>
    simp only [sweep] at h
    split at h
    · next e s₁ offered hc =>
      obtain ⟨os, hends, rfl⟩ := Routine.ends_of_run hc
      obtain ⟨vs, htour, rfl, rfl⟩ := ih h
      exact ⟨⟨c.1, c.2, os, e⟩ :: vs, .cons hends htour, rfl, rfl⟩
    · simp at h

/-- A sweep is a tour of the calculators that it is given. -/
theorem query_eq_some_iff (harrive : s.arrive subject.id = (.due f, s₁)) :
    query g answer subject s = some (contexts, s') ↔
      ∃ vs s₂, Tour g answer f.number subject s₁ vs s₂ ∧
        vs.map Visit.entry = s₁.registry.snapshot ∧ contexts = vs.foldl Visit.collect .empty ∧
        s' = s₂.land f contexts := by
  refine ⟨?_, ?_⟩
  · intro hquery
    simp only [query, harrive] at hquery
    split at hquery
    · next s₂ swept hsweep =>
      obtain ⟨rfl, rfl⟩ := Prod.mk.inj (Option.some.inj hquery)
      obtain ⟨vs, htour, hvisited, hcontexts⟩ := tour_of_sweep hsweep
      exact ⟨vs, s₂, htour, hvisited, hcontexts, rfl⟩
    · simp at hquery
  · rintro ⟨vs, s₂, htour, hvisited, rfl, rfl⟩
    refine query_of_due harrive ?_
    rw [← hvisited]
    exact sweep_of_tour htour .empty

/-- A sweep begins with the registry that its query met, and would with any other. -/
theorem arrive_registry (harrive : s.arrive subject.id = (.due f, s₁)) :
    s₁.registry = s.registry ∧ ∀ registry : Registry ι,
      { s with registry := registry }.arrive subject.id =
        (.due f, { s₁ with registry := registry }) := by
  obtain ⟨hnone, rfl, rfl⟩ := arrive_due harrive
  refine ⟨rfl, fun registry => ?_⟩
  rcases arrive_cases { s with registry := registry } subject.id with ⟨kept, hk, _⟩ | ⟨_, hdue⟩
  · exact absurd hk (hnone kept)
  · exact hdue

/-! ### Tours in the journal -/

/-- Happenings of later sweeps only. -/
theorem Since.consulted (h : Since (number + 1) s s') :
    ∃ noted, s'.journal = noted ++ s.journal ∧ consultations number noted = [] := by
  obtain ⟨noted, hj, hn⟩ := h.noted
  refine ⟨noted, hj, consultations_eq_nil fun x hx => ?_⟩
  cases x with
  | consulted sweep name =>
    have hlt : number < sweep := hn _ hx sweep rfl
    exact if_neg (Nat.ne_of_gt hlt)
  | _ => rfl

/-- Of a sweep that has begun, the journal tells the calculators that are visited, and none
    that are called in the sweeps inside it. -/
theorem Tour.consulted (hanswer : Orderly answer) {vs : List (Visit ι)}
    (h : Tour g answer number subject s vs s') (hn : number < s.clock) :
    ∃ noted, s'.journal = noted ++ s.journal ∧
      consultations number noted = vs.map Visit.name := by
  induction h with
  | nil s => exact ⟨[], rfl, rfl⟩
  | @cons s v s₁ vs s' hends _ ih =>
    -- what the calculator causes belongs to sweeps that began later, with higher numbers
    have hsince : Since (number + 1) (s.note (.consulted number v.name)) s₁ :=
      since_run hanswer (Routine.run_of_ends hends .empty) hn
    obtain ⟨inside, hinside, hnone⟩ := hsince.consulted
    obtain ⟨rest, hrest, hvisited⟩ := ih (Nat.lt_of_lt_of_le hn hsince.clock)
    refine ⟨rest ++ inside ++ [.consulted number v.name], ?_, ?_⟩
    · rw [hrest, hinside]
      simp [note]
    · rw [consultations_append, consultations_append, hnone, hvisited]
      simp [consultations, Happening.consulted?]

/-- Of a query that made a tour, the journal tells what was visited. -/
theorem Tour.consulted_of_query (hanswer : Orderly answer) {vs : List (Visit ι)}
    (harrive : s.arrive subject.id = (.due f, s₁))
    (h : Tour g answer f.number subject s₁ vs s₂) (contexts : ContextSet) :
    ∃ noted, (s₂.land f contexts).journal = noted ++ s.journal ∧
      consultations f.number noted = vs.map Visit.name := by
  obtain ⟨-, hf, hs₁⟩ := arrive_due harrive
  -- the sweep has taken its number from the clock, which went on
  have hnumber : f.number < s₁.clock := by
    rw [hs₁, hf]
    exact Nat.lt_succ_self _
  obtain ⟨noted, hj, hvisited⟩ := h.consulted hanswer hnumber
  refine ⟨.sweepEnded f.number contexts :: (noted ++
    [.sweepBegan f.number subject.id f.ticket f.generation, .asked subject.id f.ticket]), ?_, ?_⟩
  · show _ :: s₂.journal = _
    rw [hj, hs₁]
    simp
  · rw [← hvisited]
    simp [consultations, Happening.consulted?]

/-! ### Calculators that do not depend on each other -/

/-- The calculators of `entries` do not depend on each other: in all systems that are `calm`,
    and they leave them so, each of them ends alike and what it offers makes the same set. -/
structure Independent (g : Guests ι κ ε) (answer : Answering ι κ ε) (subject : Subject ε)
    (entries : List (String × ι)) (calm : System ι κ ε → Prop) (ending : ι → Ending)
    (gives : ι → ContextSet) : Prop where
  /-- To call a calculator does not disturb the system. -/
  called : ∀ s number name, calm s → calm (s.note (.consulted number name))
  /-- Nor does the calculator, and it does what it always does. -/
  alike : ∀ c ∈ entries, ∀ s, calm s → ∃ os s',
    ((g.calculator c.2).calculate subject).Ends answer s os (ending c.2) s' ∧ calm s' ∧
      os.foldl Offer.into .empty = gives c.2

variable {entries cs : List (String × ι)} {calm : System ι κ ε → Prop} {ending : ι → Ending}
  {gives : ι → ContextSet}

/-- The sets that calculators give, merged in order, without those that fail. -/
def joined (ending : ι → Ending) (gives : ι → ContextSet) (entries : List (String × ι)) :
    ContextSet :=
  entries.foldl (fun all e => (ending e.2).keep all (gives e.2)) .empty

/-- What merging adds up is in the joined set if a calculator that comes to its end gives it. -/
theorem joined_iff {Q : ContextSet → Prop} (hmerge : ∀ s t, Q (s.merge t) ↔ Q s ∨ Q t)
    (hempty : ¬ Q .empty) : Q (joined ending gives entries) ↔
      ∃ e ∈ entries, ending e.2 = .finished ∧ Q (gives e.2) := by
  have hstep : ∀ (all : ContextSet) (e : String × ι), Q ((ending e.2).keep all (gives e.2)) ↔
      Q all ∨ (ending e.2 = .finished ∧ Q (gives e.2)) := by
    intro all e
    cases ending e.2 with
    | finished => simp [Ending.keep, hmerge]
    | panicked => simp [Ending.keep]
  unfold joined
  rw [ContextSet.foldl_iff hstep]
  simp [hempty]

theorem mem_joined {c : Context} : c ∈ (joined ending gives entries).contexts ↔
    ∃ e ∈ entries, ending e.2 = .finished ∧ c ∈ (gives e.2).contexts :=
  joined_iff (Q := fun s => c ∈ s.contexts) (fun _ _ => ContextSet.mem_merge)
    (ContextSet.not_mem_empty c)

theorem sorted_joined (entries : List (String × ι)) : (joined ending gives entries).Sorted := by
  unfold joined
  induction entries using List.reverseRecOn with
  | nil => exact ContextSet.sorted_empty
  | append_singleton es e ih =>
    rw [List.foldl_append, List.foldl_cons, List.foldl_nil]
    cases ending e.2 with
    | finished => exact ih.merge (gives e.2)
    | panicked => exact ih

/-- Without empty sets of values in what is given there are none in what is joined. -/
theorem filled_joined (h : ∀ e ∈ entries, (gives e.2).Filled) :
    (joined ending gives entries).Filled := by
  unfold joined
  induction entries using List.reverseRecOn with
  | nil => exact ContextSet.filled_empty
  | append_singleton es e ih =>
    rw [List.foldl_append, List.foldl_cons, List.foldl_nil]
    have hes := ih fun d hd => h d (List.mem_append_left _ hd)
    cases ending e.2 with
    | finished => exact hes.merge (h e (List.mem_append_right _ (List.mem_singleton_self e)))
    | panicked => exact hes

/-- Neither the order nor the presence of calculators that fail makes a difference. -/
theorem joined_congr {es : List (String × ι)} (hsub : ∀ e ∈ es, e ∈ entries)
    (hfinished : ∀ e ∈ entries, ending e.2 = .finished → e ∈ es) :
    joined ending gives es = joined ending gives entries := by
  have hsame : ∀ P : ContextSet → Prop, (∃ e ∈ es, ending e.2 = .finished ∧ P (gives e.2)) ↔
      ∃ e ∈ entries, ending e.2 = .finished ∧ P (gives e.2) := by
    intro P
    constructor
    · rintro ⟨e, he, hgives⟩
      exact ⟨e, hsub e he, hgives⟩
    · rintro ⟨e, he, hended, hgives⟩
      exact ⟨e, hfinished e he hended, hended, hgives⟩
  -- sorted maps with the same keys and the same contexts are the same
  apply (sorted_joined es).ext (sorted_joined entries)
  · intro k
    have hkeys : ∀ es : List (String × ι), k ∈ (joined ending gives es).keys ↔
        ∃ e ∈ es, ending e.2 = .finished ∧ k ∈ (gives e.2).keys := fun es =>
      joined_iff (Q := fun s => k ∈ s.keys) (fun _ _ => ContextSet.mem_keys_merge)
        List.not_mem_nil
    rw [hkeys, hkeys, hsame fun s => k ∈ s.keys]
  · intro c
    rw [mem_joined, mem_joined, hsame fun s => c ∈ s.contexts]

/-- Any of the calculators can be visited in any order. -/
theorem Independent.tour (h : Independent g answer subject entries calm ending gives)
    (hcs : ∀ c ∈ cs, c ∈ entries) (hs : calm s) (number : Nat) :
    ∃ vs s', Tour g answer number subject s vs s' ∧ vs.map Visit.entry = cs ∧
      ∀ v ∈ vs, v.ending = ending v.calculator ∧
        v.offers.foldl Offer.into .empty = gives v.calculator := by
  induction cs generalizing s with
  | nil => exact ⟨[], s, .nil s, rfl, by simp⟩
  | cons c cs ih =>
    obtain ⟨os, s₁, hends, hs₁, hgives⟩ :=
      h.alike c (hcs c (List.mem_cons_self ..)) _ (h.called s number c.1 hs)
    obtain ⟨vs, s', htour, hvisited, hvs⟩ :=
      ih (fun c hc => hcs c (List.mem_cons_of_mem _ hc)) hs₁
    refine ⟨⟨c.1, c.2, os, ending c.2⟩ :: vs, s', .cons hends htour, ?_, ?_⟩
    · rw [List.map_cons, hvisited]
      rfl
    · exact List.forall_mem_cons.mpr ⟨⟨rfl, hgives⟩, hvs⟩

/-- A query of such calculators is answered, by what those give that come to their end. -/
theorem Independent.query (h : Independent g answer subject entries calm ending gives)
    (harrive : s.arrive subject.id = (.due f, s₁)) (hs₁ : calm s₁)
    (hentries : ∀ e ∈ s.registry.entries, e ∈ entries) :
    ∃ s', query g answer subject s = some (joined ending gives s.registry.entries, s') := by
  obtain ⟨vs, s₂, htour, hvisited, hvs⟩ := h.tour hentries hs₁ f.number
  -- every visit ends and gives as its calculator always does
  have hcollected : vs.foldl Visit.collect .empty = joined ending gives s.registry.entries := by
    have hstep : ∀ (all : ContextSet), ∀ v ∈ vs, Visit.collect all v =
        (ending v.entry.2).keep all (gives v.entry.2) := by
      intro all v hv
      unfold Visit.collect
      rw [(hvs v hv).1, (hvs v hv).2]
      rfl
    rw [List.foldl_ext _ _ _ hstep, joined, ← hvisited, List.foldl_map]
  refine ⟨_, (query_eq_some_iff harrive).mpr ⟨vs, s₂, htour, ?_, hcollected.symm, rfl⟩⟩
  rw [hvisited, (arrive_registry harrive).1]
  rfl

/-- Neither the order of such calculators nor the presence of those that fail makes a
    difference to the answer. -/
theorem Independent.same_answer
    (h : Independent g answer subject s.registry.entries calm ending gives)
    (harrive : s.arrive subject.id = (.due f, s₁)) (hs₁ : calm s₁) {registry : Registry ι}
    (hs₁' : calm { s₁ with registry := registry })
    (hsub : ∀ e ∈ registry.entries, e ∈ s.registry.entries)
    (hfinished : ∀ e ∈ s.registry.entries, ending e.2 = .finished → e ∈ registry.entries)
    (hquery : System.query g answer subject s = some (contexts, s')) :
    ∃ s'', System.query g answer subject { s with registry := registry } =
      some (contexts, s'') := by
  obtain ⟨s₁', hquery₁⟩ := h.query harrive hs₁ fun _ he => he
  obtain ⟨s₂', hquery₂⟩ := h.query ((arrive_registry harrive).2 registry) hs₁' hsub
  obtain ⟨rfl, -⟩ := Prod.mk.inj (Option.some.inj (hquery.symm.trans hquery₁))
  have hsame : joined ending gives registry.entries = joined ending gives s.registry.entries :=
    joined_congr hsub hfinished
  exact ⟨s₂', hsame ▸ hquery₂⟩

/-- **What a sweep computes.** A query for which a sweep is due

    1. is answered if the calculators that were registered when it came in end one after the
       other,
    2. visits these calculators, each once and in their order, and its answer holds what was
       offered on the visits that came to their end,
    3. calls no other calculators for this sweep, as the journal tells, and
    4. if the calculators do not depend on each other, has the same answer when they are
       registered in another order, and when those that fail are not registered. -/
theorem query_visits_snapshot {depth : Nat} (harrive : s.arrive subject.id = (.due f, s₁)) :
    (∀ visits s₂, Tour g (System.answer g depth) f.number subject s₁ visits s₂ →
      visits.map Visit.entry = s.registry.snapshot →
      ∃ contexts, query g (System.answer g depth) subject s =
        some (contexts, s₂.land f contexts)) ∧
    ∀ contexts s', query g (System.answer g depth) subject s = some (contexts, s') →
      (∃ visits s₂, Tour g (System.answer g depth) f.number subject s₁ visits s₂ ∧
        s' = s₂.land f contexts ∧ visits.map Visit.entry = s.registry.snapshot ∧
        ∀ c, c ∈ contexts.contexts ↔
          ∃ v ∈ visits, v.ending = .finished ∧ ∃ o ∈ v.offers, o.Gives c) ∧
      (∃ noted, s'.journal = noted ++ s.journal ∧
        consultations f.number noted = s.registry.names) ∧
      ∀ calm ending gives (registry : Registry ι),
        Independent g (System.answer g depth) subject s.registry.entries calm ending gives →
        calm s₁ → calm { s₁ with registry := registry } →
        (∀ e ∈ registry.entries, e ∈ s.registry.entries) →
        (∀ e ∈ s.registry.entries, ending e.2 = .finished → e ∈ registry.entries) →
        ∃ s'', query g (System.answer g depth) subject { s with registry := registry } =
          some (contexts, s'') := by
  have hregistry : s₁.registry = s.registry := (arrive_registry harrive).1
  refine ⟨?_, fun contexts s' hquery => ?_⟩
  · intro vs s₂ htour hvisited
    rw [← hregistry] at hvisited
    exact ⟨_, (query_eq_some_iff harrive).mpr ⟨vs, s₂, htour, hvisited, rfl, rfl⟩⟩
  -- the snapshot is taken when the query comes in, and the tour is made of it
  obtain ⟨vs, s₂, htour, hvisited, hcontexts, hs'⟩ := (query_eq_some_iff harrive).mp hquery
  rw [hregistry] at hvisited
  refine ⟨⟨vs, s₂, htour, hs', hvisited, ?_⟩, ?_, ?_⟩
  · intro c
    rw [hcontexts, Visit.mem_foldl_collect]
    simp only [ContextSet.not_mem_empty, false_or]
  · obtain ⟨noted, hj, hnames⟩ := htour.consulted_of_query (orderly_answer g depth) harrive contexts
    refine ⟨noted, hs' ▸ hj, hnames.trans ?_⟩
    show vs.map Visit.name = s.registry.snapshot.map Prod.fst
    rw [← hvisited, List.map_map]
    rfl
  · intro calm ending gives registry h hs₁ hs₁' hsub hfinished
    exact h.same_answer harrive hs₁ hs₁' hsub hfinished hquery

end System

/-! ### A sweep with a calculator that meddles and one that fails -/

/-- Three calculators. -/
inductive Trio where
  /-- Adds and removes calculators and signals its subject before it offers. -/
  | meddler
  /-- Offers and fails. -/
  | failing
  /-- Offers two pairs, of which one is no context. -/
  | plain

namespace Trio

/-- What the three do. -/
def calculate : Trio → Subject Unit → Routine Trio Unit Unit
  | .meddler, subject =>
    .ask (.register "late" .plain) fun _ => .ask (.unregister "p") fun _ =>
      .ask (.signal subject.id) fun _ => .offer " World " "Arena" .done
  | .failing, _ => .offer "world" "lost" .panic
  | .plain, _ => .offer "no=key" "x" (.offer "mode" "x" .done)

/-- What they offer. -/
def offers : Trio → List Offer
  | .meddler => [.pair " World " "Arena"]
  | .failing => [.pair "world" "lost"]
  | .plain => [.pair "no=key" "x", .pair "mode" "x"]

/-- How they end. -/
def ending : Trio → Ending
  | .failing => .panicked
  | _ => .finished

/-- The three as guests. -/
def guests : Guests Trio Unit Unit where
  calculator i := ⟨i.calculate, fun _ => none⟩
  handle _ _ := .done

/-- A system with some of the three. -/
def system (entries : List (String × Trio)) : System Trio Unit Unit :=
  ⟨⟨entries⟩, .empty, .new 1, (), 0, []⟩

/-- Whom the three are asked for. -/
def anybody : Subject Unit := ⟨"a", fun _ => none, fun _ => none⟩

theorem independent (entries : List (String × Trio)) :
    System.Independent guests (System.answer guests 0) anybody entries (fun _ => True) ending
      fun i => i.offers.foldl Offer.into .empty := by
  refine ⟨fun _ _ _ _ => trivial, ?_⟩
  rintro ⟨_, i⟩ _ s _
  cases i with
  | meddler => exact ⟨_, _, .ask rfl (.ask rfl (.ask rfl (.offer (.done _)))), trivial, rfl⟩
  | failing => exact ⟨_, s, .offer (.panic s), trivial, rfl⟩
  | plain => exact ⟨_, s, .offer (.offer (.done s)), trivial, rfl⟩

/-- The meddler removes a calculator that is visited all the same, and the answer is the same
    in another order and without the one that fails. -/
theorem query_visits_trio :
    ∃ contexts s' s'', System.query guests (System.answer guests 0) anybody
        (system [("m", meddler), ("f", failing), ("p", plain)]) = some (contexts, s') ∧
      consultations 0 s'.journal = ["m", "f", "p"] ∧ s'.registry.names = ["m", "f", "late"] ∧
      System.query guests (System.answer guests 0) anybody
        (system [("p", plain), ("m", meddler)]) = some (contexts, s'') := by
  obtain ⟨s₁, harrive⟩ : ∃ s₁, (system [("m", meddler), ("f", failing), ("p", plain)]).arrive
    anybody.id = (.due ⟨0, "a", 0, 0⟩, s₁) := ⟨_, rfl⟩
  have hquery : ∃ p, System.query guests (System.answer guests 0) anybody
    (system [("m", meddler), ("f", failing), ("p", plain)]) = some p ∧
      p.2.registry.names = ["m", "f", "late"] := ⟨_, rfl, rfl⟩
  obtain ⟨⟨contexts, s'⟩, hquery, hnames⟩ := hquery
  obtain ⟨-, ⟨noted, hj, hvisited⟩, hsame⟩ :=
    (System.query_visits_snapshot harrive).2 _ _ hquery
  obtain ⟨s'', hquery'⟩ := hsame _ _ _ ⟨[("p", plain), ("m", meddler)]⟩ (independent _) trivial
    trivial (by simp [system]) (by simp [system, ending])
  refine ⟨contexts, s', s'', hquery, ?_, hnames, hquery'⟩
  rw [hj, consultations_append, hvisited]
  rfl

end Trio

end PermissionContexts
