import PermissionContexts.Proofs.LifeCycle
import PermissionContexts.Proofs.Sweep

/-! # Subjects have nothing to do with each other

    Queries, signals and removals name a subject, and invalidation names all of them. As
    long as calculators do not call back, each of these **operations** does something to
    the entries of the subjects that it names and to nothing else (`operate_quiet`). So

    * the state of a subject runs through a machine of four states (`CacheState.next`)
      that sees the operations on this subject only, and
    * if the operations on all others are left out of a run, the subject is answered as
      before.

    Main statement: `subjects_are_isolated`.
-/

namespace PermissionContexts

/-! ### Operations and answers -/

/-- What a host asks of the cache. -/
inductive Operation (ε : Type) where
  /-- The contexts of a subject. -/
  | query (subject : Subject ε)
  /-- To make the kept contexts of a subject stale. -/
  | signal (id : SubjectId)
  /-- To forget a subject. -/
  | remove (id : SubjectId)
  /-- To make all kept contexts stale. -/
  | invalidateAll

/-- What the host is told. -/
inductive Answer where
  /-- The contexts of a subject. -/
  | contexts (contexts : ContextSet)
  /-- Whether there was an entry. -/
  | met (known : Bool)
  /-- Nothing. -/
  | nothing
deriving DecidableEq, Repr

/-- Whether there was an entry, if the answer tells. -/
def Answer.met? : Answer → Option Bool
  | .met known => some known
  | _ => none

namespace Operation

variable {ε : Type}

/-- Whether an operation is on the given subject. -/
def concerns (id : SubjectId) : Operation ε → Bool
  | .query subject => subject.id = id
  | .signal id' => id' = id
  | .remove id' => id' = id
  | .invalidateAll => true

/-- Whether the answer to an operation tells if there was an entry. -/
def tells : Operation ε → Bool
  | .signal _ => true
  | .remove _ => true
  | _ => false

/-- Whether something is computed for an operation, when subjects are in the given states. -/
def computes (states : SubjectId → CacheState) : Operation ε → Bool
  | .query subject => states subject.id ≠ .fresh
  | _ => false

/-- What a subject finds after an operation on it that was answered by `a`, when it found `e`
    before. -/
def entryAfter (a : Answer) (e : Option Entry) : Operation ε → Option Entry
  | .query _ =>
    match a with
    | .contexts contexts => some ((e.getD .new).renewed contexts)
    | _ => e
  | .signal _ => e.map Entry.bump
  | .remove _ => none
  | .invalidateAll => e.map Entry.bump

end Operation

namespace CacheState

variable {ε : Type}

/-- The state of a subject after an operation on it. -/
def next (state : CacheState) : Operation ε → CacheState
  | .query _ => .fresh
  | .signal _ => state.spoiled
  | .remove _ => .absent
  | .invalidateAll => state.spoiled

/-- The states of all subjects after an operation. -/
def allNext (states : SubjectId → CacheState) (o : Operation ε) : SubjectId → CacheState :=
  fun id => if o.concerns id then (states id).next o else states id

/-- What operations on a subject tell, one after the other, of whether it has an entry. -/
def replies (state : CacheState) : List (Operation ε) → List Bool
  | [] => []
  | o :: ops => (if o.tells then [decide (state ≠ .absent)] else []) ++ (state.next o).replies ops

end CacheState

/-- How often something is computed for operations that come one after the other, when
    subjects are in the given states at first. -/
def computations {ε : Type} (states : SubjectId → CacheState) : List (Operation ε) → Nat
  | [] => 0
  | o :: ops =>
    (if o.computes states then 1 else 0) + computations (CacheState.allNext states o) ops

namespace System

variable {ι κ ε : Type}

/-- Does what is asked of the cache. -/
def operate (g : Guests ι κ ε) (depth : Nat) :
    Operation ε → System ι κ ε → Option (Answer × System ι κ ε)
  | .query subject, s =>
    (answer g depth (.query subject) s).map fun a => (.contexts a.1, a.2)
  | .signal id, s => (answer g depth (.signal id) s).map fun a => (.met a.1, a.2)
  | .remove id, s => (answer g depth (.remove id) s).map fun a => (.met a.1, a.2)
  | .invalidateAll, s => (answer g depth .invalidateAll s).map fun a => (.nothing, a.2)

/-- Does one operation after the other, and writes down the answers. -/
def operateAll (g : Guests ι κ ε) (depth : Nat) :
    List (Operation ε) → System ι κ ε → Option (List (Operation ε × Answer) × System ι κ ε)
  | [], s => some ([], s)
  | o :: ops, s =>
    match operate g depth o s with
    | some (a, s) => (operateAll g depth ops s).map fun r => ((o, a) :: r.1, r.2)
    | none => none

end System

/-- All that was told of whether there were entries. -/
def heard {ε : Type} (transcript : List (Operation ε × Answer)) : List Bool :=
  transcript.filterMap (·.2.met?)

theorem heard_cons {ε : Type} (p : Operation ε × Answer)
    (transcript : List (Operation ε × Answer)) :
    heard (p :: transcript) = p.2.met?.toList ++ heard transcript := by
  unfold heard
  rw [List.filterMap_cons]
  cases p.2.met? <;> rfl

/-! ### Calculators that do not call back -/

namespace Guests

variable {ι κ ε : Type}

/-- No calculator asks the system for anything but the environment. They may fail. -/
def Quiet (g : Guests ι κ ε) : Prop :=
  ∀ calculator subject e, ∃ p,
    ((g.calculator calculator).calculate subject).alone e .empty = some p

theorem Passive.quiet {g : Guests ι κ ε} (hg : g.Passive) : g.Quiet := hg.alone

end Guests

namespace System

variable {ι κ ε : Type} {g : Guests ι κ ε} {depth : Nat} {s s' t t' : System ι κ ε}

/-- A sweep of such calculators ends, and touches neither cache nor registry. -/
theorem sweep_quiet (hg : g.Quiet) (depth number : Nat) (subject : Subject ε)
    (cs : List (String × ι)) (s : System ι κ ε) (merged : ContextSet) :
    ∃ s' contexts, sweep g (answer g depth) number subject cs s merged = some (s', contexts) ∧
      s'.cache = s.cache ∧ s'.registry = s.registry := by
  induction cs generalizing s merged with
  | nil => exact ⟨s, merged, rfl, rfl, rfl⟩
  | cons c cs ih =>
    obtain ⟨⟨ending, e', out⟩, halone⟩ := hg c.2 subject s.env
    have hrun : ((g.calculator c.2).calculate subject).run (answer g depth)
        (s.note (.consulted number c.1)) .empty =
          some (ending, { s.note (.consulted number c.1) with env := e' }, out) :=
      Routine.run_of_alone halone
    obtain ⟨s', contexts, hsweep, hcache, hregistry⟩ :=
      ih { s.note (.consulted number c.1) with env := e' } (ending.keep merged out)
    refine ⟨s', contexts, ?_, hcache, hregistry⟩
    simp only [sweep, hrun, hsweep]

/-- A query is always answered as long as calculators do not call back. -/
theorem query_quiet (hg : g.Quiet) (hv : s.cache.Valid) (depth : Nat) (subject : Subject ε) :
    ∃ contexts s', query g (answer g depth) subject s = some (contexts, s') ∧
      Queried subject contexts s s' := by
  cases harrive : s.arrive subject.id with
  | mk arrival s₁ =>
    cases arrival with
    | kept contexts => exact ⟨contexts, s₁, query_of_kept harrive, queried_of_kept hv harrive⟩
    | due f =>
      obtain ⟨s₂, contexts, hsweep, hcache, hregistry⟩ :=
        sweep_quiet hg depth f.number subject s₁.registry.snapshot s₁ .empty
      exact ⟨contexts, _, query_of_due harrive hsweep,
        queried_of_due hv harrive hcache hregistry contexts⟩

/-! ### What an operation can do -/

/-- What an operation that was answered by `a` leaves behind. -/
structure Operated (o : Operation ε) (a : Answer) (s s' : System ι κ ε) : Prop where
  /-- The cache is valid. -/
  valid : s'.cache.Valid
  /-- The registry is as it was. -/
  registry : s'.registry = s.registry
  /-- The subjects that the operation is on find what it made of their entries, and others
      what they found before. -/
  find? : ∀ id, s'.cache.find? id =
    if o.concerns id then o.entryAfter a (s.cache.find? id) else s.cache.find? id
  /-- The same, told by states. -/
  state : ∀ id, s'.cache.state id = CacheState.allNext s.cache.state o id
  /-- The answer tells whether there was an entry, if the operation is one that tells. -/
  met : ∀ id, o.concerns id = true →
    a.met? = if o.tells then some (decide (s.cache.state id ≠ .absent)) else none
  /-- What is computed is counted. -/
  recomputations : s'.cache.stats.recomputations =
    s.cache.stats.recomputations + if o.computes s.cache.state then 1 else 0

theorem operate_signal (hv : s.cache.Valid) (depth : Nat) (id : SubjectId) :
    operate g depth (.signal id) s = some (.met (s.cache.signal id).1, (s.signal id).2) ∧
      Operated (.signal id) (.met (s.cache.signal id).1) s (s.signal id).2 := by
  refine ⟨by simp only [operate, answer, Option.map_some]; rfl, ⟨hv.signal id, rfl, ?_, ?_, ?_, ?_⟩⟩
  · intro id'
    simp only [Operation.concerns, decide_eq_true_eq]
    exact hv.find?_signal id id'
  · intro id'
    simp only [CacheState.allNext, Operation.concerns, decide_eq_true_eq]
    exact hv.state_signal id id'
  · intro id' hid
    obtain rfl : id = id' := of_decide_eq_true hid
    simp [Answer.met?, Operation.tells, ← s.cache.signal_fst]
  · exact (stats_at_once (g := g) (r := .signal id) (s := s) rfl).1

theorem operate_remove (hv : s.cache.Valid) (depth : Nat) (id : SubjectId) :
    operate g depth (.remove id) s = some (.met (s.cache.remove id).1, (s.remove id).2) ∧
      Operated (.remove id) (.met (s.cache.remove id).1) s (s.remove id).2 := by
  refine ⟨by simp only [operate, answer, Option.map_some]; rfl, ⟨hv.remove id, rfl, ?_, ?_, ?_, ?_⟩⟩
  · intro id'
    simp only [Operation.concerns, decide_eq_true_eq]
    exact s.cache.find?_remove id id'
  · intro id'
    simp only [CacheState.allNext, Operation.concerns, decide_eq_true_eq]
    exact s.cache.state_remove id id'
  · intro id' hid
    obtain rfl : id = id' := of_decide_eq_true hid
    simp [Answer.met?, Operation.tells, ← s.cache.remove_fst]
  · exact (stats_at_once (g := g) (r := .remove id) (s := s) rfl).1

theorem operate_invalidateAll (hv : s.cache.Valid) (depth : Nat) :
    operate g depth .invalidateAll s = some (.nothing, s.invalidateAll) ∧
      Operated .invalidateAll .nothing s s.invalidateAll := by
  refine ⟨by simp only [operate, answer, Option.map_some], ⟨hv.invalidateAll, rfl, ?_, ?_, ?_, ?_⟩⟩
  · intro id
    exact hv.find?_invalidateAll id
  · intro id
    exact hv.state_invalidateAll id
  · intro id _
    rfl
  · exact (stats_at_once (g := g) (r := .invalidateAll) (s := s) rfl).1

theorem operate_query (hg : g.Quiet) (hv : s.cache.Valid) (depth : Nat) (subject : Subject ε) :
    ∃ contexts s', operate g (depth + 1) (.query subject) s = some (.contexts contexts, s') ∧
      Operated (.query subject) (.contexts contexts) s s' := by
  obtain ⟨contexts, s', hquery, h⟩ := query_quiet hg hv depth subject
  have hfind : ∀ id, s'.cache.find? id =
      if subject.id = id then some (((s.cache.find? id).getD .new).renewed contexts)
      else s.cache.find? id := h.find?
  refine ⟨contexts, s', ?_, ⟨h.valid, h.registry, ?_, ?_, ?_, ?_⟩⟩
  · simp only [operate, answer, hquery, Option.map_some]
  · intro id
    simp only [Operation.concerns, decide_eq_true_eq]
    exact hfind id
  · intro id
    by_cases hid : subject.id = id
    · simp [Cache.state, hfind, hid, CacheState.allNext, Operation.concerns, CacheState.next]
    · simp [Cache.state, hfind, hid, CacheState.allNext, Operation.concerns]
  · intro id _
    rfl
  · rw [h.recomputations]
    simp [Operation.computes]

/-- Every operation is answered, and does something to the subjects that it is on only. -/
theorem operate_quiet (hg : g.Quiet) (hv : s.cache.Valid) (depth : Nat) (o : Operation ε) :
    ∃ a s', operate g (depth + 1) o s = some (a, s') ∧ Operated o a s s' := by
  cases o with
  | query subject =>
    obtain ⟨contexts, s', hoperate, h⟩ := operate_query hg hv depth subject
    exact ⟨_, s', hoperate, h⟩
  | signal id => exact ⟨_, _, operate_signal hv (depth + 1) id⟩
  | remove id => exact ⟨_, _, operate_remove hv (depth + 1) id⟩
  | invalidateAll => exact ⟨_, _, operate_invalidateAll hv (depth + 1)⟩

/-! ### Runs -/

variable {ops : List (Operation ε)} {transcript : List (Operation ε × Answer)}

/-- What operations, done one after the other, leave behind. -/
structure OperatedAll (ops : List (Operation ε)) (transcript : List (Operation ε × Answer))
    (s s' : System ι κ ε) : Prop where
  /-- The cache is valid. -/
  valid : s'.cache.Valid
  /-- Each operation is written down. -/
  operations : transcript.map Prod.fst = ops
  /-- The state of a subject is what the operations on it lead to. -/
  state : ∀ id, s'.cache.state id =
    (ops.filter (·.concerns id)).foldl CacheState.next (s.cache.state id)
  /-- The operations on a subject tell what its states tell. -/
  heard : ∀ id, heard (transcript.filter (·.1.concerns id)) =
    (s.cache.state id).replies (ops.filter (·.concerns id))
  /-- What is computed is counted. -/
  recomputations : s'.cache.stats.recomputations =
    s.cache.stats.recomputations + computations s.cache.state ops

theorem operateAll_quiet (hg : g.Quiet) (hv : s.cache.Valid) (depth : Nat)
    (ops : List (Operation ε)) :
    ∃ transcript s', operateAll g (depth + 1) ops s = some (transcript, s') ∧
      OperatedAll ops transcript s s' := by
  induction ops generalizing s with
  | nil => exact ⟨[], s, rfl, hv, rfl, fun _ => rfl, fun _ => rfl, rfl⟩
  | cons o ops ih =>
    obtain ⟨a, s₁, hoperate, hstep⟩ := operate_quiet hg hv depth o
    obtain ⟨transcript, s', hrun, h⟩ := ih hstep.valid
    refine ⟨(o, a) :: transcript, s', ?_, h.valid, ?_, ?_, ?_, ?_⟩
    · simp only [operateAll, hoperate, hrun, Option.map_some]
    · rw [List.map_cons, h.operations]
    · intro id
      rw [h.state, hstep.state, CacheState.allNext]
      by_cases hid : o.concerns id = true
      · rw [if_pos hid, List.filter_cons_of_pos hid, List.foldl_cons]
      · rw [if_neg hid, List.filter_cons_of_neg hid]
    · intro id
      have hheard := h.heard id
      rw [hstep.state, CacheState.allNext] at hheard
      by_cases hid : o.concerns id = true
      · have hfirst : ((o, a) :: transcript).filter (·.1.concerns id) =
            (o, a) :: transcript.filter (·.1.concerns id) := List.filter_cons_of_pos hid
        rw [if_pos hid] at hheard
        rw [hfirst, List.filter_cons_of_pos hid, heard_cons, CacheState.replies, hheard,
          hstep.met id hid]
        split_ifs <;> rfl
      · have hfirst : ((o, a) :: transcript).filter (·.1.concerns id) =
            transcript.filter (·.1.concerns id) := List.filter_cons_of_neg hid
        rw [if_neg hid] at hheard
        rw [hfirst, List.filter_cons_of_neg hid, hheard]
    · have hstates : s₁.cache.state = CacheState.allNext s.cache.state o := funext hstep.state
      rw [h.recomputations, hstep.recomputations, hstates, computations, Nat.add_assoc]

/-! ### Leaving others out -/

/-- Two systems between which a subject can see no difference, and calculators neither. -/
structure Twins (g : Guests ι κ ε) (id : SubjectId) (s t : System ι κ ε) : Prop where
  /-- The calculators are the same. -/
  registry : t.registry = s.registry
  /-- They offer the same. -/
  env : g.Alike s.env t.env
  /-- The subject finds the same entry. -/
  find? : t.cache.find? id = s.cache.find? id

/-- Passive calculators leave no trace that makes a difference. -/
theorem operate_alike (hg : g.Passive) (hv : s.cache.Valid) {o : Operation ε} {a : Answer}
    (h : operate g (depth + 1) o s = some (a, s')) : g.Alike s.env s'.env := by
  cases o with
  | query subject =>
    obtain ⟨contexts, s₁, hquery, -, halike, -⟩ := query_passive hg depth hv subject
    simp only [operate, answer, hquery, Option.map_some, Option.some.injEq, Prod.mk.injEq] at h
    exact h.2 ▸ halike
  | signal id =>
    obtain ⟨-, rfl⟩ := Prod.mk.inj (Option.some.inj h)
    exact .refl s.env
  | remove id =>
    obtain ⟨-, rfl⟩ := Prod.mk.inj (Option.some.inj h)
    exact .refl s.env
  | invalidateAll =>
    obtain ⟨-, rfl⟩ := Prod.mk.inj (Option.some.inj h)
    exact .refl s.env

/-- An operation on others makes no difference to a subject. -/
theorem Twins.skip {id : SubjectId} {o : Operation ε} {a : Answer} (h : Twins g id s t)
    (hoperated : Operated o a s s') (halike : g.Alike s.env s'.env)
    (hid : o.concerns id = false) : Twins g id s' t := by
  refine ⟨h.registry.trans hoperated.registry.symm, ?_, ?_⟩
  · intro calculator subject
    rw [h.env, halike]
  · rw [hoperated.find?, hid, h.find?]
    rfl

/-- A query of passive calculators is answered by a good set, or by what is offered. -/
theorem operate_query_passive (hg : g.Passive) (hv : s.cache.Valid) {subject : Subject ε}
    {a : Answer} (h : operate g (depth + 1) (.query subject) s = some (a, s')) :
    (∀ kept, s.cache.Keeps subject.id kept → a = .contexts kept) ∧
      ((∀ kept, ¬ s.cache.Keeps subject.id kept) → a = .contexts (uncached g subject s)) := by
  obtain ⟨contexts, s₁, hquery, hqueried, -, hcases⟩ := query_passive hg depth hv subject
  simp only [operate, answer, hquery, Option.map_some, Option.some.injEq, Prod.mk.injEq] at h
  obtain ⟨rfl, -⟩ := h
  refine ⟨fun kept hkept => congrArg Answer.contexts (hqueried.kept kept hkept), ?_⟩
  intro hnone
  exact congrArg Answer.contexts (hcases.resolve_left (hnone contexts))

/-- A subject is told the same by either of two twins. -/
theorem Twins.answer_eq (hg : g.Passive) {id : SubjectId} {o : Operation ε} {a b : Answer}
    (h : Twins g id s t) (hs : s.cache.Valid) (ht : t.cache.Valid) (hid : o.concerns id = true)
    (ha : operate g (depth + 1) o s = some (a, s')) (hb : operate g (depth + 1) o t = some (b, t')) :
    b = a := by
  have hstate : t.cache.state id = s.cache.state id := by
    unfold Cache.state
    rw [h.find?]
  cases o with
  | query subject =>
    obtain rfl : subject.id = id := of_decide_eq_true hid
    have hkeeps : ∀ kept, t.cache.Keeps subject.id kept ↔ s.cache.Keeps subject.id kept := by
      intro kept
      rw [Cache.keeps_iff, Cache.keeps_iff, h.find?]
    obtain ⟨hkept, hdue⟩ := operate_query_passive hg hs ha
    obtain ⟨hkept', hdue'⟩ := operate_query_passive hg ht hb
    by_cases hgood : ∃ kept, s.cache.Keeps subject.id kept
    · obtain ⟨kept, hgood⟩ := hgood
      rw [hkept kept hgood, hkept' kept ((hkeeps kept).mpr hgood)]
    · have hnone : ∀ kept, ¬ s.cache.Keeps subject.id kept := not_exists.mp hgood
      rw [hdue hnone, hdue' fun kept hk => hnone kept ((hkeeps kept).mp hk),
        uncached_congr h.registry h.env]
  | signal id' =>
    obtain rfl : id' = id := of_decide_eq_true hid
    obtain ⟨rfl, -⟩ := Prod.mk.inj (Option.some.inj ha)
    obtain ⟨rfl, -⟩ := Prod.mk.inj (Option.some.inj hb)
    have hmet : (t.cache.signal id').1 = (s.cache.signal id').1 := by
      rw [Bool.eq_iff_iff, Cache.signal_fst, Cache.signal_fst, hstate]
    exact congrArg Answer.met hmet
  | remove id' =>
    obtain rfl : id' = id := of_decide_eq_true hid
    obtain ⟨rfl, -⟩ := Prod.mk.inj (Option.some.inj ha)
    obtain ⟨rfl, -⟩ := Prod.mk.inj (Option.some.inj hb)
    have hmet : (t.cache.remove id').1 = (s.cache.remove id').1 := by
      rw [Bool.eq_iff_iff, Cache.remove_fst, Cache.remove_fst, hstate]
    exact congrArg Answer.met hmet
  | invalidateAll =>
    obtain ⟨rfl, -⟩ := Prod.mk.inj (Option.some.inj ha)
    obtain ⟨rfl, -⟩ := Prod.mk.inj (Option.some.inj hb)
    rfl

/-- An operation on a subject, done on both twins, leaves twins. -/
theorem Twins.both (hg : g.Passive) {id : SubjectId} {o : Operation ε} {a : Answer}
    (h : Twins g id s t) (hs : s.cache.Valid) (ht : t.cache.Valid) (hid : o.concerns id = true)
    (ha : operate g (depth + 1) o s = some (a, s')) (hoperated : Operated o a s s') :
    ∃ t', operate g (depth + 1) o t = some (a, t') ∧ t'.cache.Valid ∧ Twins g id s' t' := by
  obtain ⟨b, t', hb, hoperated'⟩ := operate_quiet hg.quiet ht depth o
  obtain rfl : b = a := h.answer_eq hg hs ht hid ha hb
  have halike : g.Alike s.env s'.env := operate_alike hg hs ha
  have halike' : g.Alike t.env t'.env := operate_alike hg ht hb
  refine ⟨t', hb, hoperated'.valid, ?_, ?_, ?_⟩
  · rw [hoperated'.registry, h.registry, hoperated.registry]
  · intro calculator subject
    rw [halike', h.env, halike]
  · rw [hoperated'.find?, hoperated.find?, if_pos hid, if_pos hid, h.find?]

/-- If the operations on others are left out of a run, a subject is answered as before. -/
theorem Twins.run (hg : g.Passive) {id : SubjectId} (h : Twins g id s t) (hs : s.cache.Valid)
    (ht : t.cache.Valid) (hrun : operateAll g (depth + 1) ops s = some (transcript, s')) :
    ∃ t', operateAll g (depth + 1) (ops.filter (·.concerns id)) t =
      some (transcript.filter (·.1.concerns id), t') ∧ Twins g id s' t' := by
  induction ops generalizing s t transcript with
  | nil =>
    obtain ⟨rfl, rfl⟩ := Prod.mk.inj (Option.some.inj hrun)
    exact ⟨t, rfl, h⟩
  | cons o ops ih =>
    obtain ⟨a, s₁, ha, hoperated⟩ := operate_quiet hg.quiet hs depth o
    simp only [operateAll, ha, Option.map_eq_some_iff] at hrun
    obtain ⟨⟨rest, s₂⟩, hrest, heq⟩ := hrun
    obtain ⟨rfl, rfl⟩ := Prod.mk.inj heq
    by_cases hid : o.concerns id = true
    · obtain ⟨t₁, hb, ht₁, htwins⟩ := h.both hg hs ht hid ha hoperated
      obtain ⟨t', hrun', htwins'⟩ := ih htwins hoperated.valid ht₁ hrest
      refine ⟨t', ?_, htwins'⟩
      have hfirst : ((o, a) :: rest).filter (·.1.concerns id) =
          (o, a) :: rest.filter (·.1.concerns id) := List.filter_cons_of_pos hid
      rw [hfirst, List.filter_cons_of_pos hid]
      simp only [operateAll, hb, hrun', Option.map_some]
    · have htwins := h.skip hoperated (operate_alike hg hs ha) (Bool.eq_false_iff.mpr hid)
      obtain ⟨t', hrun', htwins'⟩ := ih htwins hoperated.valid ht hrest
      refine ⟨t', ?_, htwins'⟩
      have hfirst : ((o, a) :: rest).filter (·.1.concerns id) =
          rest.filter (·.1.concerns id) := List.filter_cons_of_neg hid
      rw [hfirst, List.filter_cons_of_neg hid]
      exact hrun'

/-- A run on one subject writes down nothing else. -/
theorem OperatedAll.filter_eq_self {id : SubjectId}
    (h : OperatedAll (ops.filter (·.concerns id)) transcript s s') :
    transcript.filter (·.1.concerns id) = transcript := by
  refine List.filter_eq_self.mpr ?_
  intro p hp
  have hmem : p.1 ∈ ops.filter (·.concerns id) := by
    rw [← h.operations]
    exact List.mem_map_of_mem hp
  exact (List.mem_filter.mp hmem).2

/-- **Subjects are isolated**: the state of a subject, and what signals and removals tell of it,
    are those of a machine that sees the operations on this subject only. If all others are
    left out of the run, the state is the same and the same is told, and the same contexts
    are given, provided that calculators leave no trace. -/
theorem subjects_are_isolated (hg : g.Quiet) (hv : s.cache.Valid) (depth : Nat)
    (ops : List (Operation ε)) :
    ∃ transcript s', operateAll g (depth + 1) ops s = some (transcript, s') ∧ ∀ id,
      s'.cache.state id =
        (ops.filter (·.concerns id)).foldl CacheState.next (s.cache.state id) ∧
      heard (transcript.filter (·.1.concerns id)) =
        (s.cache.state id).replies (ops.filter (·.concerns id)) ∧
      ∃ transcript' s'', operateAll g (depth + 1) (ops.filter (·.concerns id)) s =
          some (transcript', s'') ∧
        s''.cache.state id = s'.cache.state id ∧
        heard transcript' = heard (transcript.filter (·.1.concerns id)) ∧
        (g.Passive → transcript' = transcript.filter (·.1.concerns id)) := by
  obtain ⟨transcript, s', hrun, h⟩ := operateAll_quiet hg hv depth ops
  refine ⟨transcript, s', hrun, ?_⟩
  intro id
  obtain ⟨transcript', s'', hrun', h'⟩ :=
    operateAll_quiet hg hv depth (ops.filter (·.concerns id))
  have hfilter : (ops.filter (·.concerns id)).filter (·.concerns id) =
      ops.filter (·.concerns id) := by
    rw [List.filter_filter]
    simp only [Bool.and_self]
  refine ⟨h.state id, h.heard id, transcript', s'', hrun', ?_, ?_, ?_⟩
  · rw [h'.state, h.state, hfilter]
  · have hheard := h'.heard id
    rw [hfilter, h'.filter_eq_self] at hheard
    rw [hheard, h.heard]
  · intro hpassive
    have htwins : Twins g id s s := ⟨rfl, .refl s.env, rfl⟩
    obtain ⟨t', hrun'', -⟩ := htwins.run hpassive hv hv hrun
    exact (Prod.mk.inj (Option.some.inj (hrun'.symm.trans hrun''))).1

/-- Guests whose one calculator offers the identity of the subject. -/
def naming : Guests Unit Unit Unit where
  calculator _ := ⟨fun subject => .offer "name" subject.id .done, fun _ => none⟩
  handle _ _ := .done

theorem naming_passive : naming.Passive := by
  refine ⟨fun _ _ _ => ⟨_, rfl⟩, ?_⟩
  intro _ _ e p hp
  obtain rfl := Option.some.inj hp
  exact .refl e

/-- Two subjects are asked for, signalled, and one of them is removed. -/
def onTwo : List (Operation Unit) :=
  let a : Subject Unit := ⟨"a", fun _ => none, fun _ => none⟩
  let b : Subject Unit := ⟨"b", fun _ => none, fun _ => none⟩
  [.signal "a", .query a, .query b, .signal "b", .signal "a", .remove "b", .query b, .query a,
    .remove "b", .invalidateAll]

/-- A new system with one calculator. -/
def withNaming : System Unit Unit Unit :=
  { (new 1 () : System Unit Unit Unit) with registry := ⟨[("naming", ())]⟩ }

theorem onTwo_isolated :
    ∃ transcript s', operateAll naming 1 onTwo withNaming = some (transcript, s') ∧
      s'.cache.state "a" = .stale ∧
      heard (transcript.filter (·.1.concerns "a")) = [false, true] ∧
      ∃ transcript' s'', operateAll naming 1 (onTwo.filter (·.concerns "a")) withNaming =
          some (transcript', s'') ∧ s''.cache.state "a" = .stale ∧
        transcript' = transcript.filter (·.1.concerns "a") := by
  have hv : withNaming.cache.Valid := Cache.valid_empty
  obtain ⟨transcript, s', hrun, h⟩ := subjects_are_isolated naming_passive.quiet hv 0 onTwo
  obtain ⟨hstate, hheard, transcript', s'', hrun', hstate', -, hsame⟩ := h "a"
  have hstale : s'.cache.state "a" = .stale := hstate.trans (by decide)
  exact ⟨transcript, s', hrun, hstale, hheard.trans (by decide), transcript', s'', hrun',
    hstate'.trans hstale, hsame naming_passive⟩

end System

end PermissionContexts
