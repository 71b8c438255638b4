import PermissionContexts.Proofs.System

/-! # Sweeps of passive calculators

    A calculator is **passive** if it asks the system for nothing but the environment,
    and if whatever it changes there makes no difference to what calculators offer.
    What such a calculator offers to a subject is a function of the environment
    (`Guests.offered`), and needs no system to be told.

    Main statement: `query_passive`. A query of passive calculators is always answered,
    and either by a good set or by the union of what is offered now
    (`System.uncached`).
-/

namespace PermissionContexts

variable {ι κ ε : Type}

/-! ### Passive calculators -/

/-- What a routine does on its own: nothing is said of it when it asks the system for more
    than the environment. -/
def Routine.alone : Routine ι κ ε → ε → ContextSet → Option (Ending × ε × ContextSet)
  | .done, e, out => some (.finished, e, out)
  | .panic, e, out => some (.panicked, e, out)
  | .offer key value next, e, out => next.alone e (out.add key value)
  | .offerAll contexts next, e, out => next.alone e (out.addAll contexts)
  | .ask .look next, e, out => (next e).alone e out
  | .ask (.alter change) next, e, out => (next ()).alone (change e) out
  | .ask _ _, _, _ => none

namespace Guests

/-- What a calculator adds to the contexts of a subject in an environment: what it offers,
    if it comes to its end. -/
def offered (g : Guests ι κ ε) (calculator : ι) (subject : Subject ε) (e : ε) : ContextSet :=
  match ((g.calculator calculator).calculate subject).alone e .empty with
  | some (.finished, _, out) => out
  | _ => .empty

/-- Two environments in which every calculator offers the same to every subject. -/
def Alike (g : Guests ι κ ε) (e e' : ε) : Prop :=
  ∀ calculator subject, g.offered calculator subject e' = g.offered calculator subject e

/-- All calculators are passive. -/
structure Passive (g : Guests ι κ ε) : Prop where
  /-- They ask for nothing but the environment. -/
  alone : ∀ calculator subject e, ∃ p,
    ((g.calculator calculator).calculate subject).alone e .empty = some p
  /-- They leave no trace there that a calculator would show. -/
  traceless : ∀ calculator subject e p,
    ((g.calculator calculator).calculate subject).alone e .empty = some p → g.Alike e p.2.1

variable {g : Guests ι κ ε} {e e' e'' : ε}

theorem Alike.refl (e : ε) : g.Alike e e := fun _ _ => rfl

theorem Alike.trans (h : g.Alike e e') (h' : g.Alike e' e'') : g.Alike e e'' :=
  fun calculator subject => (h' calculator subject).trans (h calculator subject)

end Guests

/-! ### Running them -/

/-- A routine that asks for nothing but the environment does in a system, however deep it
    may ask, what it does on its own. -/
theorem Routine.run_of_alone {g : Guests ι κ ε} {depth : Nat} {r : Routine ι κ ε}
    {s : System ι κ ε} {out out' : ContextSet} {e' : ε} {ending : Ending}
    (h : r.alone s.env out = some (ending, e', out')) :
    r.run (System.answer g depth) s out = some (ending, { s with env := e' }, out') := by
  -- on the routine, which may change the environment before it goes on
  induction r generalizing s out with
  | done =>
    simp only [alone, Option.some.injEq, Prod.mk.injEq] at h
    obtain ⟨rfl, rfl, rfl⟩ := h
    rfl
  | panic =>
    simp only [alone, Option.some.injEq, Prod.mk.injEq] at h
    obtain ⟨rfl, rfl, rfl⟩ := h
    rfl
  | offer key value next ih => exact ih h
  | offerAll contexts next ih => exact ih h
  | ask request next ih =>
    cases request with
    | look =>
      have hrun := ih s.env (s := s) h
      simpa only [run, System.answer] using hrun
    | alter change =>
      have hrun := ih () (s := { s with env := change s.env }) h
      simpa only [run, System.answer] using hrun
    | _ => simp [alone] at h

namespace System

variable {g : Guests ι κ ε} {s s' : System ι κ ε}

/-- The contexts of a subject, told without a cache: what the registered calculators offer
    in the present environment, merged in order. -/
def uncached (g : Guests ι κ ε) (subject : Subject ε) (s : System ι κ ε) : ContextSet :=
  s.registry.snapshot.foldl (fun all c => all.merge (g.offered c.2 subject s.env)) .empty

theorem uncached_congr (hregistry : s'.registry = s.registry) (halike : g.Alike s.env s'.env)
    (subject : Subject ε) : uncached g subject s' = uncached g subject s := by
  -- what each calculator adds is the same in both environments
  have hoffered : (fun (all : ContextSet) (c : String × ι) =>
      all.merge (g.offered c.2 subject s'.env)) =
        fun all c => all.merge (g.offered c.2 subject s.env) := by
    funext all c
    rw [halike]
  unfold uncached
  rw [hregistry, hoffered]

/-- A passive calculator adds what it offers, and touches nothing but the environment. -/
theorem run_passive (hg : g.Passive) (depth : Nat) (calculator : ι) (subject : Subject ε)
    (s : System ι κ ε) :
    ∃ ending e' out, g.Alike s.env e' ∧
      ((g.calculator calculator).calculate subject).run (answer g depth) s .empty =
        some (ending, { s with env := e' }, out) ∧
      ∀ merged, ending.keep merged out = merged.merge (g.offered calculator subject s.env) := by
  obtain ⟨⟨ending, e', out⟩, halone⟩ := hg.alone calculator subject s.env
  refine ⟨ending, e', out, hg.traceless calculator subject s.env _ halone,
    Routine.run_of_alone halone, ?_⟩
  intro merged
  unfold Guests.offered
  rw [halone]
  cases ending with
  | finished => rfl
  | panicked => rfl

/-- A sweep of passive calculators merges what each of them offers in the environment that
    the sweep began with. -/
theorem sweep_passive (hg : g.Passive) (depth number : Nat) (subject : Subject ε)
    (cs : List (String × ι)) (s : System ι κ ε) (merged : ContextSet) :
    ∃ s', sweep g (answer g depth) number subject cs s merged =
        some (s', cs.foldl (fun all c => all.merge (g.offered c.2 subject s.env)) merged) ∧
      s'.cache = s.cache ∧ s'.registry = s.registry ∧ g.Alike s.env s'.env := by
  -- on the calculators to come; each may move the environment, but only to one alike
  induction cs generalizing s merged with
  | nil => exact ⟨s, rfl, rfl, rfl, .refl _⟩
  | cons c cs ih =>
    obtain ⟨ending, e', out, halike, hrun, hkeep⟩ :=
      run_passive hg depth c.2 subject (s.note (.consulted number c.1))
    have halike : g.Alike s.env e' := halike
    obtain ⟨s', hsweep, hcache, hregistry, halike'⟩ :=
      ih { s.note (.consulted number c.1) with env := e' } (ending.keep merged out)
    refine ⟨s', ?_, hcache, hregistry, halike.trans halike'⟩
    simp only [sweep, hrun, hsweep, List.foldl_cons]
    rw [hkeep]
    simp only [halike _ subject]
    rfl

/-- A query of passive calculators is answered, by a good set or by what is offered now. -/
theorem query_passive (hg : g.Passive) (depth : Nat) (hv : s.cache.Valid)
    (subject : Subject ε) :
    ∃ contexts s', query g (answer g depth) subject s = some (contexts, s') ∧
      Queried subject contexts s s' ∧ g.Alike s.env s'.env ∧
      (s.cache.Keeps subject.id contexts ∨ contexts = uncached g subject s) := by
  cases harrive : s.arrive subject.id with
  | mk arrival s₁ =>
    cases arrival with
    | kept contexts =>
      obtain ⟨-, rfl⟩ := arrive_kept harrive
      exact ⟨contexts, _, query_of_kept harrive, queried_of_kept hv harrive, .refl _,
        Or.inl (kept_of_arrive harrive)⟩
    | due f =>
      obtain ⟨s₂, hsweep, hcache, hregistry, halike⟩ :=
        sweep_passive hg depth f.number subject s₁.registry.snapshot s₁ .empty
      obtain ⟨-, -, rfl⟩ := arrive_due harrive
      exact ⟨_, _, query_of_due harrive hsweep, queried_of_due hv harrive hcache hregistry _,
        halike, Or.inr rfl⟩

end System

end PermissionContexts
