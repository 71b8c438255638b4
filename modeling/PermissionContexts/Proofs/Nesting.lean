import PermissionContexts.Proofs.Machine
import PermissionContexts.Proofs.System

/-! # Nested requests

    Guests are called in sweeps and dispatches, and may ask for further sweeps and dispatches
    while they are at it. How deep a run is **nested** at some moment is the number of frames
    of the machine at this moment.

    That a run is nested within a depth (`NestsWithin`) is said of the machine alone. Such a
    run comes to its end: routines are finite, so is what a sweep or a dispatch has yet to
    call, and nothing is set up above the depth.

    Main statement: `exists_run_of_nestsWithin`, with `exists_publish_of_nestsWithin` for
    events.
-/

namespace PermissionContexts

namespace Machine

variable {ι κ ε : Type} {g : Guests ι κ ε} {answer : Answering ι κ ε} {m m' : Machine ι κ ε}
  {depth n : Nat}

/-- From this moment on, never more than `depth` sweeps and dispatches are under way. -/
def NestsWithin (g : Guests ι κ ε) (depth : Nat) (m : Machine ι κ ε) : Prop :=
  ∀ m', Reaches g m m' → m'.frames.length ≤ depth

theorem NestsWithin.reaches (h : NestsWithin g depth m) (hr : Reaches g m m') :
    NestsWithin g depth m' :=
  fun m'' hr' => h m'' (hr.trans hr')

theorem NestsWithin.step (h : NestsWithin g depth m) (hs : m.step g = some m') :
    NestsWithin g depth m' :=
  h.reaches (.single hs)

theorem NestsWithin.length_le (h : NestsWithin g depth m) : m.frames.length ≤ depth :=
  h m .refl

/-! ### What nests within a depth has an outcome -/

/-- Every request is answered that comes while `n` sweeps and dispatches are under way, if
    the run nests within `depth` from there. -/
def Answered (g : Guests ι κ ε) (answer : Answering ι κ ε) (depth n : Nat) : Prop :=
  ∀ (r : Request ι κ ε) (s : System ι κ ε) (next : r.Reply → Routine ι κ ε) (out : ContextSet)
    (frames : List (Frame ι κ ε)), frames.length = n →
      NestsWithin g depth ⟨s, .ask r next, out, frames⟩ → ∃ p, answer r s = some p

theorem exists_run (hagrees : Agrees g answer) (hanswered : Answered g answer depth n)
    (r : Routine ι κ ε) {s : System ι κ ε} {out : ContextSet} {frames : List (Frame ι κ ε)}
    (hframes : frames.length = n) (h : NestsWithin g depth ⟨s, r, out, frames⟩) :
    ∃ p, r.run answer s out = some p := by
  induction r generalizing s out with
  | done => exact ⟨_, rfl⟩
  | panic => exact ⟨_, rfl⟩
  | offer key value next ih => exact ih (h.step rfl)
  | offerAll contexts next ih => exact ih (h.step rfl)
  | ask r next ih =>
    obtain ⟨⟨a, s₁⟩, ha⟩ := hanswered r s next out frames hframes h
    -- the machine goes on with the answer
    obtain ⟨p, hp⟩ := ih a (h.reaches (hagrees r s a s₁ ha next out frames))
    exact ⟨p, by simp only [Routine.run, ha, hp]⟩

/-- A calculator of a sweep has ended, and the rest of the sweep has an outcome. -/
theorem exists_sweep (hagrees : Agrees g answer) (hanswered : Answered g answer depth (n + 1))
    {f : Flight} {subject : Subject ε} (rest : List (String × ι)) {s : System ι κ ε}
    {merged out : ContextSet} {e : Ending} {next : ContextSet → Routine ι κ ε}
    {out' : ContextSet} {frames : List (Frame ι κ ε)} (hframes : frames.length = n)
    (h : NestsWithin g depth
      ⟨s, e.routine, out, .sweep f subject rest merged next out' :: frames⟩) :
    ∃ p, System.sweep g answer f.number subject rest s (e.keep merged out) = some p := by
  induction rest generalizing s merged out e with
  | nil => exact ⟨_, rfl⟩
  | cons c cs ih =>
    have hcalled : NestsWithin g depth ⟨s.note (.consulted f.number c.1),
        (g.calculator c.2).calculate subject, .empty,
        .sweep f subject cs (e.keep merged out) next out' :: frames⟩ :=
      h.step (by cases e <;> rfl)
    obtain ⟨⟨e₁, s₁, offered⟩, hrun⟩ :=
      exists_run hagrees hanswered _ (congrArg (· + 1) hframes) hcalled
    obtain ⟨p, hp⟩ := ih (hcalled.reaches (reaches_of_routine_run hagrees hrun _))
    exact ⟨p, by simp only [System.sweep, hrun, hp]⟩

/-- A listener of a dispatch has ended, and the rest of the dispatch has an outcome. -/
theorem exists_dispatch (hagrees : Agrees g answer)
    (hanswered : Answered g answer depth (n + 1)) {number bus : Nat} {event : HostEvent}
    (rest : List (Listener κ)) {s : System ι κ ε} {out : ContextSet} {e : Ending}
    {next : Unit → Routine ι κ ε} {out' : ContextSet} {frames : List (Frame ι κ ε)}
    (hframes : frames.length = n)
    (h : NestsWithin g depth
      ⟨s, e.routine, out, .dispatch number bus event rest next out' :: frames⟩) :
    ∃ s', System.dispatch g answer number event rest s = some s' := by
  induction rest generalizing s out e with
  | nil => exact ⟨s, rfl⟩
  | cons l ls ih =>
    have hcalled : NestsWithin g depth ⟨s.note (.notified number l.name), g.handle l.body event,
        .empty, .dispatch number bus event ls next out' :: frames⟩ :=
      h.step (by cases e <;> rfl)
    obtain ⟨⟨e₁, s₁, offered⟩, hrun⟩ :=
      exists_run hagrees hanswered _ (congrArg (· + 1) hframes) hcalled
    obtain ⟨s', hs'⟩ := ih (hcalled.reaches (reaches_of_routine_run hagrees hrun _))
    exact ⟨s', by simp only [System.dispatch, hrun, hs']⟩

/-- A query sets up a frame, if a sweep is due, and what the calculators ask for is asked on
    top of it. -/
theorem exists_query (hagrees : Agrees g answer)
    (hanswered : n + 1 ≤ depth → Answered g answer depth (n + 1)) {subject : Subject ε}
    {s : System ι κ ε} {next : ContextSet → Routine ι κ ε} {out : ContextSet}
    {frames : List (Frame ι κ ε)} (hframes : frames.length = n)
    (h : NestsWithin g depth ⟨s, .ask (.query subject) next, out, frames⟩) :
    ∃ p, System.query g answer subject s = some p := by
  cases harrive : s.arrive subject.id with
  | mk arrival s₁ =>
    cases arrival with
    | kept contexts => exact ⟨_, System.query_of_kept harrive⟩
    | due f =>
      have hset : NestsWithin g depth ⟨s₁, Ending.finished.routine, .empty,
          .sweep f subject s₁.registry.snapshot .empty next out :: frames⟩ := by
        refine h.step ?_
        simp only [step, serve, harrive]
        rfl
      have hle : n + 1 ≤ depth := hframes ▸ hset.length_le
      obtain ⟨⟨s₂, contexts⟩, hsweep⟩ := exists_sweep hagrees (hanswered hle) _ hframes hset
      rw [Ending.keep_empty] at hsweep
      exact ⟨_, System.query_of_due harrive hsweep⟩

/-- An event sets up a frame, and what the listeners ask for is asked on top of it. -/
theorem exists_publish (hagrees : Agrees g answer)
    (hanswered : n + 1 ≤ depth → Answered g answer depth (n + 1)) {event : HostEvent}
    {s : System ι κ ε} {next : Unit → Routine ι κ ε} {out : ContextSet}
    {frames : List (Frame ι κ ε)} (hframes : frames.length = n)
    (h : NestsWithin g depth ⟨s, .ask (.publish event) next, out, frames⟩) :
    ∃ s', System.publish g answer event s = some s' := by
  have hset : NestsWithin g depth ⟨s.announce event, Ending.finished.routine, .empty,
      .dispatch s.clock s.bus.number event (s.announce event).bus.listeners next out :: frames⟩ :=
    h.step rfl
  have hle : n + 1 ≤ depth := hframes ▸ hset.length_le
  obtain ⟨ended, hdispatch⟩ := exists_dispatch hagrees (hanswered hle) _ hframes hset
  refine ⟨ended.conclude s.clock s.bus.number event, ?_⟩
  simp only [System.publish, hdispatch]

/-- What is asked for one frame deeper can do with one less of depth. -/
theorem answered_succ {left : Nat}
    (hdeeper : n + 1 ≤ depth → Answered g (System.answer g left) depth (n + 1)) :
    Answered g (System.answer g (left + 1)) depth n := by
  intro r s next out frames hframes h
  cases r with
  | query subject => exact exists_query (agrees_answer g left) hdeeper hframes h
  | publish event =>
    obtain ⟨s', hs'⟩ := exists_publish (agrees_answer g left) hdeeper hframes h
    exact ⟨((), s'), by simp only [System.answer, hs', Option.map_some]⟩
  | _ => exact ⟨_, rfl⟩

/-- Requests are answered that come so deep in a run that the depth left is enough. -/
theorem answered_answer (g : Guests ι κ ε) {left : Nat} (hleft : depth ≤ n + left) :
    Answered g (System.answer g (left + 1)) depth n := by
  -- on the depth that is left: what a sweep or a dispatch asks for comes one deeper
  induction left generalizing n with
  | zero =>
    have hnone : ¬ n + 1 ≤ depth := by omega
    exact answered_succ fun hle => absurd hle hnone
  | succ left ih =>
    have hdeeper : depth ≤ n + 1 + left := by omega
    exact answered_succ fun _ => ih hdeeper

/-- **Finitely nested runs end**: a run that nests within a depth has an outcome. -/
theorem exists_run_of_nestsWithin {r : Routine ι κ ε} {s : System ι κ ε}
    (h : NestsWithin g depth (start r s)) : ∃ p, s.run g (depth + 1) r = some p :=
  exists_run (agrees_answer g (depth + 1)) (answered_answer g (Nat.le_add_left ..)) r rfl h

/-- An event is dispatched, if that nests within a depth. -/
theorem exists_publish_of_nestsWithin {event : HostEvent} {s : System ι κ ε}
    (h : NestsWithin g depth (start (.ask (.publish event) fun _ => .done) s)) :
    ∃ s', System.publish g (System.answer g depth) event s = some s' := by
  refine exists_publish (agrees_answer g depth) ?_ rfl h
  intro hle
  obtain ⟨left, rfl⟩ : ∃ left, depth = left + 1 := ⟨depth - 1, by omega⟩
  exact answered_answer g (by omega)

/-! ### Nesting by computation -/

/-- Whether the run ends after no more than `steps` steps and nests within `depth` on the
    way. -/
def endsWithin (g : Guests ι κ ε) (depth : Nat) : Nat → Machine ι κ ε → Bool
  | 0, _ => false
  | steps + 1, m =>
    m.frames.length ≤ depth && match m.step g with
      | none => true
      | some m' => endsWithin g depth steps m'

theorem nestsWithin_of_endsWithin {steps : Nat} (h : endsWithin g depth steps m = true) :
    NestsWithin g depth m := by
  induction steps generalizing m with
  | zero => exact absurd h (by simp [endsWithin])
  | succ steps ih =>
    intro m' hr
    simp only [endsWithin, Bool.and_eq_true, decide_eq_true_eq] at h
    rcases Relation.ReflTransGen.cases_head hr with rfl | ⟨m₁, hs, hrest⟩
    · exact h.1
    · rw [hs] at h
      exact ih h.2 m' hrest

end Machine

end PermissionContexts
