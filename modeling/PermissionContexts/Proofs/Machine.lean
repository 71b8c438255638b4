import Mathlib.Logic.Relation
import PermissionContexts.Engine.System

/-! # Runs in small steps

    `System.run` says how a run ends. What holds in the middle of a run, while sweeps
    and dispatches are under way, is said of the **machine** of this module. It makes
    the same run in small steps:

    * the **routine** is what is being run now,
    * the **frames** are the sweeps and dispatches that wait for it, the innermost
      first, each with what its caller does with the answer.

    Main statement: `reaches_of_run`, by which every run goes through the states of
    the machine.
-/

namespace PermissionContexts

/-! ### States -/

/-- A sweep or a dispatch that waits for what it called. Both keep what their caller
    does next, and what the caller has offered so far. -/
inductive Frame (ι κ ε : Type) where
  /-- A sweep that has yet to call `rest` and has merged `merged`. -/
  | sweep (flight : Flight) (subject : Subject ε) (rest : List (String × ι))
      (merged : ContextSet) (next : ContextSet → Routine ι κ ε) (out : ContextSet)
  /-- A dispatch that has yet to call `rest`. -/
  | dispatch (number bus : Nat) (event : HostEvent) (rest : List (Listener κ))
      (next : Unit → Routine ι κ ε) (out : ContextSet)

/-- A moment of a run. -/
structure Machine (ι κ ε : Type) where
  /-- The system as it is now. -/
  system : System ι κ ε
  /-- What is being run. -/
  routine : Routine ι κ ε
  /-- What it has offered. -/
  out : ContextSet
  /-- What waits for it, the innermost first. -/
  frames : List (Frame ι κ ε)

/-- The routine that is nothing but its end. -/
def Ending.routine {ι κ ε : Type} : Ending → Routine ι κ ε
  | .finished => .done
  | .panicked => .panic

/-- The empty result is kept empty by what offers nothing. -/
theorem Ending.keep_empty (e : Ending) : e.keep .empty .empty = .empty := by
  cases e with
  | finished => rfl
  | panicked => rfl

/-- The sweep that a frame stands for. -/
def Frame.flight? {ι κ ε : Type} : Frame ι κ ε → Option Flight
  | .sweep f _ _ _ _ _ => some f
  | .dispatch _ _ _ _ _ _ => none

namespace Machine

variable {ι κ ε : Type}

/-- The sweeps under way, the innermost first. -/
def flights (m : Machine ι κ ε) : List Flight :=
  m.frames.filterMap Frame.flight?

/-- The moment at which a routine begins to run on a system. -/
def start (r : Routine ι κ ε) (s : System ι κ ε) : Machine ι κ ε :=
  ⟨s, r, .empty, []⟩

/-! ### Steps -/

/-- A routine has ended, and what waits for it goes on: with the next calculator or
    listener, or, when there is no more, with the answer to its caller. -/
def resume (g : Guests ι κ ε) (e : Ending) (m : Machine ι κ ε) : Option (Machine ι κ ε) :=
  match m.frames with
  | [] => none
  | .sweep f _ [] merged next out :: frames =>
    some ⟨m.system.land f (e.keep merged m.out), next (e.keep merged m.out), out, frames⟩
  | .sweep f subject (c :: cs) merged next out :: frames =>
    some ⟨m.system.note (.consulted f.number c.1), (g.calculator c.2).calculate subject, .empty,
      .sweep f subject cs (e.keep merged m.out) next out :: frames⟩
  | .dispatch number bus event [] next out :: frames =>
    some ⟨m.system.conclude number bus event, next (), out, frames⟩
  | .dispatch number bus event (l :: ls) next out :: frames =>
    some ⟨m.system.note (.notified number l.name), g.handle l.body event, .empty,
      .dispatch number bus event ls next out :: frames⟩

/-- A request is answered at once, or a frame is set up for it. A new frame goes on as
    if something that offered nothing had just ended. -/
def serve (g : Guests ι κ ε) (m : Machine ι κ ε) :
    (r : Request ι κ ε) → (r.Reply → Routine ι κ ε) → Option (Machine ι κ ε)
  | .query subject, next =>
    match m.system.arrive subject.id with
    | (.kept contexts, s) => some { m with system := s, routine := next contexts }
    | (.due f, s) =>
      some ⟨s, .done, .empty, .sweep f subject s.registry.snapshot .empty next m.out :: m.frames⟩
  | .publish e, next =>
    some ⟨m.system.announce e, .done, .empty, .dispatch m.system.clock m.system.bus.number e
      (m.system.announce e).bus.listeners next m.out :: m.frames⟩
  | r, next =>
    (System.answer g 0 r m.system).map fun a => { m with system := a.2, routine := next a.1 }

/-- One step; none is left when the whole run has ended. -/
def step (g : Guests ι κ ε) (m : Machine ι κ ε) : Option (Machine ι κ ε) :=
  match m.routine with
  | .done => m.resume g .finished
  | .panic => m.resume g .panicked
  | .offer key value next => some { m with routine := next, out := m.out.add key value }
  | .offerAll contexts next => some { m with routine := next, out := m.out.addAll contexts }
  | .ask r next => m.serve g r next

/-- `m'` is `m` or comes after it. -/
def Reaches (g : Guests ι κ ε) : Machine ι κ ε → Machine ι κ ε → Prop :=
  Relation.ReflTransGen fun m m' => m.step g = some m'

/-- A moment of some run on a new system. -/
def Reachable (g : Guests ι κ ε) (m : Machine ι κ ε) : Prop :=
  ∃ capacity env r, Reaches g (start r (.new capacity env)) m

/-! ### The machine makes the runs -/

variable {g : Guests ι κ ε} {answer : Answering ι κ ε} {m m' : Machine ι κ ε}

/-- The machine answers requests as `answer` does, whatever waits for the answer. -/
def Agrees (g : Guests ι κ ε) (answer : Answering ι κ ε) : Prop :=
  ∀ (r : Request ι κ ε) (s : System ι κ ε) (a : r.Reply) (s' : System ι κ ε),
    answer r s = some (a, s') → ∀ (next : r.Reply → Routine ι κ ε) out frames,
      Reaches g ⟨s, .ask r next, out, frames⟩ ⟨s', next a, out, frames⟩

theorem reaches_of_routine_run (h : Agrees g answer) {r : Routine ι κ ε}
    {s s' : System ι κ ε} {out out' : ContextSet} {e : Ending}
    (hr : r.run answer s out = some (e, s', out')) (frames : List (Frame ι κ ε)) :
    Reaches g ⟨s, r, out, frames⟩ ⟨s', e.routine, out', frames⟩ := by
  -- the induction follows the routine; its requests are answered as `h` tells
  induction r generalizing s out with
  | done =>
    simp only [Routine.run, Option.some.injEq, Prod.mk.injEq] at hr
    obtain ⟨rfl, rfl, rfl⟩ := hr
    exact .refl
  | panic =>
    simp only [Routine.run, Option.some.injEq, Prod.mk.injEq] at hr
    obtain ⟨rfl, rfl, rfl⟩ := hr
    exact .refl
  | offer key value next ih => exact .head rfl (ih hr)
  | offerAll contexts next ih => exact .head rfl (ih hr)
  | ask r next ih =>
    simp only [Routine.run] at hr
    cases ha : answer r s with
    | none => simp [ha] at hr
    | some p =>
      obtain ⟨a, s₁⟩ := p
      simp only [ha] at hr
      exact (h r s a s₁ ha next out frames).trans (ih a hr)

/-- A calculator of a sweep has ended, and the machine makes the rest of the sweep. -/
theorem reaches_of_sweep (h : Agrees g answer) {f : Flight} {subject : Subject ε}
    {rest : List (String × ι)} {s s' : System ι κ ε} {merged out contexts : ContextSet}
    {e : Ending}
    (hs : System.sweep g answer f.number subject rest s (e.keep merged out) = some (s', contexts))
    (next : ContextSet → Routine ι κ ε) (out' : ContextSet) (frames : List (Frame ι κ ε)) :
    Reaches g ⟨s, e.routine, out, .sweep f subject rest merged next out' :: frames⟩
      ⟨s'.land f contexts, next contexts, out', frames⟩ := by
  -- on the calculators to come: each runs on top of the frame that waits for it
  induction rest generalizing s merged out e with
  | nil =>
    simp only [System.sweep, Option.some.injEq, Prod.mk.injEq] at hs
    obtain ⟨rfl, rfl⟩ := hs
    cases e <;> exact .single rfl
  | cons c cs ih =>
    simp only [System.sweep] at hs
    split at hs
    · next e₁ s₁ offered hc =>
      have hcall := reaches_of_routine_run h hc
        (.sweep f subject cs (e.keep merged out) next out' :: frames)
      refine .head ?_ (hcall.trans (ih hs))
      cases e <;> rfl
    · simp at hs

/-- A listener of a dispatch has ended, and the machine makes the rest of the
    dispatch. -/
theorem reaches_of_dispatch (h : Agrees g answer) {number : Nat} {event : HostEvent}
    {rest : List (Listener κ)} {s s' : System ι κ ε}
    (hs : System.dispatch g answer number event rest s = some s') (e : Ending)
    (out : ContextSet) (bus : Nat) (next : Unit → Routine ι κ ε) (out' : ContextSet)
    (frames : List (Frame ι κ ε)) :
    Reaches g ⟨s, e.routine, out, .dispatch number bus event rest next out' :: frames⟩
      ⟨s'.conclude number bus event, next (), out', frames⟩ := by
  induction rest generalizing s e out with
  | nil =>
    simp only [System.dispatch, Option.some.injEq] at hs
    subst hs
    cases e <;> exact .single rfl
  | cons l ls ih =>
    simp only [System.dispatch] at hs
    split at hs
    · next e₁ s₁ offered hl =>
      have hcall := reaches_of_routine_run h hl
        (.dispatch number bus event ls next out' :: frames)
      refine .head ?_ (hcall.trans (ih hs e₁ offered))
      cases e <;> rfl
    · simp at hs

theorem agrees_query (h : Agrees g answer) {subject : Subject ε} {s s' : System ι κ ε}
    {contexts : ContextSet} (hq : System.query g answer subject s = some (contexts, s'))
    (next : ContextSet → Routine ι κ ε) (out : ContextSet) (frames : List (Frame ι κ ε)) :
    Reaches g ⟨s, .ask (.query subject) next, out, frames⟩ ⟨s', next contexts, out, frames⟩ := by
  unfold System.query at hq
  split at hq
  · next kept s₁ harrive =>
    simp only [Option.some.injEq, Prod.mk.injEq] at hq
    obtain ⟨rfl, rfl⟩ := hq
    refine .single ?_
    simp only [step, serve, harrive]
  · next f s₁ harrive =>
    split at hq
    · next s₂ swept hsweep =>
      simp only [Option.some.injEq, Prod.mk.injEq] at hq
      obtain ⟨rfl, rfl⟩ := hq
      -- a new frame goes on as if an empty calculator had just ended
      have hset : System.sweep g answer f.number subject s₁.registry.snapshot s₁
          (Ending.finished.keep .empty .empty) = some (s₂, swept) := by
        rw [Ending.keep_empty]
        exact hsweep
      refine .head ?_ (reaches_of_sweep h hset next out frames)
      simp only [step, serve, harrive]
      rfl
    · simp at hq

theorem agrees_publish (h : Agrees g answer) {event : HostEvent} {s s' : System ι κ ε}
    (hp : System.publish g answer event s = some s') (next : Unit → Routine ι κ ε)
    (out : ContextSet) (frames : List (Frame ι κ ε)) :
    Reaches g ⟨s, .ask (.publish event) next, out, frames⟩ ⟨s', next (), out, frames⟩ := by
  simp only [System.publish] at hp
  split at hp
  · next ended hdispatch =>
    simp only [Option.some.injEq] at hp
    subst hp
    exact .head rfl
      (reaches_of_dispatch h hdispatch .finished .empty s.bus.number next out frames)
  · simp at hp

/-- Requests that need no other answer are answered in one step. -/
theorem agrees_at_once {r : Request ι κ ε} {s s' : System ι κ ε} {a : r.Reply}
    (hr : System.answer g 0 r s = some (a, s')) (next : r.Reply → Routine ι κ ε)
    (out : ContextSet) (frames : List (Frame ι κ ε)) :
    Reaches g ⟨s, .ask r next, out, frames⟩ ⟨s', next a, out, frames⟩ := by
  refine .single ?_
  cases r with
  | query subject => simp [System.answer] at hr
  | publish event => simp [System.answer] at hr
  | _ => simp only [step, serve, hr, Option.map_some]

theorem agrees_answer (g : Guests ι κ ε) (depth : Nat) : Agrees g (System.answer g depth) := by
  -- on the depth: what sweeps and dispatches ask for is answered with less of it
  induction depth with
  | zero =>
    intro r s a s' ha next out frames
    exact agrees_at_once ha next out frames
  | succ depth ih =>
    intro r s a s' ha next out frames
    cases r with
    | query subject => exact agrees_query ih ha next out frames
    | publish event =>
      simp only [System.answer, Option.map_eq_some_iff, Prod.mk.injEq] at ha
      obtain ⟨s₁, hp, -, rfl⟩ := ha
      exact agrees_publish ih hp next out frames
    | _ => exact agrees_at_once ha next out frames

/-- **Runs go through the machine**: a run of the system ends as the machine does that
    starts where the run starts. -/
theorem reaches_of_run {depth : Nat} {r : Routine ι κ ε} {s s' : System ι κ ε}
    {out : ContextSet} {e : Ending} (h : s.run g depth r = some (e, s', out)) :
    Reaches g (start r s) ⟨s', e.routine, out, []⟩ :=
  reaches_of_routine_run (agrees_answer g depth) h []

end Machine

end PermissionContexts
