import PermissionContexts.Proofs.System

/-! # What is added to the journal

    Whatever a system is asked for, it only adds to its journal, and what it adds to
    sweeps and dispatches has a number that its clock had not given before. So the
    happenings of a sweep can be told from those of the sweeps inside it.

    Main statement: `orderly_answer`. The proof follows the nesting of requests: an
    answer is orderly if the answers that it is made of are.
-/

namespace PermissionContexts

/-- The number of the sweep or dispatch that a happening belongs to. -/
def Happening.number? : Happening → Option Nat
  | .sweepBegan sweep _ _ _ => some sweep
  | .consulted sweep _ => some sweep
  | .sweepEnded sweep _ => some sweep
  | .dispatchBegan dispatch _ => some dispatch
  | .notified dispatch _ => some dispatch
  | .sent dispatch _ => some dispatch
  | _ => none

namespace System

variable {ι κ ε : Type} {g : Guests ι κ ε} {answer : Answering ι κ ε} {n : Nat}
  {s s' s'' : System ι κ ε}

/-- `s'` comes after `s`, and nothing was added meanwhile to a sweep or dispatch with a
    number below `n`. -/
structure Since (n : Nat) (s s' : System ι κ ε) : Prop where
  /-- The clock has not gone back. -/
  clock : s.clock ≤ s'.clock
  /-- The journal has grown by happenings of new numbers. -/
  noted : ∃ noted, s'.journal = noted ++ s.journal ∧
    ∀ h ∈ noted, ∀ k, h.number? = some k → n ≤ k

theorem Since.refl (n : Nat) (s : System ι κ ε) : Since n s s :=
  ⟨Nat.le_refl _, [], rfl, by simp⟩

theorem Since.trans (h : Since n s s') (h' : Since n s' s'') : Since n s s'' := by
  obtain ⟨noted, hj, hn⟩ := h.noted
  obtain ⟨noted', hj', hn'⟩ := h'.noted
  refine ⟨Nat.le_trans h.clock h'.clock, noted' ++ noted, ?_, ?_⟩
  · rw [hj', hj, List.append_assoc]
  · intro x hx
    rcases List.mem_append.mp hx with hx | hx
    · exact hn' x hx
    · exact hn x hx

/-- One happening was added. -/
theorem since_one {h : Happening} (hclock : s.clock ≤ s'.clock)
    (hj : s'.journal = h :: s.journal) (hn : ∀ k, h.number? = some k → n ≤ k) :
    Since n s s' := by
  refine ⟨hclock, [h], hj, ?_⟩
  intro x hx
  rw [List.mem_singleton.mp hx]
  exact hn

theorem since_note {h : Happening} (hn : ∀ k, h.number? = some k → n ≤ k) :
    Since n s (s.note h) :=
  since_one (Nat.le_refl _) rfl hn

/-- Nothing was added. -/
theorem since_silent (hclock : s'.clock = s.clock) (hj : s'.journal = s.journal) :
    Since n s s' :=
  ⟨Nat.le_of_eq hclock.symm, [], hj, by simp⟩

/-- Answers add nothing to what was numbered before. -/
def Orderly (answer : Answering ι κ ε) : Prop :=
  ∀ (r : Request ι κ ε) (s : System ι κ ε) (a : r.Reply) (s' : System ι κ ε),
    answer r s = some (a, s') → ∀ n ≤ s.clock, Since n s s'

/-! ### What is made of orderly answers -/

theorem since_run (h : Orderly answer) {r : Routine ι κ ε} {out out' : ContextSet} {e : Ending}
    (hr : r.run answer s out = some (e, s', out')) (hn : n ≤ s.clock) : Since n s s' := by
  induction r generalizing s out with
  | done =>
    simp only [Routine.run, Option.some.injEq, Prod.mk.injEq] at hr
    obtain ⟨-, rfl, -⟩ := hr
    exact .refl n s
  | panic =>
    simp only [Routine.run, Option.some.injEq, Prod.mk.injEq] at hr
    obtain ⟨-, rfl, -⟩ := hr
    exact .refl n s
  | offer key value next ih => exact ih hr hn
  | offerAll contexts next ih => exact ih hr hn
  | ask r next ih =>
    simp only [Routine.run] at hr
    cases ha : answer r s with
    | none => simp [ha] at hr
    | some p =>
      obtain ⟨a, s₁⟩ := p
      simp only [ha] at hr
      -- the clock has not gone back, so the rest of the routine meets the same bound
      have hfirst : Since n s s₁ := h r s a s₁ ha n hn
      exact hfirst.trans (ih a hr (Nat.le_trans hn hfirst.clock))

theorem since_sweep (h : Orderly answer) {number : Nat} {subject : Subject ε}
    {cs : List (String × ι)} {merged contexts : ContextSet}
    (hs : sweep g answer number subject cs s merged = some (s', contexts))
    (hnumber : n ≤ number) (hn : n ≤ s.clock) : Since n s s' := by
  induction cs generalizing s merged with
  | nil =>
    simp only [sweep, Option.some.injEq, Prod.mk.injEq] at hs
    obtain ⟨rfl, -⟩ := hs
    exact .refl n s
  | cons c cs ih =>
    simp only [sweep] at hs
    split at hs
    · next e s₁ offered hc =>
      have hcall : Since n s (s.note (.consulted number c.1)) := by
        refine since_note fun k hk => ?_
        obtain rfl := Option.some.inj hk
        exact hnumber
      have hrun : Since n s s₁ := hcall.trans (since_run h hc hn)
      exact hrun.trans (ih hs (Nat.le_trans hn hrun.clock))
    · simp at hs

theorem since_query (h : Orderly answer) {subject : Subject ε} {contexts : ContextSet}
    (hq : query g answer subject s = some (contexts, s')) (hn : n ≤ s.clock) : Since n s s' := by
  simp only [query] at hq
  split at hq
  · next kept s₁ harrive =>
    obtain ⟨-, rfl⟩ := Prod.mk.inj (Option.some.inj hq)
    obtain ⟨-, rfl⟩ := arrive_kept harrive
    refine ⟨Nat.le_refl _, [_, _], rfl, ?_⟩
    simp [Happening.number?]
  · next f s₁ harrive =>
    split at hq
    · next s₂ swept hsweep =>
      obtain ⟨-, rfl⟩ := Prod.mk.inj (Option.some.inj hq)
      obtain ⟨-, hf, hs₁⟩ := arrive_due harrive
      -- the sweep is numbered by the clock that the query met
      have hnumber : n ≤ f.number := by rwa [hf]
      have hbegan : Since n s s₁ := by
        rw [hs₁]
        exact ⟨Nat.le_succ _, [_, _], rfl, by simpa [Happening.number?]⟩
      have hswept : Since n s s₂ :=
        hbegan.trans (since_sweep h hsweep hnumber (Nat.le_trans hn hbegan.clock))
      refine hswept.trans (since_one (Nat.le_refl _) rfl fun k hk => ?_)
      obtain rfl := Option.some.inj hk
      exact hnumber
    · simp at hq

theorem since_dispatch (h : Orderly answer) {number : Nat} {event : HostEvent}
    {ls : List (Listener κ)} (hd : dispatch g answer number event ls s = some s')
    (hnumber : n ≤ number) (hn : n ≤ s.clock) : Since n s s' := by
  induction ls generalizing s with
  | nil =>
    obtain rfl := Option.some.inj hd
    exact .refl n s
  | cons l ls ih =>
    simp only [dispatch] at hd
    split at hd
    · next e s₁ offered hl =>
      have hcall : Since n s (s.note (.notified number l.name)) := by
        refine since_note fun k hk => ?_
        obtain rfl := Option.some.inj hk
        exact hnumber
      have hrun : Since n s s₁ := hcall.trans (since_run h hl hn)
      exact hrun.trans (ih hd (Nat.le_trans hn hrun.clock))
    · simp at hd

theorem since_publish (h : Orderly answer) {event : HostEvent}
    (hp : publish g answer event s = some s') (hn : n ≤ s.clock) : Since n s s' := by
  simp only [publish] at hp
  split at hp
  · next ended hdispatch =>
    obtain rfl := Option.some.inj hp
    -- all that is noted of this dispatch has the number that the clock gave it
    have hbegan : Since n s (s.announce event) := by
      refine since_one (Nat.le_succ _) rfl fun k hk => ?_
      obtain rfl := Option.some.inj hk
      exact hn
    have hended : Since n s ended :=
      hbegan.trans (since_dispatch h hdispatch hn (Nat.le_trans hn hbegan.clock))
    refine hended.trans (since_one (Nat.le_refl _) rfl fun k hk => ?_)
    obtain rfl := Option.some.inj hk
    exact hn
  · simp at hp

/-- Requests that need no other answer belong to no sweep and no dispatch. -/
theorem since_at_once {r : Request ι κ ε} {a : r.Reply} (hr : System.answer g 0 r s = some (a, s')) :
    Since n s s' := by
  rcases at_once_cases hr with ⟨id, rfl⟩ | ⟨id, rfl⟩ | rfl | ⟨registry, bus, env, rfl⟩
  · exact since_one (Nat.le_refl _) rfl (by simp [Happening.number?])
  · exact since_one (Nat.le_refl _) rfl (by simp [Happening.number?])
  · exact since_one (Nat.le_refl _) rfl (by simp [Happening.number?])
  · exact since_silent rfl rfl

/-- **Answers are orderly**, however deep requests are nested. -/
theorem orderly_answer (g : Guests ι κ ε) (depth : Nat) : Orderly (System.answer g depth) := by
  induction depth with
  | zero =>
    intro r s a s' ha n _
    exact since_at_once ha
  | succ depth ih =>
    -- sweeps and dispatches are made of answers with less depth; the others need none
    intro r s a s' ha n hn
    cases r with
    | query subject => exact since_query ih ha hn
    | publish event =>
      simp only [System.answer, Option.map_eq_some_iff, Prod.mk.injEq] at ha
      obtain ⟨s₁, hp, -, rfl⟩ := ha
      exact since_publish ih hp hn
    | _ =>
      rw [answer_zero (by simp) (by simp)] at ha
      exact since_at_once ha

end System

end PermissionContexts
