import PermissionContexts.Proofs.System

/-! # What reaches the mailboxes

    Mailboxes are filled when dispatches end, and the journal tells of each dispatch that has
    ended (`transmissions`). Whatever guests do that **leave mail alone**, a mailbox that there
    was before holds afterwards what was transmitted on its bus meanwhile, each event once
    and in this order (`Mailed`).

    Main statement: `mailing_answer`. The proof follows the nesting of requests, as that of
    `orderly_answer` does.
-/

namespace PermissionContexts

variable {ι κ ε : Type}

/-! ### Transmissions -/

/-- The dispatch that has ended, with its event. -/
def Happening.sent? : Happening → Option (Nat × HostEvent)
  | .sent dispatch event => some (dispatch, event)
  | _ => none

/-- The dispatches that have ended, with their events, in order. -/
def transmissions (journal : List Happening) : List (Nat × HostEvent) :=
  (journal.filterMap Happening.sent?).reverse

/-- The events that were transmitted, in order. -/
def transmitted (journal : List Happening) : List HostEvent :=
  (transmissions journal).map Prod.snd

theorem transmissions_append (late early : List Happening) :
    transmissions (late ++ early) = transmissions early ++ transmissions late := by
  simp [transmissions]

theorem transmitted_append (late early : List Happening) :
    transmitted (late ++ early) = transmitted early ++ transmitted late := by
  simp [transmitted, transmissions_append]

/-! ### Mailboxes -/

/-- What `es` do to a mailbox that are transmitted on the bus with the given number. -/
def Subscription.fill (number : Nat) (es : List HostEvent) (sub : Subscription) : Subscription :=
  if sub.bus = number then { sub with mailbox := es.foldl Mailbox.put sub.mailbox } else sub

@[simp] theorem Subscription.fill_nil (number : Nat) (sub : Subscription) :
    sub.fill number [] = sub := by
  simp [fill]

theorem Subscription.fill_fill (number : Nat) (es es' : List HostEvent) (sub : Subscription) :
    (sub.fill number es).fill number es' = sub.fill number (es ++ es') := by
  unfold fill
  split_ifs <;> simp

/-- An event is put once into each mailbox of its bus. -/
theorem Bus.subscription?_send (b : Bus κ) (number : Nat) (e : HostEvent) (i : Nat) :
    (b.send number e).subscription? i = (b.subscription? i).map (Subscription.fill number [e]) := by
  unfold subscription? send
  rw [List.getElem?_map]
  rcases b.subscriptions[i]? with _ | _ | sub <;> rfl

/-- A new mailbox has a new index. -/
theorem Bus.subscription?_subscribe (b : Bus κ) {i : Nat} {sub : Subscription}
    (h : b.subscription? i = some sub) : b.subscribe.2.subscription? i = some sub := by
  have hin : b.subscriptions[i]? = some (some sub) := Option.join_eq_some_iff.mp h
  obtain ⟨hi, -⟩ := List.getElem?_eq_some_iff.mp hin
  show (b.subscriptions ++ [some ⟨b.number, Mailbox.new b.room⟩])[i]?.join = some sub
  rw [List.getElem?_append_left hi, hin, Option.join_some]

/-! ### Guests that leave mail alone -/

/-- Whether a request neither reads a mailbox, nor gives one up, nor replaces the bus. -/
def Request.leavesMail : Request ι κ ε → Bool
  | .receive _ => false
  | .giveUp _ => false
  | .renewBus _ => false
  | _ => true

/-- All requests of a routine leave mail alone. -/
def Routine.LeavesMail : Routine ι κ ε → Prop
  | .done => True
  | .panic => True
  | .offer _ _ next => next.LeavesMail
  | .offerAll _ next => next.LeavesMail
  | .ask r next => r.leavesMail = true ∧ ∀ a, (next a).LeavesMail

/-- All guests leave mail alone. -/
structure Guests.LeaveMail (g : Guests ι κ ε) : Prop where
  /-- Calculators do. -/
  calculate : ∀ i subject, ((g.calculator i).calculate subject).LeavesMail
  /-- Listeners do. -/
  handle : ∀ listener e, (g.handle listener e).LeavesMail

namespace System

variable {g : Guests ι κ ε} {answer : Answering ι κ ε} {s s' s'' : System ι κ ε}

/-- `s'` comes after `s`, and meanwhile nothing was done to the mailboxes of `s` but to
    transmit events. -/
structure Mailed (s s' : System ι κ ε) : Prop where
  /-- The bus has not been replaced. -/
  number : s'.bus.number = s.bus.number
  /-- The mailboxes hold what the journal tells. -/
  filled : ∃ noted, s'.journal = noted ++ s.journal ∧ ∀ i sub, s.bus.subscription? i = some sub →
    s'.bus.subscription? i = some (sub.fill s.bus.number (transmitted noted))

/-- Nothing was transmitted. -/
theorem mailed_silent (noted : List Happening) (hj : s'.journal = noted ++ s.journal)
    (hnone : transmitted noted = []) (hnumber : s'.bus.number = s.bus.number)
    (hmail : ∀ i sub, s.bus.subscription? i = some sub → s'.bus.subscription? i = some sub) :
    Mailed s s' := by
  refine ⟨hnumber, noted, hj, ?_⟩
  intro i sub hsub
  rw [hnone, Subscription.fill_nil]
  exact hmail i sub hsub

/-- The bus was not touched. -/
theorem mailed_of_same_bus (noted : List Happening) (hj : s'.journal = noted ++ s.journal)
    (hnone : transmitted noted = []) (hbus : s'.bus = s.bus) : Mailed s s' := by
  refine mailed_silent noted hj hnone (congrArg Bus.number hbus) ?_
  intro i sub hsub
  rw [hbus]
  exact hsub

theorem Mailed.refl (s : System ι κ ε) : Mailed s s :=
  mailed_of_same_bus [] rfl rfl rfl

theorem Mailed.trans (h : Mailed s s') (h' : Mailed s' s'') : Mailed s s'' := by
  obtain ⟨noted, hj, hfilled⟩ := h.filled
  obtain ⟨noted', hj', hfilled'⟩ := h'.filled
  refine ⟨h'.number.trans h.number, noted' ++ noted, ?_, ?_⟩
  · rw [hj', hj, List.append_assoc]
  · intro i sub hsub
    rw [hfilled' i _ (hfilled i sub hsub), h.number, Subscription.fill_fill, transmitted_append]

/-- A dispatch ends on the bus that it began on. -/
theorem mailed_conclude (s : System ι κ ε) (number : Nat) (e : HostEvent) :
    Mailed s (s.conclude number s.bus.number e) := by
  refine ⟨rfl, [.sent number e], rfl, ?_⟩
  intro i sub hsub
  show (s.bus.send s.bus.number e).subscription? i = _
  rw [Bus.subscription?_send, hsub]
  rfl

/-- Answers to requests that leave mail alone do nothing to mailboxes but to transmit. -/
def Mailing (answer : Answering ι κ ε) : Prop :=
  ∀ (r : Request ι κ ε) (s : System ι κ ε) (a : r.Reply) (s' : System ι κ ε),
    r.leavesMail = true → answer r s = some (a, s') → Mailed s s'

/-! ### What is made of such answers -/

theorem mailed_run (h : Mailing answer) {r : Routine ι κ ε} {out out' : ContextSet} {e : Ending}
    (hr : r.LeavesMail) (hrun : r.run answer s out = some (e, s', out')) : Mailed s s' := by
  induction r generalizing s out with
  | done =>
    simp only [Routine.run, Option.some.injEq, Prod.mk.injEq] at hrun
    obtain ⟨-, rfl, -⟩ := hrun
    exact .refl s
  | panic =>
    simp only [Routine.run, Option.some.injEq, Prod.mk.injEq] at hrun
    obtain ⟨-, rfl, -⟩ := hrun
    exact .refl s
  | offer key value next ih => exact ih hr hrun
  | offerAll contexts next ih => exact ih hr hrun
  | ask r next ih =>
    simp only [Routine.run] at hrun
    cases ha : answer r s with
    | none => simp [ha] at hrun
    | some p =>
      obtain ⟨a, s₁⟩ := p
      simp only [ha] at hrun
      exact (h r s a s₁ hr.1 ha).trans (ih a (hr.2 a) hrun)

theorem mailed_sweep (h : Mailing answer) (hg : g.LeaveMail) {number : Nat}
    {subject : Subject ε} {cs : List (String × ι)} {merged contexts : ContextSet}
    (hs : sweep g answer number subject cs s merged = some (s', contexts)) : Mailed s s' := by
  induction cs generalizing s merged with
  | nil =>
    simp only [sweep, Option.some.injEq, Prod.mk.injEq] at hs
    obtain ⟨rfl, -⟩ := hs
    exact .refl s
  | cons c cs ih =>
    simp only [sweep] at hs
    split at hs
    · next e s₁ offered hc =>
      have hcall : Mailed s (s.note (.consulted number c.1)) :=
        mailed_of_same_bus [_] rfl rfl rfl
      exact (hcall.trans (mailed_run h (hg.calculate ..) hc)).trans (ih hs)
    · simp at hs

theorem mailed_query (h : Mailing answer) (hg : g.LeaveMail) {subject : Subject ε}
    {contexts : ContextSet} (hq : query g answer subject s = some (contexts, s')) :
    Mailed s s' := by
  simp only [query] at hq
  split at hq
  · next kept s₁ harrive =>
    obtain ⟨-, rfl⟩ := Prod.mk.inj (Option.some.inj hq)
    obtain ⟨-, rfl⟩ := arrive_kept harrive
    exact mailed_of_same_bus [_, _] rfl rfl rfl
  · next f s₁ harrive =>
    split at hq
    · next s₂ swept hsweep =>
      obtain ⟨-, rfl⟩ := Prod.mk.inj (Option.some.inj hq)
      obtain ⟨-, -, hs₁⟩ := arrive_due harrive
      have hbegan : Mailed s s₁ := by
        rw [hs₁]
        exact mailed_of_same_bus [_, _] rfl rfl rfl
      have hland : Mailed s₂ (s₂.land f swept) := mailed_of_same_bus [_] rfl rfl rfl
      exact (hbegan.trans (mailed_sweep h hg hsweep)).trans hland
    · simp at hq

theorem mailed_dispatch (h : Mailing answer) (hg : g.LeaveMail) {number : Nat}
    {event : HostEvent} {ls : List (Listener κ)}
    (hd : dispatch g answer number event ls s = some s') : Mailed s s' := by
  induction ls generalizing s with
  | nil =>
    obtain rfl := Option.some.inj hd
    exact .refl s
  | cons l ls ih =>
    simp only [dispatch] at hd
    split at hd
    · next e s₁ offered hl =>
      have hcall : Mailed s (s.note (.notified number l.name)) :=
        mailed_of_same_bus [_] rfl rfl rfl
      exact (hcall.trans (mailed_run h (hg.handle ..) hl)).trans (ih hd)
    · simp at hd

/-- To begin a dispatch does nothing to mailboxes. -/
theorem mailed_announce (s : System ι κ ε) (e : HostEvent) : Mailed s (s.announce e) :=
  mailed_silent [_] rfl rfl rfl fun _ _ hsub => hsub

theorem mailed_publish (h : Mailing answer) (hg : g.LeaveMail) {event : HostEvent}
    (hp : publish g answer event s = some s') : Mailed s s' := by
  simp only [publish] at hp
  split at hp
  · next ended hdispatch =>
    obtain rfl := Option.some.inj hp
    have hended : Mailed s ended := (mailed_announce s event).trans (mailed_dispatch h hg hdispatch)
    have hsent := mailed_conclude ended s.clock event
    rw [hended.number] at hsent
    exact hended.trans hsent
  · simp at hp

/-- Requests that need no other answer transmit nothing. -/
theorem mailed_at_once {r : Request ι κ ε} {a : r.Reply} (hr : r.leavesMail = true)
    (ha : System.answer g 0 r s = some (a, s')) : Mailed s s' := by
  cases r with
  | query subject => simp [System.answer] at ha
  | publish event => simp [System.answer] at ha
  | receive i => exact absurd hr (by simp [Request.leavesMail])
  | giveUp i => exact absurd hr (by simp [Request.leavesMail])
  | renewBus capacity => exact absurd hr (by simp [Request.leavesMail])
  | signal id | remove id | invalidateAll =>
    obtain ⟨-, rfl⟩ := Prod.mk.inj (Option.some.inj ha)
    exact mailed_of_same_bus [_] rfl rfl rfl
  | register name calculator =>
    obtain ⟨registry, hregister⟩ := s.register_snd name calculator
    obtain rfl : (s.register name calculator).2 = s' := (Prod.mk.inj (Option.some.inj ha)).2
    rw [hregister]
    exact mailed_of_same_bus [] rfl rfl rfl
  | subscribe =>
    obtain ⟨-, rfl⟩ := Prod.mk.inj (Option.some.inj ha)
    exact mailed_silent [] rfl rfl rfl fun _ _ hsub => s.bus.subscription?_subscribe hsub
  | _ =>
    obtain ⟨-, rfl⟩ := Prod.mk.inj (Option.some.inj ha)
    exact mailed_silent [] rfl rfl rfl fun _ _ hsub => hsub

/-- **Mail comes as it is transmitted**, however deep requests are nested, if guests leave
    mail alone. -/
theorem mailing_answer (hg : g.LeaveMail) (depth : Nat) : Mailing (System.answer g depth) := by
  induction depth with
  | zero =>
    intro r s a s' hr ha
    exact mailed_at_once hr ha
  | succ depth ih =>
    intro r s a s' hr ha
    cases r with
    | query subject => exact mailed_query ih hg ha
    | publish event =>
      simp only [System.answer, Option.map_eq_some_iff, Prod.mk.injEq] at ha
      obtain ⟨s₁, hp, -, rfl⟩ := ha
      exact mailed_publish ih hg hp
    | _ =>
      rw [answer_zero (by simp) (by simp)] at ha
      exact mailed_at_once hr ha

end System

end PermissionContexts
