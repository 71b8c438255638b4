import PermissionContexts.Proofs.Delivery
import PermissionContexts.Proofs.Nesting
import PermissionContexts.Proofs.Tour

/-! # What publishing does

    A dispatch calls listeners one after the other, and each of them may change the system, its
    listeners among the rest, before the next is called. A **round** (`System.Round`) says of
    these calls who was called and how the call ended.

    Main statement: `publish_calls_snapshot`. An event goes to the listeners that were
    registered when it was published, to each once and in their order, and after the last of
    them to the mailboxes, once. What listeners publish meanwhile is in the mailboxes before
    it.
-/

namespace PermissionContexts

variable {ι κ ε : Type}

/-- The turn of a listener in a dispatch. -/
structure Turn (κ : Type) where
  /-- The listener, as it stood on the bus. -/
  listener : Listener κ
  /-- How it ended. -/
  ending : Ending

/-! ### What is written down of dispatches -/

/-- The listener that was called in the dispatch with the given number. -/
def Happening.notified? (number : Nat) : Happening → Option String
  | .notified dispatch name => if dispatch = number then some name else none
  | _ => none

/-- The listeners that were called in the dispatch with the given number, in order. -/
def notifications (number : Nat) (journal : List Happening) : List String :=
  (journal.filterMap (·.notified? number)).reverse

theorem notifications_append (number : Nat) (late early : List Happening) :
    notifications number (late ++ early) =
      notifications number early ++ notifications number late := by
  simp [notifications]

/-- All dispatches that have ended have later numbers. -/
def SentAfter (number : Nat) (journal : List Happening) : Prop :=
  ∀ x ∈ transmissions journal, number < x.1

theorem SentAfter.append {number : Nat} {late early : List Happening}
    (hlate : SentAfter number late) (hearly : SentAfter number early) :
    SentAfter number (late ++ early) := by
  intro x hx
  rw [transmissions_append] at hx
  rcases List.mem_append.mp hx with hx | hx
  · exact hearly x hx
  · exact hlate x hx

namespace System

/-! ### Rounds -/

/-- In the dispatch with the given number listeners have their turns one after the other. Each
    one finds the system as the one before it has left it. -/
inductive Round (g : Guests ι κ ε) (answer : Answering ι κ ε) (number : Nat) (e : HostEvent) :
    System ι κ ε → List (Turn κ) → System ι κ ε → Prop
  | nil (s) : Round g answer number e s [] s
  | cons {s t offers s₁ ts s'}
    (h : (g.handle t.listener.body e).Ends answer (s.note (.notified number t.listener.name))
      offers t.ending s₁)
    (hrest : Round g answer number e s₁ ts s') : Round g answer number e s (t :: ts) s'

variable {g : Guests ι κ ε} {answer : Answering ι κ ε} {number : Nat} {e : HostEvent}
  {s s' : System ι κ ε}

/-- What comes later belongs to later dispatches. -/
theorem Since.notified (h : Since (number + 1) s s') :
    ∃ noted, s'.journal = noted ++ s.journal ∧ notifications number noted = [] ∧
      SentAfter number noted := by
  obtain ⟨noted, hj, hn⟩ := h.noted
  refine ⟨noted, hj, ?_, ?_⟩
  · have hnone : ∀ x ∈ noted, x.notified? number = none := by
      intro x hx
      cases x with
      | notified dispatch name =>
        have hlt : number < dispatch := hn _ hx dispatch rfl
        exact if_neg (Nat.ne_of_gt hlt)
      | _ => rfl
    simpa [notifications] using hnone
  · intro x hx
    obtain ⟨y, hy, hsent⟩ := List.mem_filterMap.mp (List.mem_reverse.mp hx)
    cases y with
    | sent dispatch event =>
      obtain rfl := Option.some.inj hsent
      exact hn _ hy dispatch rfl
    | _ => exact absurd hsent (by simp [Happening.sent?])

theorem round_of_dispatch {ls : List (Listener κ)}
    (h : dispatch g answer number e ls s = some s') :
    ∃ turns, Round g answer number e s turns s' ∧ turns.map Turn.listener = ls := by
  induction ls generalizing s with
  | nil =>
    obtain rfl := Option.some.inj h
    exact ⟨[], .nil s, rfl⟩
  | cons l ls ih =>
    simp only [dispatch] at h
    split at h
    · next ending s₁ offered hl =>
      obtain ⟨offers, hends, -⟩ := Routine.ends_of_run hl
      obtain ⟨turns, hround, rfl⟩ := ih h
      exact ⟨⟨l, ending⟩ :: turns, .cons hends hround, rfl⟩
    · simp at h

/-- To publish is to dispatch to the listeners that there are, and to conclude. -/
theorem dispatch_of_publish (h : publish g answer e s = some s') :
    ∃ ended, dispatch g answer s.clock e s.bus.listeners (s.announce e) = some ended ∧
      s' = ended.conclude s.clock s.bus.number e := by
  simp only [publish] at h
  split at h
  · next ended hdispatch => exact ⟨ended, hdispatch, (Option.some.inj h).symm⟩
  · simp at h

/-- Of a dispatch that has begun, the journal tells the listeners that have their turns, and
    none that are called in the dispatches inside it. Those dispatches have ended. -/
theorem Round.notified (hanswer : Orderly answer) {turns : List (Turn κ)}
    (h : Round g answer number e s turns s') (hn : number < s.clock) :
    ∃ noted, s'.journal = noted ++ s.journal ∧
      notifications number noted = turns.map (·.listener.name) ∧ SentAfter number noted := by
  induction h with
  | nil s => exact ⟨[], rfl, rfl, by simp [SentAfter, transmissions]⟩
  | @cons s t offers s₁ ts s' hends _ ih =>
    -- what the listener causes belongs to dispatches that began later, with higher numbers
    have hsince : Since (number + 1) (s.note (.notified number t.listener.name)) s₁ :=
      since_run hanswer (Routine.run_of_ends hends .empty) hn
    obtain ⟨inside, hinside, hnone, hafter⟩ := hsince.notified
    obtain ⟨rest, hrest, hturns, hafter'⟩ := ih (Nat.lt_of_lt_of_le hn hsince.clock)
    refine ⟨rest ++ inside ++ [.notified number t.listener.name], ?_, ?_, ?_⟩
    · rw [hrest, hinside]
      simp [note]
    · rw [notifications_append, notifications_append, hnone, hturns]
      simp [notifications, Happening.notified?]
    · refine (hafter'.append hafter).append ?_
      simp [SentAfter, transmissions, Happening.sent?]

/-- **What publishing does.** To publish an event

    1. comes to its end if the run is nested within the depth, with mailboxes or without,
    2. calls the listeners that there were when it began, each once and in their order, whether
       they fail or not and whatever they do to the listeners, and then puts the event once into
       each mailbox that the bus has by then,
    3. calls no other listeners in this dispatch and transmits the event once, as the journal
       tells, and all dispatches inside it end before, and
    4. if guests leave mail alone, fills each mailbox of the bus that there was when it began
       with the events that were transmitted meanwhile, and after them with this one. -/
theorem publish_calls_snapshot (g : Guests ι κ ε) (e : HostEvent) (s : System ι κ ε) :
    (∀ depth, Machine.NestsWithin g depth (.start (.ask (.publish e) fun _ => .done) s) →
      ∃ s', publish g (System.answer g depth) e s = some s') ∧
    ∀ depth s', publish g (System.answer g depth) e s = some s' →
      (∃ turns ended, Round g (System.answer g depth) s.clock e (s.announce e) turns ended ∧
        turns.map Turn.listener = s.bus.listeners ∧
        s' = ended.conclude s.clock s.bus.number e ∧
        ∀ i, s'.bus.subscription? i =
          (ended.bus.subscription? i).map (Subscription.fill s.bus.number [e])) ∧
      ∃ noted,
        s'.journal = .sent s.clock e :: (noted ++ .dispatchBegan s.clock e :: s.journal) ∧
        notifications s.clock noted = s.bus.listenerNames ∧
        SentAfter s.clock noted ∧
        (g.LeaveMail → ∀ i sub, s.bus.subscription? i = some sub →
          s'.bus.subscription? i = some (sub.fill s.bus.number (transmitted noted ++ [e]))) := by
  refine ⟨fun depth h => Machine.exists_publish_of_nestsWithin h, ?_⟩
  intro depth s' hpublish
  obtain ⟨ended, hdispatch, rfl⟩ := dispatch_of_publish hpublish
  obtain ⟨turns, hround, hlisteners⟩ := round_of_dispatch hdispatch
  have hsubscription : ∀ i, (ended.conclude s.clock s.bus.number e).bus.subscription? i =
      (ended.bus.subscription? i).map (Subscription.fill s.bus.number [e]) :=
    Bus.subscription?_send ended.bus s.bus.number e
  refine ⟨⟨turns, ended, hround, hlisteners, rfl, hsubscription⟩, ?_⟩
  -- the dispatch has taken its number from the clock, which went on
  obtain ⟨noted, hj, hnotified, hafter⟩ :=
    hround.notified (orderly_answer g depth) (Nat.lt_succ_self s.clock)
  refine ⟨noted, congrArg (Happening.sent s.clock e :: ·) hj, ?_, hafter, ?_⟩
  · rw [hnotified, Bus.listenerNames]
    show turns.map ((·.name) ∘ Turn.listener) = _
    rw [← List.map_map, hlisteners]
  · intro hg i sub hsub
    have hmailed : Mailed (s.announce e) ended :=
      mailed_dispatch (mailing_answer hg depth) hg hdispatch
    -- the journal tells the mailboxes and the calls the same
    obtain ⟨noted', hj', hfilled⟩ := hmailed.filled
    obtain rfl : noted' = noted := List.append_cancel_right (hj'.symm.trans hj)
    rw [hsubscription, hfilled i sub hsub, Option.map_some]
    exact congrArg some (Subscription.fill_fill ..)

end System

/-! ### Listeners that publish, register and fail -/

/-- Three listeners. -/
inductive Choir where
  /-- At one event it publishes another, removes and adds listeners, and fails. -/
  | meddler
  /-- Fails. -/
  | failing
  /-- Does nothing. -/
  | plain

namespace Choir

/-- The event that the meddler acts on. -/
def came : HostEvent := .subjectConnected (.subject "a")

/-- The event that it publishes. -/
def left : HostEvent := .subjectDisconnected (.subject "a")

/-- What the three do. -/
def handle : Choir → HostEvent → Routine Unit Choir Unit
  | .meddler, .subjectConnected _ =>
    .ask (.publish left) fun _ => .ask (.unlisten "p") fun _ =>
      .ask (.listen .first "late" .plain) fun _ => .panic
  | .meddler, _ => .done
  | .failing, _ => .panic
  | .plain, _ => .done

/-- The three as guests. -/
def guests : Guests Unit Choir Unit where
  calculator _ := ⟨fun _ => .done, fun _ => none⟩
  handle := handle

/-- A bus with the three and one mailbox. -/
def system : System Unit Choir Unit where
  registry := .empty
  cache := .empty
  bus := ⟨0, 4, [⟨.default, "m", .meddler⟩, ⟨.default, "f", .failing⟩, ⟨.late, "p", .plain⟩],
    [some ⟨0, .new 4⟩], []⟩
  env := ()
  clock := 0
  journal := []

theorem leaveMail : guests.LeaveMail := by
  refine ⟨fun _ _ => trivial, ?_⟩
  intro listener e
  cases listener with
  | meddler =>
    cases e with
    | subjectConnected actor => exact ⟨rfl, fun _ => ⟨rfl, fun _ => ⟨rfl, fun _ => trivial⟩⟩⟩
    | _ => trivial
  | failing => trivial
  | plain => trivial

/-- The three are called, though one of them was removed and two of them fail, and what the
    meddler has published is first in the mailbox. -/
theorem publish_calls_choir :
    ∃ s', System.publish guests (System.answer guests 2) came system = some s' ∧
      notifications 0 s'.journal = ["m", "f", "p"] ∧
      s'.bus.subscription? 0 = some ⟨0, ⟨4, 0, [left, came]⟩⟩ := by
  obtain ⟨hexists, hall⟩ := System.publish_calls_snapshot guests came system
  have hends : Machine.endsWithin guests 2 40
      (.start (.ask (.publish came) fun _ => .done) system) = true := rfl
  obtain ⟨s', hpublish⟩ := hexists 2 (Machine.nestsWithin_of_endsWithin hends)
  have hrun : ∃ s'', System.publish guests (System.answer guests 2) came system = some s'' ∧
      transmitted s''.journal = [left, came] := ⟨_, rfl, rfl⟩
  obtain ⟨s'', hpublish', htransmitted⟩ := hrun
  obtain rfl : s'' = s' := Option.some.inj (hpublish'.symm.trans hpublish)
  obtain ⟨-, noted, hj, hnotified, -, hmail⟩ := hall 2 s'' hpublish
  rw [← List.singleton_append] at hj
  refine ⟨s'', hpublish, ?_, ?_⟩
  · have hcalled : notifications 0 noted = ["m", "f", "p"] := hnotified
    rw [hj, notifications_append, notifications_append, hcalled]
    rfl
  · rw [hj, transmitted_append, transmitted_append] at htransmitted
    have hsent : transmitted noted ++ [came] = [left, came] := htransmitted
    rw [hmail leaveMail 0 ⟨0, .new 4⟩ rfl, hsent]
    rfl

end Choir

end PermissionContexts
