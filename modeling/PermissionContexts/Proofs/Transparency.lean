import Mathlib.Data.List.Induction
import PermissionContexts.Proofs.Sweep

/-! # The cache cannot be seen

    Registry and environment change while sets are kept, and the host is to **announce**
    each change of the contexts of a subject that was asked for before: by a signal for
    the subject, by its removal, or by making everything stale. A change is **owed** to
    the subject as long as that has not happened.

    Main statement: `cache_is_transparent`. If nothing is owed to a subject whenever it
    is asked for, every query is answered as if there were no cache. The invariant
    `Settled` says that what is kept is up to date, or else a change is owed.
-/

namespace PermissionContexts

variable {ι κ ε : Type}

/-- Whether a request announces that the contexts of the given subject have changed. -/
def Request.announces (id : SubjectId) : Request ι κ ε → Bool
  | .signal id' => id' = id
  | .remove id' => id' = id
  | .invalidateAll => true
  | _ => false

namespace System

/-- After the subject had been asked for, a request changed what its contexts should be, and
    no request has announced it since. -/
def Owed (g : Guests ι κ ε) (depth : Nat) (start : System ι κ ε)
    (requests : List (Request ι κ ε)) (subject : Subject ε) : Prop :=
  ∃ before r between s a s', requests = before ++ r :: between ∧ .query subject ∈ before ∧
    perform g depth before start = some s ∧ answer g depth r s = some (a, s') ∧
    uncached g subject s' ≠ uncached g subject s ∧
    ∀ r' ∈ between, r'.announces subject.id = false

variable {g : Guests ι κ ε} {depth : Nat} {start s s' : System ι κ ε}
  {requests : List (Request ι κ ε)} {r : Request ι κ ε} {subject : Subject ε}

/-! ### What is owed -/

/-- What is owed stays owed until it is announced. -/
theorem Owed.concat (h : Owed g depth start requests subject)
    (hr : r.announces subject.id = false) : Owed g depth start (requests ++ [r]) subject := by
  obtain ⟨before, r₀, between, s, a, s', rfl, hasked, hs, ha, hne, hbetween⟩ := h
  refine ⟨before, r₀, between ++ [r], s, a, s', by simp, hasked, hs, ha, hne, ?_⟩
  intro r' hr'
  rcases List.mem_append.mp hr' with hr' | hr'
  · exact hbetween r' hr'
  · rw [List.mem_singleton.mp hr']
    exact hr

theorem owed_concat_of_ne {a : r.Reply} (hasked : .query subject ∈ requests)
    (hs : perform g depth requests start = some s) (hr : answer g depth r s = some (a, s'))
    (hne : uncached g subject s' ≠ uncached g subject s) :
    Owed g depth start (requests ++ [r]) subject :=
  ⟨requests, r, [], s, a, s', rfl, hasked, hs, hr, hne, by simp⟩

/-- A request that is no query and publishes no event is always answered, makes nothing
    good, and leaves nothing good for a subject that it announces a change of. -/
theorem answer_plain (hv : s.cache.Valid) (hquery : ∀ subject, r ≠ .query subject)
    (hpublish : ∀ event, r ≠ .publish event) :
    ∃ a s', answer g depth r s = some (a, s') ∧ s'.cache.Valid ∧
      ∀ id contexts, s'.cache.Keeps id contexts →
        s.cache.Keeps id contexts ∧ r.announces id = false := by
  rw [answer_zero hquery hpublish]
  cases r with
  | query subject => exact absurd rfl (hquery subject)
  | publish event => exact absurd rfl (hpublish event)
  | signal id =>
    refine ⟨_, _, rfl, hv.signal id, fun id' contexts hk => ?_⟩
    have hk : (s.cache.signal id).2.Keeps id' contexts := hk
    obtain ⟨hold, hne⟩ := hk.of_signal hv
    exact ⟨hold, by simp [Request.announces, hne]⟩
  | remove id =>
    refine ⟨_, _, rfl, hv.remove id, fun id' contexts hk => ?_⟩
    have hk : (s.cache.remove id).2.Keeps id' contexts := hk
    obtain ⟨hold, hne⟩ := hk.of_remove
    exact ⟨hold, by simp [Request.announces, hne]⟩
  | invalidateAll =>
    refine ⟨_, _, rfl, hv.invalidateAll, fun id contexts hk => ?_⟩
    exact absurd hk (hv.not_keeps_invalidateAll id contexts)
  | register name calculator =>
    obtain ⟨registry, hregister⟩ := s.register_snd name calculator
    have hanswer : answer g 0 (.register name calculator) s =
        some ((s.register name calculator).1, { s with registry := registry }) := by
      rw [← hregister]
      rfl
    exact ⟨_, _, hanswer, hv, fun id contexts hk => ⟨hk, rfl⟩⟩
  | _ => exact ⟨_, _, rfl, hv, fun id contexts hk => ⟨hk, rfl⟩⟩

/-! ### What is kept is up to date or owed -/

/-- The state after `requests`, in which some `subjects` are asked for. -/
structure Settled (g : Guests ι κ ε) (depth : Nat) (start : System ι κ ε)
    (subjects : Subject ε → Prop) (requests : List (Request ι κ ε)) (s : System ι κ ε) : Prop where
  /-- It is the state that the requests lead to. -/
  performed : perform g depth requests start = some s
  /-- Its cache is valid. -/
  valid : s.cache.Valid
  /-- A good set is what the calculators would offer, or a change is owed to the subject,
      which has been asked for. -/
  kept : ∀ subject contexts, subjects subject → s.cache.Keeps subject.id contexts →
    .query subject ∈ requests ∧
      (contexts = uncached g subject s ∨ Owed g depth start requests subject)

variable {subjects : Subject ε → Prop}

/-- What was up to date before a request still is, or the request made it owed. -/
theorem Settled.carry {contexts : ContextSet} {a : r.Reply}
    (h : Settled g depth start subjects requests s) (hr : answer g depth r s = some (a, s'))
    (hsubject : subjects subject) (hk : s.cache.Keeps subject.id contexts)
    (hsilent : r.announces subject.id = false) :
    .query subject ∈ requests ++ [r] ∧
      (contexts = uncached g subject s' ∨ Owed g depth start (requests ++ [r]) subject) := by
  -- the set was up to date or a change was owed, and only this request can have changed that
  obtain ⟨hasked, hkept⟩ := h.kept subject contexts hsubject hk
  refine ⟨List.mem_append_left _ hasked, ?_⟩
  rcases hkept with heq | howed
  · by_cases hne : uncached g subject s' = uncached g subject s
    · exact Or.inl (heq.trans hne.symm)
    · exact Or.inr (owed_concat_of_ne hasked h.performed hr hne)
  · exact Or.inr (howed.concat hsilent)

theorem Settled.plain (h : Settled g depth start subjects requests s)
    (hquery : ∀ subject, r ≠ .query subject) (hpublish : ∀ event, r ≠ .publish event) :
    ∃ s', Settled g depth start subjects (requests ++ [r]) s' := by
  obtain ⟨a, s', hr, hv, hkeeps⟩ := answer_plain (g := g) h.valid hquery hpublish
  refine ⟨s', perform_concat h.performed hr, hv, ?_⟩
  intro subject contexts hsubject hk
  obtain ⟨hold, hsilent⟩ := hkeeps subject.id contexts hk
  exact h.carry hr hsubject hold hsilent

/-- A query of a subject that nothing is owed to is answered as if there were no cache. -/
theorem Settled.query (h : Settled g (depth + 1) start subjects requests s) (hg : g.Passive)
    (hsubjects : ∀ subject subject', subjects subject → subjects subject' →
      subject.id = subject'.id → subject = subject')
    (hsubject : subjects subject) (howed : ¬ Owed g (depth + 1) start requests subject) :
    ∃ s', answer g (depth + 1) (.query subject) s = some (uncached g subject s, s') ∧
      Settled g (depth + 1) start subjects (requests ++ [.query subject]) s' := by
  obtain ⟨contexts, s', hquery, hqueried, halike, hcontexts⟩ :=
    query_passive hg depth h.valid subject
  have hanswer : answer g (depth + 1) (.query subject) s = some (contexts, s') := hquery
  -- nothing is owed to the subject, so what is kept for it is up to date
  have huncached : contexts = uncached g subject s := by
    rcases hcontexts with hk | heq
    · exact (h.kept subject contexts hsubject hk).2.resolve_right howed
    · exact heq
  subst huncached
  refine ⟨s', hanswer, perform_concat h.performed hanswer, hqueried.valid, ?_⟩
  intro subject' contexts' hsubject' hk
  rcases hqueried.keeps hk with ⟨hid, rfl⟩ | hold
  · obtain rfl := hsubjects subject' subject hsubject' hsubject hid
    exact ⟨by simp, Or.inl (uncached_congr hqueried.registry halike subject').symm⟩
  · exact h.carry hanswer hsubject' hold rfl

/-- Every moment of a run on a new system is settled, as long as nothing is owed to a
    subject when it is asked for. -/
theorem settled_of_requests (hg : g.Passive) {capacity : Nat} {env : ε}
    (hpublish : ∀ event, .publish event ∉ requests)
    (hsubjects : ∀ subject subject', .query subject ∈ requests → .query subject' ∈ requests →
      subject.id = subject'.id → subject = subject')
    (howed : ∀ before subject after, requests = before ++ .query subject :: after →
      ¬ Owed g (depth + 1) (.new capacity env) before subject)
    {before after : List (Request ι κ ε)} (hsplit : requests = before ++ after) :
    ∃ s, Settled g (depth + 1) (.new capacity env) (fun subject => .query subject ∈ requests)
      before s := by
  -- on the requests so far, the latest last
  induction before using List.reverseRecOn generalizing after with
  | nil =>
    refine ⟨_, rfl, Cache.valid_empty, fun subject contexts _ hk => ?_⟩
    exact absurd hk (Cache.not_keeps_empty subject.id contexts)
  | append_singleton before r ih =>
    rw [List.append_assoc, List.singleton_append] at hsplit
    have hmem : r ∈ requests := by
      rw [hsplit]
      simp
    obtain ⟨s, hs⟩ := ih hsplit
    by_cases hr : ∃ subject, r = .query subject
    · obtain ⟨subject, rfl⟩ := hr
      obtain ⟨s', _, hs'⟩ := hs.query hg hsubjects hmem (howed before subject after hsplit)
      exact ⟨s', hs'⟩
    · refine hs.plain (fun subject heq => hr ⟨subject, heq⟩) ?_
      rintro event rfl
      exact hpublish event hmem

/-- **The cache cannot be seen**: every request of a run is answered, and every query as if
    there were no cache, as long as nothing is owed to a subject when it is asked for. The
    run starts on a new system, its requests publish no events, and a subject is known by
    its identity. -/
theorem cache_is_transparent (hg : g.Passive) (depth capacity : Nat) (env : ε)
    (hpublish : ∀ event, .publish event ∉ requests)
    (hsubjects : ∀ subject subject', .query subject ∈ requests → .query subject' ∈ requests →
      subject.id = subject'.id → subject = subject')
    (howed : ∀ before subject after, requests = before ++ .query subject :: after →
      ¬ Owed g (depth + 1) (.new capacity env) before subject) :
    (∃ s, perform g (depth + 1) requests (.new capacity env) = some s) ∧
    ∀ before subject after, requests = before ++ .query subject :: after →
      ∃ s s', perform g (depth + 1) before (.new capacity env) = some s ∧
        answer g (depth + 1) (.query subject) s = some (uncached g subject s, s') := by
  refine ⟨?_, ?_⟩
  · obtain ⟨s, hs⟩ :=
      settled_of_requests hg hpublish hsubjects howed (List.append_nil requests).symm
    exact ⟨s, hs.performed⟩
  · intro before subject after hsplit
    obtain ⟨s, hs⟩ := settled_of_requests hg hpublish hsubjects howed hsplit
    have hmem : .query subject ∈ requests := by
      rw [hsplit]
      simp
    obtain ⟨s', hanswer, _⟩ := hs.query hg hsubjects hmem (howed before subject after hsplit)
    exact ⟨s, s', hs.performed, hanswer⟩

/-- Guests whose one calculator offers what the environment says. -/
def reading : Guests Unit Unit String where
  calculator _ := ⟨fun _ => .ask .look fun world => .offer "world" world .done, fun _ => none⟩
  handle _ _ := .done

theorem reading_passive : reading.Passive := by
  refine ⟨fun _ _ e => ⟨_, rfl⟩, ?_⟩
  intro _ _ e p hp
  obtain rfl := Option.some.inj hp
  exact .refl e

/-- Somebody who can be asked for. -/
def someone : Subject String := ⟨"a", fun _ => none, fun _ => none⟩

/-- Somebody is asked for, moves, is signalled, and is asked for again. -/
def aMove : List (Request Unit Unit String) :=
  [.register "world" (), .query someone, .alter fun _ => "nether", .signal "a", .query someone]

/-- The move is owed until the signal comes, and the signal itself changes nothing. -/
theorem aMove_not_owed {before after : List (Request Unit Unit String)}
    {subject : Subject String} (hsplit : aMove = before ++ .query subject :: after) :
    ¬ Owed reading 1 (.new 1 "overworld") before subject := by
  rintro ⟨b, r, between, s, a, s', rfl, hasked, -, hr, hne, hbetween⟩
  simp only [aMove, List.append_assoc, List.cons_append, List.cons_eq_append_iff, List.cons.injEq,
    List.append_eq_nil_iff, reduceCtorEq, and_false, List.nil_eq, exists_const, or_self, or_false,
    ↓existsAndEq, true_and] at hsplit
  rcases hsplit with ⟨rfl, -⟩ | ⟨_, rfl, ⟨rfl, -⟩ | ⟨_, rfl, ⟨rfl, rfl, hrest⟩ | ⟨rfl, rfl, -⟩⟩⟩
  · simp at hasked
  · simp at hasked
  · -- the move is followed by the signal
    obtain rfl : subject = someone := by simpa using hasked
    cases between with
    | nil => simp at hrest
    | cons r' rest =>
      obtain ⟨rfl, -⟩ := List.cons.inj hrest
      have hsilent := hbetween _ (List.mem_cons_self ..)
      simp [Request.announces, someone] at hsilent
  · obtain ⟨rfl, rfl⟩ := Prod.mk.inj (Option.some.inj hr)
    exact hne (uncached_congr rfl (.refl _) subject)

theorem cache_is_transparent_to_a_move :
    ∃ s s', perform reading 1 (aMove.take 4) (.new 1 "overworld") = some s ∧
      answer reading 1 (.query someone) s = some (uncached reading someone s, s') := by
  have hpublish : ∀ event, .publish event ∉ aMove := by simp [aMove]
  have hsomeone : ∀ subject, .query subject ∈ aMove → subject = someone := by
    intro subject h
    simpa [aMove] using h
  have hsubjects : ∀ subject subject', .query subject ∈ aMove → .query subject' ∈ aMove →
      subject.id = subject'.id → subject = subject' := by
    intro subject subject' h h' _
    rw [hsomeone subject h, hsomeone subject' h']
  obtain ⟨_, hqueries⟩ := cache_is_transparent reading_passive 0 1 "overworld" hpublish hsubjects
    fun _ _ _ => aMove_not_owed
  exact hqueries (aMove.take 4) someone [] rfl

end System

end PermissionContexts
