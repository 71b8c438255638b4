import PermissionContexts.Proofs.Estimate

/-! # Hidden names of worlds

    A table **hides** a name in normal form when nothing is handed on for it: its rule has
    no substitutes, or it has no rule and the policy drops such names. A subject may stand
    in a world whose raw name has that normal form, or in any other world:

    * a raw name without a rule is handed on in its own normal form only, which is not the
      hidden one, and
    * a raw name with a rule is not handed on at all, its substitutes are.

    So a hidden name can only be seen as a substitute (`Hides.exists_rewrite_iff`), and a
    world with a hidden name shows its dimension type alone (`world_run_of_hidden`).

    Main statement: `hidden_names_do_not_leak`.
-/

namespace PermissionContexts

namespace RewriteTable

/-- Nothing is handed on for the name `n`, which is in normal form. -/
def Hides (t : RewriteTable) (n : String) : Prop :=
  t.rules.lookup n = some [] ∨ t.rules.lookup n = none ∧ t.unmatched = .suppress

/-- A substitute for the raw name `raw` has the normal form `n`: the name has a rule, and the
    rule a substitute that is the same but for case and blanks. -/
def TurnsInto (t : RewriteTable) (raw n : String) : Prop :=
  ∃ v ∈ (t.rules.lookup (normalForm raw)).getD [], normalForm v = n

instance (t : RewriteTable) (n : String) : Decidable (t.Hides n) :=
  inferInstanceAs (Decidable (_ ∨ _))

instance (t : RewriteTable) (raw n : String) : Decidable (t.TurnsInto raw n) :=
  inferInstanceAs (Decidable (∃ v ∈ (t.rules.lookup (normalForm raw)).getD [], _))

variable {t : RewriteTable} {n : String}

/-- A table hides the normal forms of the raw names that it rewrites to nothing. -/
theorem hides_normalForm_iff {raw : String} :
    t.Hides (normalForm raw) ↔ t.rewrite raw = [] := by
  unfold Hides rewrite
  cases t.rules.lookup (normalForm raw) with
  | some substitutes => simp
  | none => cases t.unmatched <;> simp

/-- No raw name hands on a hidden name, unless by a substitute. -/
theorem Hides.exists_rewrite_iff (h : t.Hides n) (raw : String) :
    (∃ v ∈ t.rewrite raw, normalForm v = n) ↔ t.TurnsInto raw n := by
  unfold rewrite TurnsInto
  cases hrule : t.rules.lookup (normalForm raw) with
  | some substitutes => simp
  | none =>
    cases hpolicy : t.unmatched with
    | suppress => simp
    | passThrough =>
      -- the raw name has no rule, so its normal form is not a hidden one
      have hne : normalForm raw ≠ n := by
        rintro rfl
        simp [Hides, hrule, hpolicy] at h
      simp [hne]

end RewriteTable

/-! ### The keys of the world calculator -/

theorem normalForm_worldKey : normalForm worldKey = worldKey := by
  decide +kernel

variable {n v : String}

/-- A raw name becomes the context `world=n` if its normal form is `n` and a valid value. -/
theorem ofRaw_worldKey : Context.ofRaw worldKey v = .ok ⟨worldKey, n⟩ ↔
    normalForm v = n ∧ Context.validValue n = true := by
  have hkey : Context.validKey worldKey = true := by decide
  rw [Context.ofRaw_eq_ok, normalForm_worldKey, Context.mk.injEq]
  refine ⟨?_, ?_⟩
  · rintro ⟨-, hvalue, -, rfl⟩
    exact ⟨rfl, hvalue⟩
  · rintro ⟨rfl, hvalue⟩
    exact ⟨hkey, hvalue, rfl, rfl⟩

/-- A dimension type is not the name of a world. -/
theorem ofRaw_dimensionTypeKey_ne : Context.ofRaw dimensionTypeKey v ≠ .ok ⟨worldKey, n⟩ :=
  Context.ofRaw_ne_of_key (by decide +kernel)

/-- What a table hands on for the raw name `raw` under the key of worlds, where the table
    hides `n`. -/
theorem RewriteTable.Hides.exists_ofRaw_iff {t : RewriteTable} (h : t.Hides n) (raw : String) :
    (∃ v ∈ t.rewrite raw, Context.ofRaw worldKey v = .ok ⟨worldKey, n⟩) ↔
      Context.validValue n = true ∧ t.TurnsInto raw n := by
  rw [← h.exists_rewrite_iff raw]
  simp only [ofRaw_worldKey]
  tauto

namespace Calculator

variable {ι κ ε : Type} {host : Host ε} {rewrites : ε → RewriteTable} {g : Guests ι κ ε}
  {depth : Nat} {s : System ι κ ε} {subject : Subject ε} {w : WorldView}

/-! ### A run of the world calculator -/

/-- Run on a set that may hold contexts already, the world calculator adds its raw pairs and
    touches nothing else. -/
theorem world_run (hlocation : subject.location s.env = some w) (out : ContextSet) :
    ((world host rewrites : Calculator ι κ ε).calculate subject).run (System.answer g depth) s out =
      some (.finished, s, (worldOffers (rewrites s.env) w).foldl (fun s p => s.add p.1 p.2) out) := by
  have halone : ((world host rewrites : Calculator ι κ ε).calculate subject).alone s.env out =
      some (.finished, s.env,
        (worldOffers (rewrites s.env) w).foldl (fun s p => s.add p.1 p.2) out) := by
    simp only [world, Routine.alone, hlocation]
    exact Routine.alone_offers _ s.env out
  exact Routine.run_of_alone halone

/-- In a world with a hidden name there is nothing to be seen but its dimension type. -/
theorem world_run_of_hidden (hlocation : subject.location s.env = some w)
    (hidden : (rewrites s.env).Hides (normalForm w.key.contextName)) (out : ContextSet) :
    ((world host rewrites : Calculator ι κ ε).calculate subject).run (System.answer g depth) s out =
      some (.finished, s, out.add dimensionTypeKey w.dimensionType.contextName) := by
  have hoffers : worldOffers (rewrites s.env) w =
      [(dimensionTypeKey, w.dimensionType.contextName)] := by
    simp [worldOffers, RewriteTable.offers, RewriteTable.hides_normalForm_iff.mp hidden]
  rw [world_run hlocation, hoffers, List.foldl_cons, List.foldl_nil]

/-- The hidden names among the contexts that the world calculator adds. -/
theorem mem_worldOffers_of_hides {table : RewriteTable} (hidden : table.Hides n)
    (hserver : w.kind = .server) (out : ContextSet) :
    ⟨worldKey, n⟩ ∈ ((worldOffers table w).foldl (fun s p => s.add p.1 p.2) out).contexts ↔
      ⟨worldKey, n⟩ ∈ out.contexts ∨
        Context.validValue n = true ∧ table.TurnsInto w.key.contextName n := by
  rw [ContextSet.mem_foldl_add, exists_worldOffers, or_comm, ← hidden.exists_ofRaw_iff]
  unfold WorldView.Gives
  simp only [ofRaw_dimensionTypeKey_ne, hserver, true_and, false_or]

/-- The hidden names among the contexts that the world calculator estimates. -/
theorem world_estimate_of_hides {e : ε} (hidden : (rewrites e).Hides n) :
    ∃ potential, (world host rewrites : Calculator ι κ ε).estimate e = some potential ∧
      (⟨worldKey, n⟩ ∈ potential.contexts ↔ Context.validValue n = true ∧
        ∃ worlds, host.worlds e = some worlds ∧
          ∃ k ∈ worlds, (rewrites e).TurnsInto k.contextName n) := by
  obtain ⟨potential, hpotential⟩ :
      ∃ potential, (world host rewrites : Calculator ι κ ε).estimate e = some potential := by
    cases hworlds : host.worlds e with
    | none => simp only [world, hworlds, Option.some.injEq, exists_eq']
    | some worlds => simp only [world, hworlds, Option.some.injEq, exists_eq']
  have hmem := @world_estimate ι κ ε host rewrites e ⟨worldKey, n⟩
  simp only [hpotential, Option.some.injEq, exists_eq_left', ofRaw_dimensionTypeKey_ne, and_false,
    exists_false, false_or] at hmem
  refine ⟨potential, hpotential, hmem.trans ?_⟩
  unfold Host.NamesWorld
  simp only [hidden.exists_ofRaw_iff]
  tauto

/-! ### What can be seen of hidden names -/

/-- **Hidden names do not leak.** Let the rewrite table hide `n`.

    1. Whatever the world is called that a subject stands in, the world calculator adds
       `world=n` only if a substitute for that name has the normal form `n`, and
    2. whatever worlds the server has, it estimates `world=n` only if a substitute for one of
       their names has the normal form `n`.

    And two subjects in worlds with hidden names and with one dimension type cannot be told
    apart by what it adds for them. -/
theorem hidden_names_do_not_leak (host : Host ε) (rewrites : ε → RewriteTable)
    (g : Guests ι κ ε) (depth : Nat) (s : System ι κ ε) :
    (∀ n, (rewrites s.env).Hides n →
      (∀ subject w out, subject.location s.env = some w → w.kind = .server →
        ∃ out', ((world host rewrites : Calculator ι κ ε).calculate subject).run
            (System.answer g depth) s out = some (.finished, s, out') ∧
          (⟨worldKey, n⟩ ∈ out'.contexts ↔ ⟨worldKey, n⟩ ∈ out.contexts ∨
            Context.validValue n = true ∧ (rewrites s.env).TurnsInto w.key.contextName n)) ∧
      ∃ potential, (world host rewrites : Calculator ι κ ε).estimate s.env = some potential ∧
        (⟨worldKey, n⟩ ∈ potential.contexts ↔ Context.validValue n = true ∧
          ∃ worlds, host.worlds s.env = some worlds ∧
            ∃ k ∈ worlds, (rewrites s.env).TurnsInto k.contextName n)) ∧
    ∀ (s' : System ι κ ε) subject subject' w w' out, subject.location s.env = some w →
      subject'.location s'.env = some w' → w.dimensionType = w'.dimensionType →
      (rewrites s.env).Hides (normalForm w.key.contextName) →
      (rewrites s'.env).Hides (normalForm w'.key.contextName) →
      ∃ out', ((world host rewrites : Calculator ι κ ε).calculate subject).run
          (System.answer g depth) s out = some (.finished, s, out') ∧
        ((world host rewrites : Calculator ι κ ε).calculate subject').run
          (System.answer g depth) s' out = some (.finished, s', out') := by
  refine ⟨?_, ?_⟩
  · intro n hidden
    refine ⟨?_, world_estimate_of_hides hidden⟩
    intro subject w out hlocation hserver
    exact ⟨_, world_run hlocation out, mem_worldOffers_of_hides hidden hserver out⟩
  · intro s' subject subject' w w' out hlocation hlocation' hdimension hidden hidden'
    refine ⟨_, world_run_of_hidden hlocation hidden out, ?_⟩
    rw [hdimension]
    exact world_run_of_hidden hlocation' hidden' out

/-- A table that hides the name `secret`, which is a substitute as well. -/
def secretTable : RewriteTable :=
  .ofRules [("Secret", []), ("lobby", ["hall", " SECRET"])] .passThrough

/-- A host whose server has a world of that name and another one. -/
def secretHost : Host Unit where
  gameModes _ := []
  dimensionTypes _ := [.inDefaultSpace "overworld"]
  worlds _ := some [.inDefaultSpace "SECRET", .inDefaultSpace "arena"]

/-- Somebody in the world of the given name. -/
def standingIn (name : String) : Subject Unit :=
  ⟨"a", fun _ => some ⟨.inDefaultSpace name, .inDefaultSpace "overworld", .server⟩, fun _ => none⟩

/-- The name cannot be seen by those who stand in the world of that name, nor in the estimate,
    but it can by those in the lobby. However the name is spelled, it shows the same. -/
theorem hidden_names_do_not_leak_secret :
    let calculator : Calculator Stock Unit Unit := world secretHost fun _ => secretTable
    let answer := System.answer (Stock.guests secretHost (fun _ => secretTable) .empty) 0
    let s := Stock.system ()
    (∃ out, (calculator.calculate (standingIn "SeCret")).run answer s .empty =
      some (.finished, s, out) ∧ ⟨worldKey, "secret"⟩ ∉ out.contexts) ∧
    (∃ out, (calculator.calculate (standingIn "Lobby ")).run answer s .empty =
      some (.finished, s, out) ∧ ⟨worldKey, "secret"⟩ ∈ out.contexts) ∧
    (∃ potential, calculator.estimate () = some potential ∧
      ⟨worldKey, "secret"⟩ ∉ potential.contexts) ∧
    ∃ out, (calculator.calculate (standingIn "SeCret")).run answer s .empty =
        some (.finished, s, out) ∧
      (calculator.calculate (standingIn " secret")).run answer s .empty =
        some (.finished, s, out) := by
  intro calculator answer s
  obtain ⟨hnames, hpairs⟩ := hidden_names_do_not_leak secretHost (fun _ => secretTable)
    (Stock.guests secretHost (fun _ => secretTable) .empty) 0 s
  obtain ⟨hcalculate, potential, hpotential, hestimated⟩ := hnames "secret" (by decide +kernel)
  refine ⟨?_, ?_, ⟨potential, hpotential, ?_⟩, ?_⟩
  · obtain ⟨out, hrun, hmem⟩ := hcalculate (standingIn "SeCret") _ .empty rfl rfl
    refine ⟨out, hrun, ?_⟩
    rw [hmem]
    decide +kernel
  · obtain ⟨out, hrun, hmem⟩ := hcalculate (standingIn "Lobby ") _ .empty rfl rfl
    refine ⟨out, hrun, hmem.mpr ?_⟩
    decide +kernel
  · rw [hestimated]
    rintro ⟨-, worlds, hworlds, hturns⟩
    obtain rfl := Option.some.inj hworlds
    revert hturns
    decide +kernel
  · exact hpairs s (standingIn "SeCret") (standingIn " secret") _ _ .empty rfl rfl rfl
      (by decide +kernel) (by decide +kernel)

end Calculator

end PermissionContexts
