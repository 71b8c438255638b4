import Mathlib.Data.Finset.Card
import Mathlib.Data.List.Induction
import Mathlib.Order.Bounds.Defs
import PermissionContexts.Proofs.Keyed
import PermissionContexts.Proofs.Membership
import PermissionContexts.Settings.Basic

/-! # Which rule of a table decides

    The sources of rules and the raw values are compared by their normal forms, so several
    rules of a list may be about one value. The **last** of them decides
    (`lastRule?`, `rewrite_ofRules`), and where there is none the policy does.

    * A table has one rule for each **normal form** of a source (`size_ofRules`).
    * The rules of **settings** are in the order of their sources, so the last rule about a
      value is the one with the greatest source (`lastRule?_of_isGreatest`).
    * A raw value that is handed on may be spelled in many ways. Sets bring all of them to
      one normal form, so it makes no difference to them which one it is (`submit_congr`).

    Main statement: `last_rule_decides`.
-/

namespace PermissionContexts

namespace Keyed

variable {β : Type}

/-- Of the pairs with one key the last counts. -/
theorem lookup_ofPairs (k : String) (es : List (String × β)) :
    (ofPairs es).lookup k = (es.reverse.find? (·.1 = k)).map Prod.snd := by
  induction es using List.reverseRecOn with
  | nil => rfl
  | append_singleton es e ih =>
    have hinsert : ofPairs (es ++ [e]) = (ofPairs es).insert e.1 e.2 := by
      unfold ofPairs
      rw [List.foldl_append, List.foldl_cons, List.foldl_nil]
    rw [hinsert, lookup_insert, ih, List.reverse_append, List.reverse_singleton,
      List.singleton_append, List.find?_cons]
    by_cases hk : e.1 = k <;> simp [hk]

theorem mem_keys_ofPairs {k : String} {es : List (String × β)} :
    k ∈ (ofPairs es).keys ↔ k ∈ es.map Prod.fst := by
  have hnone : es.reverse.find? (·.1 = k) = none ↔ k ∉ es.map Prod.fst := by
    rw [List.find?_eq_none, List.mem_map]
    simp only [List.mem_reverse, decide_eq_true_eq, not_exists, not_and]
  rw [← not_iff_not, ← lookup_eq_none_iff, lookup_ofPairs, Option.map_eq_none_iff, hnone]

/-- There are as many pairs as there are different keys. -/
theorem length_ofPairs (es : List (String × β)) :
    (ofPairs es).length = (es.map Prod.fst).toFinset.card := by
  have hkeys : (ofPairs es).keys.toFinset = (es.map Prod.fst).toFinset := by
    ext k
    rw [List.mem_toFinset, List.mem_toFinset, mem_keys_ofPairs]
  have hnodup : (ofPairs es).keys.Nodup := (sorted_ofPairs es).nodup_keys
  rw [← hkeys, List.toFinset_card_of_nodup hnodup, keys, List.length_map]

end Keyed

/-- To a set all spellings of one normal form are the same. -/
theorem ContextSet.add_congr {key key' value value' : String} (s : ContextSet)
    (hkey : normalForm key = normalForm key') (hvalue : normalForm value = normalForm value') :
    s.add key value = s.add key' value' := by
  unfold add tryAdd
  rw [Context.ofRaw_congr hkey hvalue]

namespace RewriteTable

variable {rs : List (String × List String)} {policy : UnmatchedPolicy} {raw raw' : String}

/-! ### Lists of rules -/

/-- The last of the rules about `raw`: those whose source has the same normal form. -/
def lastRule? (rs : List (String × List String)) (raw : String) :
    Option (String × List String) :=
  rs.reverse.find? fun r => normalForm r.1 = normalForm raw

/-- What the policy makes of a raw value without a rule. -/
def unruled (raw : String) : UnmatchedPolicy → List String
  | .passThrough => [raw]
  | .suppress => []

theorem rewrite_ofRules (rs : List (String × List String)) (policy : UnmatchedPolicy)
    (raw : String) : (ofRules rs policy).rewrite raw =
      ((lastRule? rs raw).map Prod.snd).getD (unruled raw policy) := by
  have hlookup : (ofRules rs policy).rules.lookup (normalForm raw) =
      (lastRule? rs raw).map Prod.snd := by
    show (Keyed.ofPairs _).lookup _ = _
    rw [Keyed.lookup_ofPairs, ← List.map_reverse, List.find?_map, Option.map_map, lastRule?]
    simp only [Function.comp_def]
  unfold rewrite
  rw [hlookup]
  cases (lastRule? rs raw).map Prod.snd with
  | some substitutes => rfl
  | none => cases policy <;> rfl

theorem size_ofRules (rs : List (String × List String)) (policy : UnmatchedPolicy) :
    (ofRules rs policy).size = (rs.map fun r => normalForm r.1).toFinset.card := by
  unfold size ofRules
  rw [Keyed.length_ofPairs, List.map_map]
  rfl

theorem lastRule?_eq_none : lastRule? rs raw = none ↔ ∀ r ∈ rs, normalForm r.1 ≠ normalForm raw := by
  simp [lastRule?]

/-- A rule decides if no later one is about the same value. -/
theorem lastRule?_append_cons {r : String × List String} (before : List (String × List String))
    {after : List (String × List String)} (hr : normalForm r.1 = normalForm raw)
    (hafter : ∀ r' ∈ after, normalForm r'.1 ≠ normalForm raw) :
    lastRule? (before ++ r :: after) raw = some r := by
  have hnone : after.reverse.find? (fun r' => normalForm r'.1 = normalForm raw) = none :=
    lastRule?_eq_none.mpr hafter
  unfold lastRule?
  rw [List.reverse_append, List.reverse_cons, List.append_assoc, List.find?_append, hnone]
  simp [hr]

/-! ### Rules in order -/

/-- Where the rules are in the order of their sources, the one with the greatest source
    decides. -/
theorem lastRule?_of_isGreatest (hrs : Keyed.Sorted rs) {r : String × List String} (hr : r ∈ rs)
    (hgreatest : IsGreatest {s | s ∈ Keyed.keys rs ∧ normalForm s = normalForm raw} r.1) :
    lastRule? rs raw = some r := by
  obtain ⟨before, after, rfl⟩ := List.append_of_mem hr
  apply lastRule?_append_cons before hgreatest.1.2
  intro r' hr' hsame
  -- a later rule has a greater source, which cannot be about the same value
  have hlater : r.1 < r'.1 :=
    (List.pairwise_cons.mp (List.pairwise_append.mp hrs).2.1).1 r' hr'
  have hkey : r'.1 ∈ Keyed.keys (before ++ r :: after) :=
    List.mem_map_of_mem (List.mem_append_right before (List.mem_cons_of_mem r hr'))
  exact absurd (hgreatest.2 ⟨hkey, hsame⟩) (not_le_of_gt hlater)

/-! ### Raw values with one normal form -/

/-- Sets tell two spellings of one normal form apart no more than the table does. -/
theorem submit_congr (t : RewriteTable) (key : String) (h : normalForm raw = normalForm raw')
    (s : ContextSet) : t.submit key raw s = t.submit key raw' s := by
  unfold submit offers rewrite
  rw [h]
  cases t.rules.lookup (normalForm raw') with
  | some substitutes => rfl
  | none =>
    cases t.unmatched with
    | suppress => rfl
    | passThrough =>
      -- the raw values themselves are handed on, and the set brings them to normal form
      simp only [List.map_cons, List.map_nil, List.foldl_cons, List.foldl_nil]
      exact s.add_congr rfl h

/-! ### Main statement -/

/-- **The last rule decides** what a raw value turns into.

    1. In a list of rules that is the last one whose source has the same normal form; where
       there is none the value is handed on as it is, or dropped, as the policy says. The
       table counts the different normal forms of sources.
    2. In settings it is the one whose source is the greatest of those with the same normal
       form; where there is none the switch decides.
    3. Whatever the table and the key, values of the same normal form make the same of any
       set that they are handed on to. -/
theorem last_rule_decides :
    (∀ (rs : List (String × List String)) (policy : UnmatchedPolicy) (raw : String),
      (ofRules rs policy).rewrite raw =
        ((lastRule? rs raw).map Prod.snd).getD (unruled raw policy) ∧
      (ofRules rs policy).size = (rs.map fun r => normalForm r.1).toFinset.card) ∧
    (∀ c : ContextSettings, c.worldRewrites.Sorted → ∀ raw,
      (∀ source substitutes, (source, substitutes) ∈ c.worldRewrites →
        IsGreatest {s | s ∈ c.worldRewrites.keys ∧ normalForm s = normalForm raw} source →
        c.rewriteTable.rewrite raw = substitutes) ∧
      ((∀ s ∈ c.worldRewrites.keys, normalForm s ≠ normalForm raw) →
        c.rewriteTable.rewrite raw = if c.suppressUnmatchedWorlds then [] else [raw])) ∧
    ∀ (t : RewriteTable) (key raw raw' : String) (s : ContextSet),
      normalForm raw = normalForm raw' → t.submit key raw s = t.submit key raw' s := by
  refine ⟨?_, ?_, ?_⟩
  · intro rs policy raw
    exact ⟨rewrite_ofRules rs policy raw, size_ofRules rs policy⟩
  · intro c hsorted raw
    unfold ContextSettings.rewriteTable
    rw [rewrite_ofRules]
    constructor
    · intro source substitutes hmem hgreatest
      rw [lastRule?_of_isGreatest hsorted hmem hgreatest]
      rfl
    · intro hnone
      have hrules : lastRule? c.worldRewrites raw = none :=
        lastRule?_eq_none.mpr fun r hr => hnone r.1 (List.mem_map_of_mem hr)
      rw [hrules]
      unfold ContextSettings.policy
      split_ifs <;> rfl
  · intro t key raw raw' s h
    exact t.submit_congr key h s

/-- Settings with two rules about one world and one about another. -/
def lobbySettings : ContextSettings :=
  ⟨[("LOBBY", ["first"]), ("arena", []), ("lobby", ["Spawn", "hub"])], true, []⟩

theorem lobbySettings_sorted : lobbySettings.worldRewrites.Sorted := by
  simp only [lobbySettings, Keyed.Sorted, List.pairwise_cons, List.forall_mem_cons,
    String.lt_iff_toList_lt]
  simp only [List.not_mem_nil, false_imp_iff, implies_true, List.Pairwise.nil, and_true]
  decide

/-- Of the two rules the one in capitals comes first in the order of code points. -/
theorem last_rule_decides_lobby :
    lobbySettings.rewriteTable.rewrite " Lobby" = ["Spawn", "hub"] ∧
      lobbySettings.rewriteTable.size = 2 ∧
      lobbySettings.rewriteTable.rewrite "nether" = [] ∧
      lobbySettings.rewriteTable.submit "world" " Lobby" .empty =
        lobbySettings.rewriteTable.submit "world" "lobby" .empty := by
  obtain ⟨hrules, hsettings, hspelling⟩ := last_rule_decides
  have hlt : "LOBBY" < "lobby" := (List.pairwise_cons.mp lobbySettings_sorted).1
    ("lobby", ["Spawn", "hub"]) (by simp)
  have hgreatest : IsGreatest {s | s ∈ lobbySettings.worldRewrites.keys ∧
      normalForm s = normalForm " Lobby"} "lobby" := by
    refine ⟨⟨by decide, by decide +kernel⟩, ?_⟩
    rintro s ⟨hs, hsame⟩
    simp only [lobbySettings, Keyed.keys, List.map_cons, List.map_nil, List.mem_cons,
      List.not_mem_nil, or_false] at hs
    rcases hs with rfl | rfl | rfl
    · exact le_of_lt hlt
    · exact absurd hsame (by decide +kernel)
    · exact le_refl _
  have hsize := (hrules lobbySettings.worldRewrites .suppress "lobby").2
  exact ⟨(hsettings _ lobbySettings_sorted " Lobby").1 _ _ (by decide) hgreatest,
    hsize.trans (by decide +kernel),
    (hsettings _ lobbySettings_sorted "nether").2 (by decide +kernel),
    hspelling _ "world" " Lobby" "lobby" .empty (by decide +kernel)⟩

end RewriteTable

end PermissionContexts
