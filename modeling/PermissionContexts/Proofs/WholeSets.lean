import PermissionContexts.Engine.System
import PermissionContexts.Proofs.Membership

/-! # Whole sets and single pairs

    A whole set can be taken up as it stands (`addAll`, `merge`, `union`), or its pairs can
    be offered one by one, each of them tested again (`offerEach`). What is tested again is
    in normal form and valid already, so that all the ways end alike:

    * **Pairs** that are offered are inserted as they are (`Proper.offerEach_eq`). They come
      one at a time, where whole sets come in groups, so that the two ways go through
      different maps and only the last ones are known to be the same.
    * **Unions** with an empty side are the other side (`Proper.union_eq`).
    * **Routines** that offer a set end with what routines end with that offer its pairs.

    Main statement: `whole_sets_are_taken_as_single_pairs`.
-/

namespace PermissionContexts

namespace ContextSet

variable {s t : ContextSet}

/-! ### Ways to add a set -/

/-- The pairs of a proper set are inserted as they are. -/
theorem Proper.offerEach_eq (hs : s.Proper) (ht : t.Proper) : s.offerEach t = s.addAll t := by
  apply (hs.offerEach t).ext (hs.addAll ht)
  intro c
  unfold ContextSet.offerEach
  rw [mem_foldl_add, mem_addAll, ← mem_ofPairs, ht.ofPairs_pairs, or_comm]

/-- That an empty side is left out makes no difference. -/
theorem Proper.union_eq (hs : s.Proper) (ht : t.Proper) : s.union t = s.addAll t := by
  apply (hs.union ht).ext (hs.addAll ht)
  intro c
  rw [mem_union, mem_addAll]

/-- The pairs of two sets make the set of both. -/
theorem Proper.ofPairs_append (hs : s.Proper) (ht : t.Proper) :
    ofPairs (s.pairs ++ t.pairs) = s.addAll t := by
  calc ofPairs (s.pairs ++ t.pairs)
      = t.pairs.foldl (fun s p => s.add p.1 p.2) (ofPairs s.pairs) := by
        unfold ofPairs
        rw [List.foldl_append]
    _ = s.offerEach t := by
        rw [hs.ofPairs_pairs]
        rfl
    _ = s.addAll t := hs.offerEach_eq ht

end ContextSet

/-! ### Routines that offer -/

namespace Routine

variable {ι κ ε : Type}

/-- A routine that offers pairs adds them and touches nothing else. -/
theorem run_offers (answer : Answering ι κ ε) (s : System ι κ ε) (ps : List (String × String))
    (out : ContextSet) : (offers ps).run answer s out =
      some (.finished, s, ps.foldl (fun s p => s.add p.1 p.2) out) := by
  induction ps generalizing out with
  | nil => rfl
  | cons p ps ih =>
    rw [List.foldl_cons, ← ih]
    rfl

end Routine

/-! ### Main statement -/

namespace ContextSet

/-- **Whole sets are taken as single pairs**.

    1. To add a set, to offer its pairs one by one and to merge it makes the same set, which
       has the pairs of both; and this is what a routine ends with that offers the set, or
       its pairs.
    2. The union of two sets is the set of the pairs of both. -/
theorem whole_sets_are_taken_as_single_pairs :
    (∀ s t : ContextSet, s.Built → t.Built →
      s.offerEach t = s.addAll t ∧ s.merge t = s.addAll t ∧
      (∀ p, p ∈ (s.addAll t).pairs ↔ p ∈ s.pairs ∨ p ∈ t.pairs) ∧
      ∀ {ι κ ε : Type} (answer : Answering ι κ ε) (system : System ι κ ε),
        (Routine.offerAll t .done).run answer system s = some (.finished, system, s.addAll t) ∧
        (Routine.offers t.pairs).run answer system s = some (.finished, system, s.addAll t)) ∧
    ∀ s t : ContextSet, s.Built → t.Built → s.union t = ofPairs (s.pairs ++ t.pairs) := by
  constructor
  · intro s t hs ht
    have heach : s.offerEach t = s.addAll t := hs.proper.offerEach_eq ht.proper
    refine ⟨heach, rfl, fun p => mem_pairs_addAll, ?_⟩
    intro ι κ ε answer system
    constructor
    · rfl
    · rw [Routine.run_offers, ← heach]
      rfl
  · intro s t hs ht
    rw [hs.proper.union_eq ht.proper, hs.proper.ofPairs_append ht.proper]

/-- Two sets that have one key in common and one pair. -/
theorem whole_sets_are_taken_as_single_pairs_lobby :
    let s := ofPairs [("world", "arena"), ("world", "lobby")]
    let t := ofPairs [("World", "Lobby"), ("gamemode", "creative")]
    s.offerEach t = s.addAll t ∧ s.merge t = s.addAll t ∧
      s.union t = ofPairs (s.pairs ++ t.pairs) ∧
      (s.union t).pairs = [("gamemode", "creative"), ("world", "arena"), ("world", "lobby")] := by
  intro s t
  obtain ⟨hways, hunion⟩ := whole_sets_are_taken_as_single_pairs
  obtain ⟨heach, hmerge, -⟩ := hways s t (.ofPairs _) (.ofPairs _)
  exact ⟨heach, hmerge, hunion s t (.ofPairs _) (.ofPairs _), by decide +kernel⟩

end ContextSet

end PermissionContexts
