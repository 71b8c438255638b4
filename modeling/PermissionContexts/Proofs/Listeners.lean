import Mathlib.Data.List.Basic
import Mathlib.Data.List.Induction
import PermissionContexts.Bus.Basic

/-! # The order of the listeners

    Listeners are registered and removed one **change** after the other (`Bus.change`). What
    stands after all of them are the registrations that no later change has removed
    (`Bus.standing`), and they stand in the stable order of their ranks.

    * The **ranks** rise from the first to the last (`EventOrder.pairwise_all`).
    * **Halving** finds the place of a new listener, because the list is in order at that
      moment (`bisect_spec`, `lt_place_iff`).
    * A list in order is known by what it has at each rank (`Ranked.ext`), so what a change
      does to the list is told by what it does at each rank (`atRank_insertListener`).

    Main statement: `listeners_stand_in_order`.
-/

namespace PermissionContexts

namespace EventOrder

/-- All ranks, the one before all others first. -/
def all : List EventOrder := [.first, .early, .default, .late, .last]

/-- A rank is numbered by its place among all, -/
theorem getElem?_all_rank (o : EventOrder) : all[o.rank]? = some o := by
  cases o <;> rfl

/-- so that the numbers rise from each rank to the next, -/
theorem pairwise_all : all.Pairwise fun o p => o.rank < p.rank := by
  decide

/-- and no two ranks have the same. -/
theorem rank_injective : Function.Injective rank := by
  intro o p h
  have hsame : some o = some p := by
    rw [← getElem?_all_rank o, ← getElem?_all_rank p, h]
  exact Option.some.inj hsame

end EventOrder

namespace Bus

variable {κ : Type} {ls ms : List (Listener κ)}

/-! ### Lists in order -/

/-- No listener is called before one of an earlier rank. -/
def Ranked (ls : List (Listener κ)) : Prop :=
  ls.Pairwise fun l m => l.order.rank ≤ m.order.rank

/-- The listeners of a rank, in the order of the list. -/
def atRank (o : EventOrder) (ls : List (Listener κ)) : List (Listener κ) :=
  ls.filter (·.order = o)

theorem mem_atRank {l : Listener κ} : l ∈ atRank l.order ls ↔ l ∈ ls := by
  simp [atRank]

/-- The first of a list in order has the earliest rank in it. -/
theorem Ranked.head_le {l m : Listener κ} (h : Ranked (l :: ls)) (hm : m ∈ l :: ls) :
    l.order.rank ≤ m.order.rank := by
  rcases List.mem_cons.mp hm with rfl | hm
  · exact Nat.le_refl _
  · exact (List.pairwise_cons.mp h).1 m hm

theorem mem_iff_of_atRank (h : ∀ o, atRank o ls = atRank o ms) (l : Listener κ) :
    l ∈ ls ↔ l ∈ ms := by
  have hrank : l ∈ atRank l.order ls ↔ l ∈ atRank l.order ms := by rw [h]
  exact mem_atRank.symm.trans (hrank.trans mem_atRank)

/-- A list in order is known by what it has at each rank. -/
theorem Ranked.ext (hls : Ranked ls) (hms : Ranked ms) (h : ∀ o, atRank o ls = atRank o ms) :
    ls = ms := by
  have hmem := mem_iff_of_atRank h
  induction ls generalizing ms with
  | nil =>
    cases ms with
    | nil => rfl
    | cons m ms => exact absurd ((hmem m).mpr (List.mem_cons_self ..)) List.not_mem_nil
  | cons l ls ih =>
    cases ms with
    | nil => exact absurd ((hmem l).mp (List.mem_cons_self ..)) List.not_mem_nil
    | cons m ms =>
      have hlm : l.order = m.order := by
        apply EventOrder.rank_injective
        exact Nat.le_antisymm (hls.head_le ((hmem m).mpr (List.mem_cons_self ..)))
          (hms.head_le ((hmem l).mp (List.mem_cons_self ..)))
      -- both are the first at their rank
      have hfirst := h l.order
      simp only [atRank, List.filter_cons, hlm, decide_true, if_true, List.cons.injEq] at hfirst
      obtain ⟨rfl, -⟩ := hfirst
      have hrest : ∀ o, atRank o ls = atRank o ms := by
        intro o
        have ho := h o
        by_cases hlo : l.order = o <;> simpa [atRank, hlo] using ho
      rw [ih (List.pairwise_cons.mp hls).2 (List.pairwise_cons.mp hms).2 hrest
        (mem_iff_of_atRank hrest)]

/-! ### The place of a new listener -/

/-- Halving finds the first index at which `p` does not hold, if `p` does not hold again after
    one at which it does not. -/
theorem bisect_spec {p : Nat → Bool} (hp : ∀ i j, i ≤ j → p j = true → p i = true) {lo hi : Nat}
    (hle : lo ≤ hi) (hlo : ∀ i < lo, p i = true) (hhi : ∀ i, hi ≤ i → p i = false) (i : Nat) :
    p i = true ↔ i < bisect p lo hi := by
  fun_induction bisect p lo hi with
  | case1 lo hi hlt mid hmid ih =>
    refine ih (by omega) ?_ hhi
    intro j hj
    exact hp j mid (by omega) hmid
  | case2 lo hi hlt mid hmid ih =>
    refine ih (by omega) hlo ?_
    intro j hj
    by_contra hpj
    exact hmid (hp mid j hj (by simpa using hpj))
  | case3 lo hi hnot =>
    constructor
    · intro hpi
      by_contra hge
      have hfalse : p i = false := hhi i (by omega)
      rw [hfalse] at hpi
      exact absurd hpi (by decide)
    · exact hlo i

/-- Whether the listener at an index has this rank or an earlier one. -/
def isUpTo (order : EventOrder) (ls : List (Listener κ)) (i : Nat) : Bool :=
  ls[i]?.any fun l => l.order.rank ≤ order.rank

theorem isUpTo_iff (order : EventOrder) (i : Nat) (hi : i < ls.length) :
    isUpTo order ls i = true ↔ ls[i].order.rank ≤ order.rank := by
  rw [isUpTo, List.getElem?_eq_getElem hi, Option.any_some, decide_eq_true_eq]

theorem isUpTo_of_length_le (order : EventOrder) (i : Nat) (hi : ls.length ≤ i) :
    isUpTo order ls i = false := by
  rw [isUpTo, List.getElem?_eq_none hi, Option.any_none]

/-- In a list in order the listeners up to a rank come before the others. -/
theorem Ranked.isUpTo_of_le (hls : Ranked ls) (order : EventOrder) (i j : Nat) (hij : i ≤ j)
    (hj : isUpTo order ls j = true) : isUpTo order ls i = true := by
  by_cases hlen : j < ls.length
  · have hi : i < ls.length := Nat.lt_of_le_of_lt hij hlen
    have hle : ls[i].order.rank ≤ ls[j].order.rank := by
      rcases Nat.lt_or_eq_of_le hij with hlt | rfl
      · exact List.pairwise_iff_getElem.mp hls i j hi hlen hlt
      · exact Nat.le_refl _
    exact (isUpTo_iff order i hi).mpr (Nat.le_trans hle ((isUpTo_iff order j hlen).mp hj))
  · rw [isUpTo_of_length_le order j (Nat.le_of_not_lt hlen)] at hj
    exact absurd hj (by decide)

/-- In a list in order, what comes before the place of a rank is what has this rank or an
    earlier one. -/
theorem lt_place_iff (hls : Ranked ls) (order : EventOrder) (i : Nat) :
    i < place order ls ↔ isUpTo order ls i = true := by
  have hnone : ∀ i < 0, isUpTo order ls i = true := fun i hi => absurd hi (Nat.not_lt_zero i)
  exact (bisect_spec (hls.isUpTo_of_le order) (Nat.zero_le ls.length) hnone
    (isUpTo_of_length_le order) i).symm

theorem place_le_length (hls : Ranked ls) (order : EventOrder) : place order ls ≤ ls.length := by
  by_contra hlt
  have hupTo := (lt_place_iff hls order ls.length).mp (Nat.lt_of_not_le hlt)
  rw [isUpTo_of_length_le order ls.length (Nat.le_refl _)] at hupTo
  exact absurd hupTo (by decide)

theorem rank_le_of_mem_take (hls : Ranked ls) {order : EventOrder} {l : Listener κ}
    (h : l ∈ ls.take (place order ls)) : l.order.rank ≤ order.rank := by
  obtain ⟨i, hi, rfl⟩ := List.mem_take_iff_getElem.mp h
  exact (isUpTo_iff order i (by omega)).mp ((lt_place_iff hls order i).mp (by omega))

theorem lt_rank_of_mem_drop (hls : Ranked ls) {order : EventOrder} {l : Listener κ}
    (h : l ∈ ls.drop (place order ls)) : order.rank < l.order.rank := by
  obtain ⟨i, hi, rfl⟩ := List.mem_drop_iff_getElem.mp h
  rw [← Nat.not_le, ← isUpTo_iff, ← lt_place_iff hls]
  omega

/-- A list in order stays so when a listener is put into its place. -/
theorem Ranked.insertListener (hls : Ranked ls) (l : Listener κ) :
    Ranked (insertListener l ls) := by
  have hbefore := @rank_le_of_mem_take κ ls hls l.order
  have hafter := @lt_rank_of_mem_drop κ ls hls l.order
  refine List.pairwise_append.mpr ⟨hls.sublist (List.take_sublist ..), ?_, ?_⟩
  · refine List.pairwise_cons.mpr ⟨?_, hls.sublist (List.drop_sublist ..)⟩
    intro m hm
    exact Nat.le_of_lt (hafter hm)
  · intro k hk m hm
    rcases List.mem_cons.mp hm with rfl | hm
    · exact hbefore hk
    · exact Nat.le_trans (hbefore hk) (Nat.le_of_lt (hafter hm))

/-- At its rank a new listener is the last. -/
theorem atRank_insertListener (hls : Ranked ls) (l : Listener κ) (o : EventOrder) :
    atRank o (insertListener l ls) = atRank o (ls ++ [l]) := by
  have hsplit : atRank o ls = atRank o (ls.take (place l.order ls)) ++
      atRank o (ls.drop (place l.order ls)) := by
    unfold atRank
    rw [← List.filter_append, List.take_append_drop]
  have hinsert : atRank o (insertListener l ls) = atRank o (ls.take (place l.order ls)) ++
      (atRank o [l] ++ atRank o (ls.drop (place l.order ls))) := by
    unfold atRank Bus.insertListener
    rw [List.filter_append, ← List.singleton_append, List.filter_append]
  have hlast : atRank o (ls ++ [l]) = atRank o ls ++ atRank o [l] := List.filter_append ..
  rw [hinsert, hlast, hsplit, List.append_assoc]
  by_cases ho : l.order = o
  · -- those behind the new listener have later ranks
    have hnone : atRank o (ls.drop (place l.order ls)) = [] := by
      refine List.filter_eq_nil_iff.mpr ?_
      intro m hm hmo
      have hlt := lt_rank_of_mem_drop hls hm
      rw [of_decide_eq_true hmo, ho] at hlt
      exact Nat.lt_irrefl _ hlt
    rw [hnone, List.append_nil, List.nil_append]
  · have hnone : atRank o [l] = [] := by simp [atRank, ho]
    rw [hnone, List.nil_append, List.append_nil]

/-! ### Changes -/

/-- What is done to the listeners of a bus. -/
inductive Change (κ : Type) where
  /-- A listener is registered. -/
  | register (order : EventOrder) (name : String) (body : κ)
  /-- All listeners of a name are removed. -/
  | unregister (name : String)

/-- Whether a change removes the listeners called `name`. -/
def Change.removes (name : String) : Change κ → Bool
  | .register _ _ _ => false
  | .unregister name' => name == name'

/-- The bus after a change. -/
def change (b : Bus κ) : Change κ → Bus κ
  | .register order name body => b.register order name body
  | .unregister name => (b.unregister name).2

/-- The registrations that no later change has removed, in the order in which they were
    made. -/
def standing : List (Change κ) → List (Listener κ)
  | [] => []
  | .register order name body :: rest =>
    if rest.any (·.removes name) then standing rest else ⟨order, name, body⟩ :: standing rest
  | .unregister _ :: rest => standing rest

/-- More changes leave what they do not remove, and add what stands of their own. -/
theorem standing_append (cs cs' : List (Change κ)) : standing (cs ++ cs') =
    (standing cs).filter (fun l => !cs'.any (·.removes l.name)) ++ standing cs' := by
  induction cs with
  | nil => rfl
  | cons c cs ih =>
    cases c with
    | unregister name => exact ih
    | register order name body =>
      simp only [List.cons_append, standing, List.any_append, ih]
      -- the registration may be removed by the first changes, or by the others
      cases cs.any (·.removes name) with
      | true => simp only [Bool.true_or, if_true]
      | false =>
        cases h : cs'.any (·.removes name) with
        | true => simp only [Bool.or_true, if_true, Bool.false_eq_true, if_false,
            List.filter_cons, h, Bool.not_true]
        | false => simp only [Bool.or_false, Bool.false_eq_true, if_false, List.filter_cons, h,
            Bool.not_false, if_true, List.cons_append]

/-- A registration removes nothing and stands last, -/
theorem standing_concat_register (cs : List (Change κ)) (order : EventOrder) (name : String)
    (body : κ) : standing (cs ++ [.register order name body]) =
      standing cs ++ [⟨order, name, body⟩] := by
  rw [standing_append]
  simp only [List.any_cons, List.any_nil, Change.removes, Bool.or_false, Bool.not_false,
    List.filter_true]
  rfl

/-- and a removal leaves what has another name. -/
theorem standing_concat_unregister (cs : List (Change κ)) (name : String) :
    standing (cs ++ [.unregister name]) = (standing cs).filter (·.name != name) := by
  rw [standing_append]
  simp only [List.any_cons, List.any_nil, Change.removes, Bool.or_false, bne]
  exact List.append_nil _

/-- After any changes the listeners are in order, and at each rank they are the registrations
    that stand. -/
theorem ranked_foldl_change (capacity : Nat) (cs : List (Change κ)) :
    Ranked (cs.foldl change (new capacity)).listeners ∧
      ∀ o, atRank o (cs.foldl change (new capacity)).listeners = atRank o (standing cs) := by
  induction cs using List.reverseRecOn with
  | nil => exact ⟨List.Pairwise.nil, fun o => rfl⟩
  | append_singleton cs c ih =>
    obtain ⟨hranked, hranks⟩ := ih
    rw [List.foldl_append, List.foldl_cons, List.foldl_nil]
    cases c with
    | register order name body =>
      refine ⟨hranked.insertListener ⟨order, name, body⟩, ?_⟩
      intro o
      rw [standing_concat_register]
      refine (atRank_insertListener hranked ⟨order, name, body⟩ o).trans ?_
      unfold atRank at hranks ⊢
      rw [List.filter_append, List.filter_append, hranks]
    | unregister name =>
      refine ⟨hranked.filter _, ?_⟩
      intro o
      rw [standing_concat_unregister]
      show atRank o ((cs.foldl change (new capacity)).listeners.filter (·.name != name)) = _
      unfold atRank at hranks ⊢
      rw [List.filter_comm, hranks, List.filter_comm]

/-- A removal leaves the listeners of other names as they stand. -/
theorem unregister_listeners (b : Bus κ) (name : String) :
    (b.unregister name).2.listeners = b.listeners.filter (·.name ≠ name) := by
  refine List.filter_congr ?_
  intro l hl
  by_cases h : l.name = name <;> simp [h]

/-- A removal tells how many listeners had the name. -/
theorem unregister_count (b : Bus κ) (name : String) :
    (b.unregister name).1 = b.listeners.countP (·.name = name) := by
  have hsum : b.listeners.length = b.listeners.countP (fun l => l.name = name) +
      b.listeners.countP (fun l => ¬ decide (l.name = name) = true) :=
    List.length_eq_countP_add_countP _
  have hkept : (b.unregister name).2.listeners.length =
      b.listeners.countP (fun l => ¬ decide (l.name = name) = true) := by
    rw [unregister_listeners, List.countP_eq_length_filter]
    congr 2
    funext l
    simp
  show b.listeners.length - (b.unregister name).2.listeners.length = _
  omega

/-! ### The stable order -/

/-- Whether the first of two listeners has no later rank than the second. -/
def notAfter (l m : Listener κ) : Bool :=
  l.order.rank ≤ m.order.rank

theorem notAfter_trans (k l m : Listener κ) (hkl : notAfter k l = true)
    (hlm : notAfter l m = true) : notAfter k m = true :=
  decide_eq_true (Nat.le_trans (of_decide_eq_true hkl) (of_decide_eq_true hlm))

theorem notAfter_total (l m : Listener κ) : (notAfter l m || notAfter m l) = true := by
  simp only [notAfter, Bool.or_eq_true, decide_eq_true_eq]
  exact Nat.le_total ..

theorem ranked_mergeSort (ls : List (Listener κ)) : Ranked (ls.mergeSort notAfter) :=
  (List.pairwise_mergeSort notAfter_trans notAfter_total ls).imp of_decide_eq_true

/-- Sorting leaves the listeners of one rank in their order. -/
theorem atRank_mergeSort (o : EventOrder) (ls : List (Listener κ)) :
    atRank o (ls.mergeSort notAfter) = atRank o ls := by
  have hequal : (atRank o ls).Pairwise fun l m => notAfter l m = true := by
    refine List.pairwise_of_forall_mem_list ?_
    intro l hl m hm
    have hl : l.order = o := of_decide_eq_true (List.mem_filter.mp hl).2
    have hm : m.order = o := of_decide_eq_true (List.mem_filter.mp hm).2
    simp [notAfter, hl, hm]
  have hsub : (atRank o ls).Sublist (atRank o (ls.mergeSort notAfter)) := by
    have hfilter : (atRank o ls).filter (·.order = o) = atRank o ls := by simp [atRank]
    rw [← hfilter]
    exact (List.sublist_mergeSort notAfter_trans notAfter_total hequal
      List.filter_sublist).filter _
  exact (hsub.eq_of_length ((ls.mergeSort_perm notAfter).filter _).length_eq.symm).symm

/-! ### Main statement -/

/-- **Listeners stand in order**: after any registrations and removals,

    1. the listeners are the registrations that were not removed since, sorted by rank, those
       of one rank in the order of their registration,
    2. the list is in order when the place of the next listener is looked for, and the place
       that is found parts the listeners of this rank and earlier ones from those of later
       ones, and
    3. a removal removes all listeners of the name, leaves the others in their order, and
       tells how many it has removed. -/
theorem listeners_stand_in_order (capacity : Nat) (cs : List (Change κ)) :
    (cs.foldl change (new capacity)).listeners = (standing cs).mergeSort notAfter ∧
      Ranked (cs.foldl change (new capacity)).listeners ∧
      (∀ order, ∃ before after,
        (cs.foldl change (new capacity)).listeners = before ++ after ∧
        before.length = place order (cs.foldl change (new capacity)).listeners ∧
        (∀ l ∈ before, l.order.rank ≤ order.rank) ∧ ∀ l ∈ after, order.rank < l.order.rank) ∧
      ∀ name,
        ((cs.foldl change (new capacity)).unregister name).2.listeners =
          (cs.foldl change (new capacity)).listeners.filter (·.name ≠ name) ∧
        ((cs.foldl change (new capacity)).unregister name).1 =
          (cs.foldl change (new capacity)).listeners.countP (·.name = name) := by
  obtain ⟨hranked, hranks⟩ := ranked_foldl_change capacity cs
  generalize cs.foldl change (new capacity) = b at hranked hranks ⊢
  refine ⟨?_, hranked, ?_, ?_⟩
  · refine hranked.ext (ranked_mergeSort _) ?_
    intro o
    exact (hranks o).trans (atRank_mergeSort o _).symm
  · intro order
    refine ⟨b.listeners.take (place order b.listeners), b.listeners.drop (place order b.listeners),
      (List.take_append_drop ..).symm, ?_, ?_, ?_⟩
    · exact List.length_take_of_le (place_le_length hranked order)
    · intro l hl
      exact rank_le_of_mem_take hranked hl
    · intro l hl
      exact lt_rank_of_mem_drop hranked hl
  · intro name
    exact ⟨unregister_listeners b name, unregister_count b name⟩

/-- Listeners of all ranks come, and one goes and comes again at another rank. -/
def mixed : List (Change Unit) :=
  [.register .last "bridge" (), .register .default "doors" (), .register .late "map" (),
    .register .first "log" (), .register .default "music" (), .unregister "doors",
    .register .early "doors" (), .register .default "weather" ()]

theorem listeners_stand_in_order_mixed : (mixed.foldl change (new 1)).listenerNames =
    ["log", "doors", "music", "weather", "map", "bridge"] := by
  obtain ⟨hsorted, -⟩ := listeners_stand_in_order 1 mixed
  rw [listenerNames, hsorted]
  simp [mixed, standing, Change.removes, List.mergeSort, notAfter, EventOrder.rank]

end Bus

end PermissionContexts
