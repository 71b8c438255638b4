import PermissionContexts.Proofs.Keyed
import PermissionContexts.Settings.Overlay

/-! # What an overlay holds

    The members of the upper document are laid over those of the lower one in turn
    (`layMember`). Where no name occurs twice each of them is laid once, so that what an
    overlay holds under a name is told by what the two documents hold there:

    * what the lower one holds, if the upper one gives nothing (`lookup_overlay_of_none`),
      and
    * otherwise what the upper one gives, laid over what the lower one holds if it holds
      anything (`lookup_overlay_of_some`).

    The members of the overlay are sorted if those of the lower document are, so that these
    two rules say all about it (`overlay_obj_eq`).

    Over nothing at all, what remains is what the upper document gives, in its order
    (`overlayMembers_nil`).
-/

namespace PermissionContexts

namespace Json

/-- The value `v` laid over what there may be. -/
def laidOver (v : Json) : Option Json → Json
  | some below => overlay below v
  | none => v

/-- The members `target` with one member laid over them. -/
def layMember (target : List (String × Json)) (m : String × Json) : List (String × Json) :=
  if m.2.isNull then target else Keyed.insert m.1 (m.2.laidOver (Keyed.lookup m.1 target)) target

variable {target source : List (String × Json)} {k : String} {v : Json}

theorem isNull_overlay (t s : Json) : (overlay t s).isNull = s.isNull := by
  cases t <;> cases s <;> rfl

theorem isNull_laidOver (v : Json) (below : Option Json) :
    (v.laidOver below).isNull = v.isNull := by
  cases below with
  | none => rfl
  | some below => exact isNull_overlay below v

theorem overlay_obj : overlay (.obj target) (.obj source) = .obj (overlayMembers target source) := by
  rw [overlay]

theorem overlayMembers_cons (m : String × Json) :
    overlayMembers target (m :: source) = overlayMembers (layMember target m) source := by
  obtain ⟨k, v⟩ := m
  rw [overlayMembers, layMember]
  congr 1
  split_ifs
  · rfl
  · cases Keyed.lookup k target <;> rfl

theorem lookup_layMember (m : String × Json) :
    Keyed.lookup k (layMember target m) = if m.1 = k ∧ m.2.isNull = false then
      some (m.2.laidOver (Keyed.lookup k target)) else Keyed.lookup k target := by
  obtain ⟨k', v⟩ := m
  unfold layMember
  by_cases hnull : v.isNull = true
  · simp [hnull]
  · rw [if_neg hnull, Keyed.lookup_insert]
    by_cases hk : k' = k
    · subst hk
      simp [hnull]
    · simp [hk]

/-! ### What is given -/

theorem given?_obj : (obj source).given? k = (Keyed.lookup k source).filter (!·.isNull) := by
  unfold given? member?
  dsimp only
  cases Keyed.lookup k source with
  | none => rfl
  | some v => cases v <;> rfl

theorem given?_cons (m : String × Json) : (obj (m :: source)).given? k =
    if m.1 = k then some m.2 |>.filter (!·.isNull) else (obj source).given? k := by
  rw [given?_obj, given?_obj, Keyed.lookup]
  split_ifs <;> rfl

theorem given?_eq_none_of_not_mem (h : k ∉ Keyed.keys source) : (obj source).given? k = none := by
  rw [given?_obj, Keyed.lookup_eq_none_iff.mpr h]
  rfl

theorem lookup_of_given? (h : (obj source).given? k = some v) : Keyed.lookup k source = some v := by
  rw [given?_obj, Option.filter_eq_some_iff] at h
  exact h.1

theorem given?_of_lookup (h : Keyed.lookup k source = some v) (hv : v.isNull = false) :
    (obj source).given? k = some v := by
  rw [given?_obj, h, Option.filter_some, if_pos (by simpa using hv)]

theorem isNull_of_given? (h : (obj source).given? k = some v) : v.isNull = false := by
  rw [given?_obj, Option.filter_eq_some_iff] at h
  simpa using h.2

/-! ### Names -/

/-- What the upper document does not give is held as before. -/
theorem lookup_overlay_of_none (h : (obj source).given? k = none) (hnodup : (Keyed.keys source).Nodup) :
    Keyed.lookup k (overlayMembers target source) = Keyed.lookup k target := by
  induction source generalizing target with
  | nil => rw [overlayMembers]
  | cons m source ih =>
    obtain ⟨hm, hnodup⟩ := List.nodup_cons.mp hnodup
    rw [given?_cons] at h
    rw [overlayMembers_cons]
    by_cases hk : m.1 = k
    · subst hk
      have hnull : m.2.isNull = true := by simpa using h
      rw [ih (given?_eq_none_of_not_mem hm) hnodup, lookup_layMember, if_neg (by simp [hnull])]
    · rw [if_neg hk] at h
      rw [ih h hnodup, lookup_layMember, if_neg (by simp [hk])]

/-- What the upper document gives is laid over what was held. -/
theorem lookup_overlay_of_some (h : (obj source).given? k = some v)
    (hnodup : (Keyed.keys source).Nodup) : Keyed.lookup k (overlayMembers target source) =
      some (v.laidOver (Keyed.lookup k target)) := by
  induction source generalizing target with
  | nil => simp [given?, member?, Keyed.lookup] at h
  | cons m source ih =>
    obtain ⟨hm, hnodup⟩ := List.nodup_cons.mp hnodup
    rw [given?_cons] at h
    rw [overlayMembers_cons]
    by_cases hk : m.1 = k
    · subst hk
      rw [if_pos rfl, Option.filter_eq_some_iff] at h
      obtain ⟨hv, hnull⟩ := h
      obtain rfl := Option.some.inj hv
      rw [lookup_overlay_of_none (given?_eq_none_of_not_mem hm) hnodup, lookup_layMember,
        if_pos (by simpa using hnull)]
    · rw [if_neg hk] at h
      rw [ih h hnodup, lookup_layMember, if_neg (by simp [hk])]

/-- Both cases in one. -/
theorem lookup_overlay (hnodup : (Keyed.keys source).Nodup) :
    Keyed.lookup k (overlayMembers target source) =
      (((obj source).given? k).map fun v => v.laidOver (Keyed.lookup k target)).or
        (Keyed.lookup k target) := by
  cases hgiven : (obj source).given? k with
  | none => rw [lookup_overlay_of_none hgiven hnodup, Option.map_none, Option.none_or]
  | some v => rw [lookup_overlay_of_some hgiven hnodup, Option.map_some, Option.some_or]

/-- What an overlay gives is what the upper document gives, laid over, or else what the lower one
    gives. -/
theorem given?_overlay (h : (Keyed.keys source).Nodup) :
    (obj (overlayMembers target source)).given? k =
      (((obj source).given? k).map fun v => v.laidOver (Keyed.lookup k target)).or
        ((obj target).given? k) := by
  rw [given?_obj]
  cases hgiven : (obj source).given? k with
  | none => rw [lookup_overlay_of_none hgiven h, ← given?_obj, Option.map_none, Option.none_or]
  | some v =>
    rw [lookup_overlay_of_some hgiven h, Option.filter_some, isNull_laidOver,
      isNull_of_given? hgiven]
    rfl

theorem sorted_overlayMembers (h : Keyed.Sorted target) :
    Keyed.Sorted (overlayMembers target source) := by
  induction source generalizing target with
  | nil => rwa [overlayMembers]
  | cons m source ih =>
    rw [overlayMembers_cons]
    apply ih
    unfold layMember
    split_ifs
    · exact h
    · exact h.insert _ _

/-- An overlay of objects is known by what it holds under each name. -/
theorem overlay_obj_eq {members : List (String × Json)} (htarget : Keyed.Sorted target)
    (hnodup : (Keyed.keys source).Nodup) (hmembers : Keyed.Sorted members)
    (h : ∀ k, (((obj source).given? k).map fun v => v.laidOver (Keyed.lookup k target)).or
      (Keyed.lookup k target) = Keyed.lookup k members) :
    overlay (.obj target) (.obj source) = .obj members := by
  rw [overlay_obj]
  apply congrArg Json.obj
  apply (sorted_overlayMembers htarget).ext hmembers
  intro k
  rw [lookup_overlay hnodup, h]

/-! ### Over nothing -/

/-- Members after all those of the lower document are appended to them, but for null. -/
theorem overlayMembers_of_sorted (h : Keyed.Sorted (target ++ source)) :
    overlayMembers target source = target ++ source.filter fun m => !m.2.isNull := by
  induction source generalizing target with
  | nil => simp [overlayMembers]
  | cons m source ih =>
    rw [overlayMembers_cons]
    unfold layMember
    by_cases hnull : m.2.isNull = true
    · have hsorted : Keyed.Sorted (target ++ source) :=
        h.sublist (List.sublist_cons_self m source |>.append_left target)
      rw [if_pos hnull, ih hsorted, List.filter_cons_of_neg (by simp [hnull])]
    · have hlt : ∀ e ∈ target, e.1 < m.1 := fun e he =>
        (List.pairwise_append.mp h).2.2 e he m (List.mem_cons_self ..)
      have happend : target ++ m :: source = (target ++ [m]) ++ source := by simp
      rw [if_neg hnull, Keyed.lookup_of_forall_lt hlt, Keyed.insert_of_forall_lt hlt,
        List.filter_cons_of_pos (by simpa using hnull)]
      show overlayMembers (target ++ [m]) source = _
      rw [ih (happend ▸ h), List.append_assoc, List.singleton_append]

/-- Over nothing, what is not null remains. -/
theorem overlayMembers_nil (h : Keyed.Sorted source) :
    overlayMembers [] source = source.filter fun m => !m.2.isNull :=
  overlayMembers_of_sorted h

end Json

end PermissionContexts
