import PermissionContexts.Proofs.Paths

/-! # Nulls in the upper document

    A null member of the upper document is passed over where its object is laid over an
    object. Anywhere else the object of the upper document is taken as it is, and its nulls
    with it. So it makes a difference whether the nulls are dropped first
    (`withoutNulls`):

    * **Covered** nulls, those in objects that are laid over objects, might as well not be
      there (`overlay_withoutNulls`).
    * Any **other** null is held by the overlay (`atPath?_overlay_of_null`), but by the
      overlay of the document without nulls only if the lower document holds it too
      (`atPath?_of_overlay_null`).
    * **Apart from nulls** both overlays are the same (`withoutNulls_overlay`).

    Main statement: `nulls_are_passed_over_iff`.
-/

namespace PermissionContexts

namespace Json

variable {t s v : Json} {target source : List (String × Json)} {k : String} {p : List String}

mutual

/-- The value without the null members of its objects, nested through objects. -/
def withoutNulls : Json → Json
  | .obj members => .obj (withoutNullMembers members)
  | j => j

/-- The members that are not null, with their values stripped as well. -/
def withoutNullMembers : List (String × Json) → List (String × Json)
  | [] => []
  | (k, v) :: rest =>
    if v.isNull then withoutNullMembers rest else (k, withoutNulls v) :: withoutNullMembers rest

end

/-- No path through objects leads to a null. -/
def NullFree (j : Json) : Prop :=
  ∀ p, j.atPath? p ≠ some .null

/-- The value holds an object at the path. -/
def ObjectAt (j : Json) (p : List String) : Prop :=
  ∃ v, j.atPath? p = some v ∧ v.IsObject

/-- Wherever an object of `s` has a null member, `t` holds an object. -/
def CoversNulls (t s : Json) : Prop :=
  ∀ p k, s.atPath? (p ++ [k]) = some .null → t.ObjectAt p

/-! ### Members -/

theorem withoutNulls_of_not_isObject (h : ¬ s.IsObject) : s.withoutNulls = s := by
  cases s with
  | obj source => exact absurd ⟨source, rfl⟩ h
  | _ => rfl

theorem withoutNulls_obj : (obj source).withoutNulls = .obj (withoutNullMembers source) := by
  rw [withoutNulls]

theorem isNull_withoutNulls (v : Json) : v.withoutNulls.isNull = v.isNull := by
  cases v <;> rfl

theorem withoutNullMembers_cons (m : String × Json) : withoutNullMembers (m :: source) =
    if m.2.isNull then withoutNullMembers source
      else (m.1, m.2.withoutNulls) :: withoutNullMembers source := by
  obtain ⟨k, v⟩ := m
  rw [withoutNullMembers]

theorem keys_withoutNullMembers_sublist :
    (Keyed.keys (withoutNullMembers source)).Sublist (Keyed.keys source) := by
  induction source with
  | nil => exact List.Sublist.refl _
  | cons m source ih =>
    rw [withoutNullMembers_cons]
    split_ifs
    · exact ih.cons m.1
    · exact ih.cons_cons m.1

theorem sorted_withoutNullMembers (h : Keyed.Sorted source) :
    Keyed.Sorted (withoutNullMembers source) := by
  have hkeys : (Keyed.keys source).Pairwise (· < ·) := List.pairwise_map.mpr h
  exact List.pairwise_map.mp (hkeys.sublist keys_withoutNullMembers_sublist)

/-- What is given is left, without its own nulls. -/
theorem lookup_withoutNullMembers (h : (Keyed.keys source).Nodup) :
    Keyed.lookup k (withoutNullMembers source) = ((obj source).given? k).map withoutNulls := by
  induction source with
  | nil => rfl
  | cons m source ih =>
    obtain ⟨hm, h⟩ := List.nodup_cons.mp h
    rw [withoutNullMembers_cons, given?_cons]
    by_cases hnull : m.2.isNull = true
    · rw [if_pos hnull, ih h]
      by_cases hk : m.1 = k
      · -- the name does not occur again
        subst hk
        rw [given?_eq_none_of_not_mem hm, if_pos rfl, Option.filter_some, hnull]
        rfl
      · rw [if_neg hk]
    · rw [if_neg hnull, Keyed.lookup]
      by_cases hk : m.1 = k
      · rw [if_pos hk, if_pos hk, Option.filter_some, if_pos (by simpa using hnull),
          Option.map_some]
      · rw [if_neg hk, if_neg hk, ih h]

theorem given?_withoutNullMembers (h : (Keyed.keys source).Nodup) :
    (obj (withoutNullMembers source)).given? k = ((obj source).given? k).map withoutNulls := by
  rw [given?_obj, lookup_withoutNullMembers h]
  cases hgiven : (obj source).given? k with
  | none => rfl
  | some v =>
    rw [Option.map_some, Option.filter_some, isNull_withoutNulls, isNull_of_given? hgiven]
    rfl

theorem canonical_withoutNulls (h : s.Canonical) : s.withoutNulls.Canonical := by
  induction s using objectInduction with
  | other s hother => rwa [withoutNulls_of_not_isObject hother]
  | obj source ih =>
    have hsorted := sorted_withoutNullMembers h.1
    rw [withoutNulls_obj]
    refine ⟨hsorted, canonicalMembers_iff.mpr ?_⟩
    intro m hm
    have hlookup := Keyed.lookup_of_mem (Keyed.Sorted.nodup_keys hsorted) hm
    rw [lookup_withoutNullMembers (Keyed.Sorted.nodup_keys h.1)] at hlookup
    obtain ⟨v, hgiven, hv⟩ := Option.map_eq_some_iff.mp hlookup
    have hmember := lookup_of_given? hgiven
    rw [← hv]
    exact ih m.1 v hmember (canonical_of_lookup h hmember)

/-! ### Paths to nulls -/

theorem objectAt_cons (hv : Keyed.lookup k target = some v) (h : v.ObjectAt p) :
    (obj target).ObjectAt (k :: p) := by
  obtain ⟨w, hw, hobject⟩ := h
  refine ⟨w, ?_, hobject⟩
  rw [atPath?_obj_cons, hv]
  exact hw

/-- Where an object is held there are objects all the way. -/
theorem exists_of_objectAt_cons (h : t.ObjectAt (k :: p)) : ∃ target below,
    t = .obj target ∧ Keyed.lookup k target = some below ∧ below.ObjectAt p := by
  obtain ⟨w, hw, hobject⟩ := h
  obtain ⟨target, below, rfl, hbelow, hw⟩ := exists_members_of_atPath? hw
  exact ⟨target, below, rfl, hbelow, w, hw, hobject⟩

theorem ObjectAt.isObject (h : t.ObjectAt p) : t.IsObject := by
  cases p with
  | nil =>
    obtain ⟨v, hv, hobject⟩ := h
    obtain rfl := Option.some.inj hv
    exact hobject
  | cons k p =>
    obtain ⟨target, -, rfl, -⟩ := exists_of_objectAt_cons h
    exact ⟨target, rfl⟩

/-- What is held at the end of a path is held in an object. -/
theorem objectAt_of_atPath? (h : t.atPath? (p ++ [k]) = some v) : t.ObjectAt p := by
  induction p generalizing t with
  | nil =>
    obtain ⟨target, -, rfl, -⟩ := exists_members_of_atPath? h
    exact ⟨_, rfl, target, rfl⟩
  | cons k' p ih =>
    obtain ⟨target, below, rfl, hbelow, h⟩ := exists_members_of_atPath? h
    exact objectAt_cons hbelow (ih h)

/-- What is held without nulls is given. -/
theorem exists_members_of_withoutNulls (hs : s.Canonical)
    (h : s.withoutNulls.atPath? (k :: p) = some v) : ∃ source w, s = .obj source ∧
      (obj source).given? k = some w ∧ w.withoutNulls.atPath? p = some v := by
  obtain ⟨stripped, w, hstripped, hw, hv⟩ := exists_members_of_atPath? h
  cases s with
  | obj source =>
    rw [withoutNulls_obj] at hstripped
    obtain rfl := Json.obj.inj hstripped
    rw [lookup_withoutNullMembers (Keyed.Sorted.nodup_keys hs.1)] at hw
    obtain ⟨w, hgiven, rfl⟩ := Option.map_eq_some_iff.mp hw
    exact ⟨source, w, rfl, hgiven, hv⟩
  | _ => simp [withoutNulls] at hstripped

theorem atPath?_nil_ne_null (h : v.isNull = false) : v.atPath? [] ≠ some .null := by
  intro hnull
  rw [Option.some.inj hnull] at h
  exact absurd h (by simp [isNull])

theorem NullFree.isNull (h : v.NullFree) : v.isNull = false := by
  cases v with
  | null => exact absurd rfl (h [])
  | _ => rfl

/-- A value is free of nulls if it is no null and no object in it has a null member. -/
theorem nullFree_of_not_null (hv : v.isNull = false)
    (h : ∀ p k, v.atPath? (p ++ [k]) ≠ some .null) : v.NullFree := by
  intro p
  rcases List.eq_nil_or_concat' p with rfl | ⟨q, k, rfl⟩
  · exact atPath?_nil_ne_null hv
  · exact h q k

theorem nullFree_of_lookup (h : (obj source).NullFree) (hv : Keyed.lookup k source = some v) :
    v.NullFree := by
  intro p hp
  refine h (k :: p) ?_
  rw [atPath?_obj_cons, hv]
  exact hp

/-- No null is left. -/
theorem nullFree_withoutNulls (hs : s.Canonical) (hnull : s.isNull = false) :
    s.withoutNulls.NullFree := by
  intro p h
  induction p generalizing s with
  | nil => exact atPath?_nil_ne_null (by rwa [isNull_withoutNulls]) h
  | cons k p ih =>
    obtain ⟨source, w, rfl, hgiven, hw⟩ := exists_members_of_withoutNulls hs h
    exact ih (canonical_of_lookup hs (lookup_of_given? hgiven)) (isNull_of_given? hgiven) hw

/-- Where there are no nulls nothing changes. -/
theorem withoutNulls_of_nullFree (hs : s.Canonical) (h : s.NullFree) : s.withoutNulls = s := by
  induction s using objectInduction with
  | other s hother => exact withoutNulls_of_not_isObject hother
  | obj source ih =>
    rw [withoutNulls_obj]
    refine congrArg Json.obj ((sorted_withoutNullMembers hs.1).ext hs.1 ?_)
    intro k
    rw [lookup_withoutNullMembers (Keyed.Sorted.nodup_keys hs.1)]
    cases hv : Keyed.lookup k source with
    | none => rw [given?_obj, hv, Option.filter_none, Option.map_none]
    | some v =>
      have hfree := nullFree_of_lookup h hv
      rw [given?_of_lookup hv hfree.isNull, Option.map_some,
        ih k v hv (canonical_of_lookup hs hv) hfree]

/-! ### Covered nulls -/

/-- Over a value that is no object no null is covered. -/
theorem CoversNulls.nullFree (h : t.CoversNulls s) (ht : ¬ t.IsObject) (hs : s.isNull = false) :
    s.NullFree := by
  refine nullFree_of_not_null hs ?_
  intro p k hp
  exact ht (h p k hp).isObject

/-- A null of a member is covered by what is below this member. -/
theorem CoversNulls.objectAt (h : (obj target).CoversNulls (obj source))
    (hv : Keyed.lookup k source = some v) {k' : String} (hp : v.atPath? (p ++ [k']) = some .null) :
    ∃ below, Keyed.lookup k target = some below ∧ below.ObjectAt p := by
  have hobject : (obj target).ObjectAt (k :: p) := by
    refine h (k :: p) k' ?_
    rw [List.cons_append, atPath?_obj_cons, hv]
    exact hp
  obtain ⟨_, below, heq, hbelow, hobject⟩ := exists_of_objectAt_cons hobject
  obtain rfl := Json.obj.inj heq
  exact ⟨below, hbelow, hobject⟩

theorem CoversNulls.member {below : Json} (h : (obj target).CoversNulls (obj source))
    (hv : Keyed.lookup k source = some v) (hbelow : Keyed.lookup k target = some below) :
    below.CoversNulls v := by
  intro p k' hp
  obtain ⟨below', hbelow', hobject⟩ := h.objectAt hv hp
  obtain rfl := Option.some.inj (hbelow.symm.trans hbelow')
  exact hobject

theorem CoversNulls.nullFree_member (h : (obj target).CoversNulls (obj source))
    (hv : (obj source).given? k = some v) (hbelow : Keyed.lookup k target = none) :
    v.NullFree := by
  refine nullFree_of_not_null (isNull_of_given? hv) ?_
  intro p k' hp
  obtain ⟨below, hbelow', -⟩ := h.objectAt (lookup_of_given? hv) hp
  exact absurd hbelow' (by simp [hbelow])

/-- Covered nulls might as well not be there. -/
theorem overlay_withoutNulls (ht : t.Canonical) (hs : s.Canonical) (h : t.CoversNulls s) :
    overlay t s.withoutNulls = overlay t s := by
  induction s using objectInduction generalizing t with
  | other s hother => rw [withoutNulls_of_not_isObject hother]
  | obj source ih =>
    by_cases hobject : t.IsObject
    · obtain ⟨target, rfl⟩ := hobject
      have hnodup : (Keyed.keys source).Nodup := Keyed.Sorted.nodup_keys hs.1
      have hsorted : Keyed.Sorted (overlayMembers target source) := sorted_overlayMembers ht.1
      rw [withoutNulls_obj, overlay_obj]
      apply overlay_obj_eq ht.1 (hnodup.sublist keys_withoutNullMembers_sublist) hsorted
      intro k
      rw [lookup_overlay hnodup, given?_withoutNullMembers hnodup]
      cases hgiven : (Json.obj source).given? k with
      | none => rfl
      | some v =>
        have hv := lookup_of_given? hgiven
        have hcanonical : v.Canonical := canonical_of_lookup hs hv
        simp only [Option.map_some, Option.some_or, Option.some.injEq]
        -- over nothing no null would be covered, so that the member has none
        cases hbelow : Keyed.lookup k target with
        | none => exact withoutNulls_of_nullFree hcanonical (h.nullFree_member hgiven hbelow)
        | some below =>
          exact ih k v hv (canonical_of_lookup ht hbelow) hcanonical (h.member hv hbelow)
    · rw [withoutNulls_of_nullFree hs (h.nullFree hobject rfl)]

/-! ### Other nulls -/

/-- A null that is not covered is held. -/
theorem atPath?_overlay_of_null (hs : s.Canonical) (h : s.atPath? (p ++ [k]) = some .null)
    (ht : ¬ t.ObjectAt p) : (overlay t s).atPath? (p ++ [k]) = some .null := by
  induction p generalizing t s with
  | nil =>
    have hobject : ¬ t.IsObject := fun hobject => ht ⟨t, rfl, hobject⟩
    rw [overlay_of_target hobject]
    exact h
  | cons k' p ih =>
    by_cases hobject : t.IsObject
    · obtain ⟨target, rfl⟩ := hobject
      obtain ⟨source, w, rfl, hw, hnull⟩ := exists_members_of_atPath? h
      have hgiven := given?_of_lookup hw (isNull_of_isObject (objectAt_of_atPath? hnull).isObject)
      rw [List.cons_append, atPath?_overlay_of_some hs hgiven]
      -- over nothing the member is held as it is, with its nulls
      cases hbelow : Keyed.lookup k' target with
      | none => exact hnull
      | some below =>
        exact ih (canonical_of_lookup hs hw) hnull fun hp => ht (objectAt_cons hbelow hp)
    · rw [overlay_of_target hobject]
      exact h

/-- If the upper document has no nulls, those of the overlay come from the lower one. -/
theorem atPath?_of_overlay_null (hs : s.Canonical) (hfree : s.NullFree)
    (h : (overlay t s).atPath? p = some .null) : t.atPath? p = some .null := by
  induction p generalizing t s with
  | nil => exact absurd h (atPath?_nil_ne_null (by rw [isNull_overlay, hfree.isNull]))
  | cons k p ih =>
    by_cases ht : t.IsObject
    · by_cases hobject : s.IsObject
      · obtain ⟨target, rfl⟩ := ht
        obtain ⟨source, rfl⟩ := hobject
        cases hgiven : (obj source).given? k with
        | none => rwa [atPath?_overlay_of_none hs hgiven] at h
        | some v =>
          have hv := lookup_of_given? hgiven
          have hvfree := nullFree_of_lookup hfree hv
          rw [atPath?_overlay_of_some hs hgiven] at h
          cases hbelow : Keyed.lookup k target with
          | none =>
            rw [hbelow] at h
            exact absurd h (hvfree p)
          | some below =>
            rw [hbelow] at h
            rw [atPath?_obj_cons, hbelow]
            exact ih (canonical_of_lookup hs hv) hvfree h
      · rw [overlay_of_source hobject] at h
        exact absurd h (hfree (k :: p))
    · rw [overlay_of_target ht] at h
      exact absurd h (hfree (k :: p))

/-! ### Apart from nulls -/

theorem withoutNulls_withoutNulls (hs : s.Canonical) :
    s.withoutNulls.withoutNulls = s.withoutNulls := by
  by_cases hobject : s.IsObject
  · exact withoutNulls_of_nullFree (canonical_withoutNulls hs)
      (nullFree_withoutNulls hs (isNull_of_isObject hobject))
  · rw [withoutNulls_of_not_isObject hobject, withoutNulls_of_not_isObject hobject]

/-- Apart from nulls it makes no difference whether the nulls of the upper document are
    dropped first. -/
theorem withoutNulls_overlay (ht : t.Canonical) (hs : s.Canonical) :
    (overlay t s.withoutNulls).withoutNulls = (overlay t s).withoutNulls := by
  induction s using objectInduction generalizing t with
  | other s hother => rw [withoutNulls_of_not_isObject hother]
  | obj source ih =>
    by_cases hobject : t.IsObject
    · obtain ⟨target, rfl⟩ := hobject
      have hnodup : (Keyed.keys source).Nodup := Keyed.Sorted.nodup_keys hs.1
      have hsorted : ∀ source, Keyed.Sorted (overlayMembers target source) :=
        fun source => sorted_overlayMembers ht.1
      rw [withoutNulls_obj, overlay_obj, overlay_obj, withoutNulls_obj, withoutNulls_obj]
      refine congrArg Json.obj ((sorted_withoutNullMembers (hsorted _)).ext
        (sorted_withoutNullMembers (hsorted _)) ?_)
      intro k
      rw [lookup_withoutNullMembers (Keyed.Sorted.nodup_keys (hsorted _)),
        lookup_withoutNullMembers (Keyed.Sorted.nodup_keys (hsorted _)), given?_overlay hnodup,
        given?_overlay (hnodup.sublist keys_withoutNullMembers_sublist),
        given?_withoutNullMembers hnodup]
      cases hgiven : (Json.obj source).given? k with
      | none => rfl
      | some v =>
        have hv := lookup_of_given? hgiven
        have hcanonical : v.Canonical := canonical_of_lookup hs hv
        simp only [Option.map_some, Option.some_or, Option.some.injEq]
        -- over nothing one overlay has the nulls of the member, until they are dropped
        cases hbelow : Keyed.lookup k target with
        | none => exact withoutNulls_withoutNulls hcanonical
        | some below => exact ih k v hv (canonical_of_lookup ht hbelow) hcanonical
    · rw [overlay_of_target hobject, overlay_of_target hobject, withoutNulls_withoutNulls hs]

/-! ### Main statement -/

/-- **When nulls are passed over**. For all documents `t` and `s`,

    1. it makes no difference to the overlay whether the nulls of `s` are dropped first
       exactly if `t` holds an object wherever an object of `s` has a null member, and
    2. apart from nulls it makes no difference. -/
theorem nulls_are_passed_over_iff (ht : t.Canonical) (hs : s.Canonical) :
    (overlay t s = overlay t s.withoutNulls ↔ t.CoversNulls s) ∧
    (overlay t s).withoutNulls = (overlay t s.withoutNulls).withoutNulls := by
  refine ⟨⟨?_, ?_⟩, (withoutNulls_overlay ht hs).symm⟩
  · intro heq p k hp
    by_contra ht'
    -- the null is held by both overlays, so that it is one of the lower document too
    have hnull := atPath?_overlay_of_null hs hp ht'
    have hsource : s.isNull = false := isNull_of_isObject (objectAt_of_atPath? hp).isObject
    rw [heq] at hnull
    have hlower := atPath?_of_overlay_null (canonical_withoutNulls hs)
      (nullFree_withoutNulls hs hsource) hnull
    exact ht' (objectAt_of_atPath? hlower)
  · intro h
    exact (overlay_withoutNulls ht hs h).symm

/-- A document with a null in an object below the top. -/
def nestedNull : Json :=
  .obj [("level", .obj [("default", .null)])]

theorem canonical_nestedNull : nestedNull.Canonical := by
  simp [nestedNull, Canonical, CanonicalMembers, Keyed.Sorted]

/-- Over an object under the same name the null might as well not be there. -/
theorem nulls_are_passed_over_in_objects :
    overlay (.obj [("level", .obj [("log", .str "warn")])]) nestedNull =
      overlay (.obj [("level", .obj [("log", .str "warn")])]) nestedNull.withoutNulls := by
  have hcanonical : Canonical (.obj [("level", .obj [("log", .str "warn")])]) := by
    simp [Canonical, CanonicalMembers, Keyed.Sorted]
  refine (nulls_are_passed_over_iff hcanonical canonical_nestedNull).1.mpr ?_
  intro p k hp
  cases p with
  | nil => exact ⟨_, rfl, _, rfl⟩
  | cons k' p =>
    -- only one member leads further, to an object with nothing but the null
    obtain ⟨source, w, heq, hw, hp⟩ := exists_members_of_atPath? hp
    obtain rfl := Json.obj.inj heq
    obtain ⟨rfl, rfl⟩ : "level" = k' ∧ .obj [("default", .null)] = w := by
      simpa [Keyed.lookup] using hw
    cases p with
    | nil => exact ⟨_, rfl, _, rfl⟩
    | cons k'' p =>
      obtain ⟨source, w, heq, hw, hp⟩ := exists_members_of_atPath? hp
      obtain rfl := Json.obj.inj heq
      obtain ⟨-, rfl⟩ : "default" = k'' ∧ .null = w := by simpa [Keyed.lookup] using hw
      exact absurd (isNull_of_isObject (objectAt_of_atPath? hp).isObject) (by simp [isNull])

/-- Where the lower document has nothing under the name, the null is kept. -/
theorem null_is_kept_over_nothing :
    nestedNull.Canonical ∧ nestedNull.IsObject ∧
      overlay (.obj []) nestedNull = nestedNull ∧
      overlay (.obj []) nestedNull.withoutNulls = .obj [("level", .obj [])] ∧
      overlay (.obj []) nestedNull ≠ overlay (.obj []) nestedNull.withoutNulls := by
  have hkept : overlay (.obj []) nestedNull = nestedNull := rfl
  have hdropped : overlay (.obj []) nestedNull.withoutNulls = .obj [("level", .obj [])] := rfl
  refine ⟨canonical_nestedNull, ⟨_, rfl⟩, hkept, hdropped, ?_⟩
  rw [hkept, hdropped]
  simp [nestedNull]

end Json

end PermissionContexts
