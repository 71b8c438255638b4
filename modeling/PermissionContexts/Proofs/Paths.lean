import PermissionContexts.Proofs.Layers

/-! # Overlays by path

    A path of names leads from an object to what it holds under the first name, from there
    to what that holds under the second, and so on (`atPath?`). What an overlay holds at
    the end of a path is told by what the two documents hold there:

    * what the **upper** one gives, if that is neither null nor an object
      (`atPath?_overlay_of_given`), and
    * what the **lower** one holds, if the upper one gives nothing
      (`atPath?_overlay_of_not_given`).

    Two objects are overlaid by their members, so laws about whole documents go by
    induction on the objects of the upper one (`objectInduction`). A document laid over
    itself is unchanged (`overlay_self`), and one that has been laid over another changes
    nothing when it is laid over the result (`overlay_overlay`).

    Main statement: `overlays_are_known_by_paths`.
-/

namespace PermissionContexts

namespace Json

variable {t s v : Json} {target source : List (String × Json)} {k : String} {p : List String}

/-! ### Paths -/

/-- What the value holds at a path of names, which leads through objects only. -/
def atPath? : Json → List String → Option Json
  | j, [] => some j
  | j, k :: p => (j.member? k).bind fun v => v.atPath? p

/-- The value holds an object at every proper prefix of the path. -/
def ObjectsAbove (j : Json) (p : List String) : Prop :=
  ∀ q, q <+: p → q ≠ p → ∃ v, j.atPath? q = some v ∧ v.IsObject

theorem atPath?_obj_cons : (obj source).atPath? (k :: p) =
    (Keyed.lookup k source).bind fun v => v.atPath? p :=
  rfl

/-- Only objects have members. -/
theorem exists_members_of_atPath? (h : s.atPath? (k :: p) = some v) : ∃ source w,
    s = .obj source ∧ Keyed.lookup k source = some w ∧ w.atPath? p = some v := by
  cases s with
  | obj source =>
    obtain ⟨w, hw, hv⟩ := Option.bind_eq_some_iff.mp h
    exact ⟨source, w, rfl, hw, hv⟩
  | _ => simp [atPath?, member?] at h

/-- What holds anything at the end of a path holds objects above it. -/
theorem objectsAbove_of_atPath? (h : s.atPath? p = some v) : s.ObjectsAbove p := by
  induction p generalizing s with
  | nil =>
    intro q hq hne
    exact absurd (List.prefix_nil.mp hq) hne
  | cons k p ih =>
    obtain ⟨source, w, rfl, hw, hv⟩ := exists_members_of_atPath? h
    intro q hq hne
    cases q with
    | nil => exact ⟨_, rfl, source, rfl⟩
    | cons k' q =>
      obtain ⟨rfl, hprefix⟩ := List.cons_prefix_cons.mp hq
      rw [atPath?_obj_cons, hw]
      exact ih hv q hprefix fun heq => hne (by rw [heq])

theorem ObjectsAbove.isObject (h : s.ObjectsAbove (k :: p)) : s.IsObject := by
  obtain ⟨v, hv, hobject⟩ := h [] (List.nil_prefix) (by simp)
  obtain rfl := Option.some.inj hv
  exact hobject

/-- Below its first name a path leads through objects as well. -/
theorem ObjectsAbove.exists_member {k' : String} (h : (obj source).ObjectsAbove (k :: k' :: p)) :
    ∃ v, Keyed.lookup k source = some v ∧ v.ObjectsAbove (k' :: p) := by
  obtain ⟨v, hv, -⟩ := h [k] (by simp) (by simp)
  rw [atPath?_obj_cons] at hv
  obtain ⟨w, hw, -⟩ := Option.bind_eq_some_iff.mp hv
  refine ⟨w, hw, ?_⟩
  intro q hq hne
  have hbelow := h (k :: q) ((List.prefix_cons_inj k).mpr hq) (by simpa using hne)
  rw [atPath?_obj_cons, hw] at hbelow
  exact hbelow

/-! ### Values that are no objects -/

/-- What is not an object replaces what is below it. -/
theorem overlay_of_source (h : ¬ s.IsObject) : overlay t s = s := by
  cases s with
  | obj source => exact absurd ⟨source, rfl⟩ h
  | _ => cases t <;> rfl

/-- What is not an object is replaced by what is laid over it. -/
theorem overlay_of_target (h : ¬ t.IsObject) : overlay t s = s := by
  cases t with
  | obj target => exact absurd ⟨target, rfl⟩ h
  | _ => cases s <;> rfl

theorem isNull_of_isObject (h : v.IsObject) : v.isNull = false := by
  obtain ⟨source, rfl⟩ := h
  rfl

/-! ### What is held at a path -/

/-- A path goes on below the member of its first name, if the upper document gives one, -/
theorem atPath?_overlay_of_some (hs : (obj source).Canonical)
    (h : (obj source).given? k = some v) : (overlay (.obj target) (.obj source)).atPath? (k :: p) =
      (v.laidOver (Keyed.lookup k target)).atPath? p := by
  rw [overlay_obj, atPath?_obj_cons, lookup_overlay_of_some h (Keyed.Sorted.nodup_keys hs.1),
    Option.bind_some]

/-- and otherwise in the lower document. -/
theorem atPath?_overlay_of_none (hs : (obj source).Canonical)
    (h : (obj source).given? k = none) : (overlay (.obj target) (.obj source)).atPath? (k :: p) =
      (obj target).atPath? (k :: p) := by
  rw [overlay_obj, atPath?_obj_cons, lookup_overlay_of_none h (Keyed.Sorted.nodup_keys hs.1),
    atPath?_obj_cons]

/-- What the upper document gives at a path is held there. -/
theorem atPath?_overlay_of_given (hs : s.Canonical) (h : s.atPath? p = some v)
    (hnull : v.isNull = false) (hobject : ¬ v.IsObject) : (overlay t s).atPath? p = some v := by
  induction p generalizing t s with
  | nil =>
    obtain rfl := Option.some.inj h
    rw [overlay_of_source hobject, atPath?]
  | cons k p ih =>
    by_cases ht : t.IsObject
    · obtain ⟨target, rfl⟩ := ht
      obtain ⟨source, w, rfl, hw, hv⟩ := exists_members_of_atPath? h
      -- a member that holds something is not null, unless it is what is held
      have hgiven : (obj source).given? k = some w := by
        refine given?_of_lookup hw ?_
        cases p with
        | nil =>
          obtain rfl := Option.some.inj hv
          exact hnull
        | cons k' p =>
          obtain ⟨_, _, rfl, -⟩ := exists_members_of_atPath? hv
          rfl
      rw [atPath?_overlay_of_some hs hgiven]
      -- the lower document may end here, and the rest of the path is that of the member then
      cases Keyed.lookup k target with
      | none => exact hv
      | some below => exact ih (canonical_of_lookup hs hw) hv
    · rw [overlay_of_target ht]
      exact h

/-- Where the upper document gives nothing, what the lower one holds is held. -/
theorem atPath?_overlay_of_not_given (hs : s.Canonical) (hp : p ≠ []) (htarget : t.ObjectsAbove p)
    (hsource : s.ObjectsAbove p) (h : s.atPath? p = none ∨ s.atPath? p = some .null) :
    (overlay t s).atPath? p = t.atPath? p := by
  induction p generalizing t s with
  | nil => exact absurd rfl hp
  | cons k p ih =>
    obtain ⟨target, rfl⟩ := htarget.isObject
    obtain ⟨source, rfl⟩ := hsource.isObject
    cases p with
    | nil =>
      have hgiven : (obj source).given? k = none := by
        rw [atPath?_obj_cons] at h
        cases hv : Keyed.lookup k source with
        | none => rw [given?_obj, hv, Option.filter_none]
        | some v =>
          rw [hv] at h
          obtain rfl : v = .null := by simpa [atPath?] using h
          rw [given?_obj, hv]
          rfl
      exact atPath?_overlay_of_none hs hgiven
    | cons k' p =>
      obtain ⟨below, hbelow, htarget⟩ := htarget.exists_member
      obtain ⟨w, hw, hsource⟩ := hsource.exists_member
      -- an object is given, and it is laid over an object
      have hgiven := given?_of_lookup hw (isNull_of_isObject hsource.isObject)
      rw [atPath?_obj_cons, hw, Option.bind_some] at h
      rw [atPath?_overlay_of_some hs hgiven, atPath?_obj_cons, hbelow]
      exact ih (canonical_of_lookup hs hw) (by simp) htarget hsource h

/-! ### Laying a document over itself -/

/-- To prove something of all values, prove it of those that are no objects, and of an object
    if it holds of the values of its members. -/
@[elab_as_elim]
theorem objectInduction {motive : Json → Prop} (other : ∀ j, ¬ j.IsObject → motive j)
    (obj : ∀ ms, (∀ k v, Keyed.lookup k ms = some v → motive v) → motive (.obj ms)) (j : Json) :
    motive j := by
  match j with
  | .obj ms =>
    refine obj ms ?_
    intro k v hv
    have hmem := Keyed.mem_of_lookup hv
    exact objectInduction other obj v
  | .null | .bool _ | .int _ | .float _ | .str _ | .arr _ => exact other _ (by simp [IsObject])
termination_by sizeOf j
decreasing_by
  -- a value is smaller than the members it stands among, and they are than the object
  have hmember := List.sizeOf_lt_of_mem hmem
  simp only [Prod.mk.sizeOf_spec, Json.obj.sizeOf_spec] at hmember ⊢
  omega

/-- A document laid over itself is unchanged, also where it has nulls. -/
theorem overlay_self (h : s.Canonical) : overlay s s = s := by
  induction s using objectInduction with
  | other s hs => exact overlay_of_source hs
  | obj source ih =>
    apply overlay_obj_eq h.1 (Keyed.Sorted.nodup_keys h.1) h.1
    -- a null is passed over for the null that is there, and what is given is laid over itself
    intro k
    cases hgiven : (Json.obj source).given? k with
    | none => rfl
    | some v =>
      have hv := lookup_of_given? hgiven
      have hself := ih k v hv (canonical_of_lookup h hv)
      rw [Option.map_some, Option.some_or, hv, laidOver, hself]

/-- A document that has been laid over another is held already. -/
theorem overlay_overlay (ht : t.Canonical) (hs : s.Canonical) :
    overlay (overlay t s) s = overlay t s := by
  induction s using objectInduction generalizing t with
  | other s hother => rw [overlay_of_source hother, overlay_of_source hother]
  | obj source ih =>
    by_cases hobject : t.IsObject
    · obtain ⟨target, rfl⟩ := hobject
      have hnodup : (Keyed.keys source).Nodup := Keyed.Sorted.nodup_keys hs.1
      have hsorted : Keyed.Sorted (overlayMembers target source) := sorted_overlayMembers ht.1
      rw [overlay_obj]
      apply overlay_obj_eq hsorted hnodup hsorted
      intro k
      rw [lookup_overlay hnodup]
      cases hgiven : (Json.obj source).given? k with
      | none => rfl
      | some v =>
        have hv := lookup_of_given? hgiven
        have hcanonical : v.Canonical := canonical_of_lookup hs hv
        simp only [Option.map_some, Option.some_or, Option.some.injEq]
        -- the member stands over nothing, or over a member of the lower document
        cases hbelow : Keyed.lookup k target with
        | none => exact overlay_self hcanonical
        | some below => exact ih k v hv (canonical_of_lookup ht hbelow) hcanonical
    · rw [overlay_of_target hobject, overlay_self hs]

/-! ### Main statement -/

/-- **Overlays are known by paths**. For all documents `t` and `s`,

    1. what `s` holds at the end of a path, if it is neither null nor an object, is what `s`
       laid over `t` holds there,
    2. at the end of a path through objects of both, where `s` holds null or nothing, the
       overlay holds what `t` does, or nothing if `t` holds nothing,
    3. `s` laid over itself is `s`, and
    4. `s` laid a second time changes nothing. -/
theorem overlays_are_known_by_paths (ht : t.Canonical) (hs : s.Canonical) :
    (∀ p v, s.atPath? p = some v → v.isNull = false → ¬ v.IsObject →
      (overlay t s).atPath? p = some v) ∧
    (∀ p, p ≠ [] → t.ObjectsAbove p → s.ObjectsAbove p →
      s.atPath? p = none ∨ s.atPath? p = some .null → (overlay t s).atPath? p = t.atPath? p) ∧
    overlay s s = s ∧ overlay (overlay t s) s = overlay t s := by
  refine ⟨?_, ?_, overlay_self hs, overlay_overlay ht hs⟩
  · intro p v hv hnull hobject
    exact atPath?_overlay_of_given hs hv hnull hobject
  · intro p hp htarget hsource h
    exact atPath?_overlay_of_not_given hs hp htarget hsource h

/-- A document of defaults, one of them null. -/
def lowerDocument : Json :=
  .obj [("log", .obj [("file", .null), ("level", .str "warn")]), ("worlds", .arr [.str "hall"])]

/-- A document with nulls where there is a default and where there is none. -/
def upperDocument : Json :=
  .obj [("log", .obj [("file", .str "a.log"), ("level", .null)]),
    ("worlds", .obj [("hall", .null)])]

/-- The file is given, the level is null and the worlds are replaced, with a null that stays
    whether the upper document is laid once or twice. -/
theorem overlays_are_known_by_paths_of_log :
    let held := overlay lowerDocument upperDocument
    held.atPath? ["log", "file"] = some (.str "a.log") ∧
      held.atPath? ["log", "level"] = some (.str "warn") ∧
      held.atPath? ["worlds"] = some (.obj [("hall", .null)]) ∧
      overlay upperDocument upperDocument = upperDocument ∧ overlay held upperDocument = held := by
  have hnames : ["log", "worlds"].Pairwise (· < ·) := by decide
  have hlogNames : ["file", "level"].Pairwise (· < ·) := by decide
  have hlower : lowerDocument.Canonical :=
    ⟨List.pairwise_map.mp hnames, ⟨List.pairwise_map.mp hlogNames, trivial, trivial, trivial⟩,
      ⟨trivial, trivial⟩, trivial⟩
  have hupper : upperDocument.Canonical :=
    ⟨List.pairwise_map.mp hnames, ⟨List.pairwise_map.mp hlogNames, trivial, trivial, trivial⟩,
      ⟨List.pairwise_singleton .., trivial, trivial⟩, trivial⟩
  obtain ⟨hgiven, hkept, hself, hagain⟩ := overlays_are_known_by_paths hlower hupper
  have hlowerLevel : lowerDocument.atPath? ["log", "level"] = some (.str "warn") := rfl
  have hupperLevel : upperDocument.atPath? ["log", "level"] = some .null := rfl
  refine ⟨hgiven _ _ rfl rfl ?_, ?_, rfl, hself, hagain⟩
  · simp [IsObject]
  · rw [hkept _ (by simp) (objectsAbove_of_atPath? hlowerLevel)
      (objectsAbove_of_atPath? hupperLevel) (Or.inr hupperLevel), hlowerLevel]

end Json

end PermissionContexts
