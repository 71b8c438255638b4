import PermissionContexts.Json.Shape

/-! # What decoders accept

    A computation that may fail has succeeded if each of its steps has. Decoders of lists
    and tables give back what was encoded, if those of the parts do.
-/

namespace PermissionContexts

/-! ### Computations that may fail -/

section

variable {ε α β : Type}

theorem except_map_eq_ok {x : Except ε α} {f : α → β} {b : β} :
    x.map f = .ok b ↔ ∃ a, x = .ok a ∧ f a = b := by
  cases x <;> simp [Except.map]

theorem except_bind_eq_ok {x : Except ε α} {f : α → Except ε β} {b : β} :
    x >>= f = .ok b ↔ ∃ a, x = .ok a ∧ f a = .ok b := by
  cases x <;> simp [bind, Except.bind]

/-- A list is decoded from what each of its items is encoded to. -/
theorem mapM_map_eq_ok (decode : β → Except ε α) (encode : α → β)
    (h : ∀ a, decode (encode a) = .ok a) (as : List α) : (as.map encode).mapM decode = .ok as := by
  induction as with
  | nil => rfl
  | cons a as ih =>
    rw [List.map_cons, List.mapM_cons, h, ih]
    rfl

end

namespace Json

variable {α : Type}

/-! ### Decoders of what was encoded -/

theorem asTexts_strs (ss : List String) : asTexts (strs ss) = .ok ss :=
  mapM_map_eq_ok asText str (fun _ => rfl) ss

/-- A table is decoded from what each of its values is encoded to. -/
theorem decodeMembers_mapValues {value : Json → Except ShapeFault α} {encode : α → Json}
    (h : ∀ a, value (encode a) = .ok a) (t : Keyed α) :
    decodeMembers value (t.mapValues encode) = .ok t := by
  induction t with
  | nil => rfl
  | cons e t ih =>
    obtain ⟨k, a⟩ := e
    show decodeMembers value ((k, encode a) :: Keyed.mapValues encode t) = _
    rw [decodeMembers, h, ih]
    rfl

/-- A member that is there is decoded. -/
theorem optional_of_lookup {ms : List (String × Json)} {name : String} {j : Json}
    {decode : Json → Except ShapeFault α} {a : α} (h : Keyed.lookup name ms = some j)
    (hj : decode j = .ok a) : optional ms name decode = .ok (some a) := by
  unfold optional
  rw [h]
  show (decode j).map some = _
  rw [hj]
  rfl

end Json

end PermissionContexts
