import Mathlib.Data.List.DropRight
import Mathlib.Data.List.Forall2
import PermissionContexts.Text.Normal

/-! # Trimming, lower case and parting

    Lower case is made character by character: each becomes a **piece** (`LowersTo`),
    which is the character itself, or else it is a letter that becomes letters. Pieces
    have one character, but for the capital I with a dot, whose piece has two. So

    * the lower case of a trimmed text is trimmed (`trim_lower`),
    * it is longer by the dotted capitals in it (`length_lower`), and
    * it has the same signs, blanks and control characters, in the same order
      (`filter_lower`).

    A text is parted by the first occurrence of a character into what stands before it and
    what stands behind it (`takeWhile_ne_append`, `dropWhile_ne_append`).
-/

namespace PermissionContexts.Text

/-! ### Trimming -/

theorem trimStart_cons {c : Char} {cs : List Char} :
    trimStart (c :: cs) = c :: cs ↔ isBlank c = false := by
  simp [trimStart, List.dropWhile_eq_self_iff]

theorem trimStart_sublist (s : List Char) : (trimStart s).Sublist s :=
  List.dropWhile_sublist isBlank

theorem trimEnd_initial (s : List Char) : trimEnd s <+: s :=
  List.rdropWhile_prefix isBlank s

/-- A text is trimmed if it is trimmed at both ends. -/
theorem trim_eq_self_iff {s : List Char} : trim s = s ↔ trimStart s = s ∧ trimEnd s = s := by
  refine ⟨?_, ?_⟩
  · intro h
    have hlength : s.length ≤ (trimStart s).length :=
      calc s.length = (trim s).length := by rw [h]
        _ ≤ (trimStart s).length := (trimEnd_initial _).length_le
    have hstart : trimStart s = s := (trimStart_sublist s).eq_of_length_le hlength
    unfold trim at h
    rw [hstart] at h
    exact ⟨hstart, h⟩
  · rintro ⟨hstart, hend⟩
    unfold trim
    rw [hstart, hend]

/-- Trimming the end leaves a start without blanks. -/
theorem trimStart_trimEnd {s : List Char} (h : trimStart s = s) :
    trimStart (trimEnd s) = trimEnd s := by
  cases ht : trimEnd s with
  | nil => rfl
  | cons c cs =>
    obtain ⟨rest, hrest⟩ := trimEnd_initial s
    rw [ht] at hrest
    subst hrest
    exact trimStart_cons.mpr (trimStart_cons.mp h)

theorem trim_trim (s : List Char) : trim (trim s) = trim s := by
  have hstart : trimStart (trimStart s) = trimStart s := List.dropWhile_idempotent isBlank _
  have hend : trimEnd (trimEnd (trimStart s)) = trimEnd (trimStart s) :=
    List.rdropWhile_idempotent isBlank _
  exact trim_eq_self_iff.mpr ⟨trimStart_trimEnd hstart, hend⟩

/-- A text is what is left of it when it is trimmed, with blanks at both ends. -/
theorem exists_blanks_around_trim (s : List Char) : ∃ front back,
    s = front ++ trim s ++ back ∧ (∀ c ∈ front, isBlank c = true) ∧
      ∀ c ∈ back, isBlank c = true := by
  refine ⟨s.takeWhile isBlank, (trimStart s).rtakeWhile isBlank, ?_, ?_, ?_⟩
  · have hend : trim s ++ (trimStart s).rtakeWhile isBlank = trimStart s :=
      List.rdropWhile_append_rtakeWhile
    rw [List.append_assoc, hend]
    exact List.takeWhile_append_dropWhile.symm
  · intro c hc
    exact List.mem_takeWhile_imp hc
  · intro c hc
    exact List.mem_rtakeWhile_imp hc

theorem isBlank_of_mem_head? {s : List Char} (h : trim s = s) {c : Char} (hc : c ∈ s.head?) :
    isBlank c = false := by
  obtain ⟨rest, rfl⟩ := List.head?_eq_some_iff.mp hc
  exact trimStart_cons.mp (trim_eq_self_iff.mp h).1

theorem isBlank_of_mem_getLast? {s : List Char} (h : trim s = s) {c : Char}
    (hc : c ∈ s.getLast?) : isBlank c = false := by
  have hend : s.rdropWhile isBlank = s := (trim_eq_self_iff.mp h).2
  obtain ⟨front, rfl⟩ := List.getLast?_eq_some_iff.mp hc
  simpa using List.rdropWhile_eq_self_iff.mp hend (by simp)

/-! ### The letters of the table -/

/-- The blanks, the control characters, and the signs and digits that come before the
    letters. -/
def signRanges : List (Nat × Nat) :=
  [(0x0, 0x40), (0x7F, 0xA0), (0x1680, 0x1680), (0x2000, 0x200A), (0x2028, 0x2029),
   (0x202F, 0x202F), (0x205F, 0x205F), (0x3000, 0x3000)]

/-- Whether `c` is neither a blank nor a control character nor a sign. -/
def isLetter (c : Char) : Bool :=
  !inRanges signRanges c.toNat

theorem isBlank_of_isLetter {c : Char} (h : isLetter c = true) : isBlank c = false := by
  simp [isLetter, isBlank, inRanges, signRanges, blankRanges] at h ⊢
  omega

theorem isLetter_of_isControl {c : Char} (h : isControl c = true) : isLetter c = false := by
  simp [isLetter, isControl, inRanges, signRanges] at h ⊢
  omega

/-- From `first` to `last` there are letters only. -/
def lettersOnly (first last : Nat) : Bool :=
  (signRanges ++ [(0xD800, 0xDFFF)]).all (fun r => last < r.1 || r.2 < first)
    && last < 0x110000

theorem toNat_ofNat_of_isValidChar {n : Nat} (h : n.isValidChar) : (Char.ofNat n).toNat = n := by
  unfold Char.ofNat
  rw [dif_pos h]
  rfl

theorem isValidChar_of_lettersOnly {first last n : Nat} (h : lettersOnly first last = true)
    (hfirst : first ≤ n) (hlast : n ≤ last) : n.isValidChar := by
  simp [lettersOnly, signRanges] at h
  unfold Nat.isValidChar
  omega

theorem isLetter_of_lettersOnly {first last n : Nat} (h : lettersOnly first last = true)
    (hfirst : first ≤ n) (hlast : n ≤ last) : isLetter (Char.ofNat n) = true := by
  have hvalid : n.isValidChar := isValidChar_of_lettersOnly h hfirst hlast
  unfold isLetter
  rw [toNat_ofNat_of_isValidChar hvalid]
  simp [lettersOnly, inRanges, signRanges] at h ⊢
  omega

/-- The table has letters only, and makes letters of them. -/
theorem caseRuns_lettersOnly : ∀ r ∈ caseRuns,
    lettersOnly r.first r.last = true ∧
      lettersOnly r.image (r.image + (r.last - r.first)) = true := by
  decide +kernel

/-- A code point stays as it is, or it is in a run, which moves it. -/
theorem lowerCode_run (n : Nat) : lowerCode n = n ∨
    ∃ r ∈ caseRuns, r.first ≤ n ∧ n ≤ r.last ∧ (n - r.first) % r.stride = 0 ∧
      lowerCode n = r.image + (n - r.first) := by
  unfold lowerCode
  cases hrun : caseRuns.find? fun r => n ≤ r.last with
  | none => exact Or.inl rfl
  | some r =>
    -- the run is the first that does not end before `n`
    have hlast : n ≤ r.last := by simpa using List.find?_some hrun
    show r.apply n = n ∨ _
    by_cases hhit : r.first ≤ n ∧ (n - r.first) % r.stride = 0
    · exact Or.inr ⟨r, List.mem_of_find?_eq_some hrun, hhit.1, hlast, hhit.2, if_pos hhit⟩
    · exact Or.inl (if_neg hhit)

/-- A code point stays as it is, or a letter becomes a letter. -/
theorem lowerCode_cases (n : Nat) : lowerCode n = n ∨
    (isLetter (Char.ofNat n) = true ∧ isLetter (Char.ofNat (lowerCode n)) = true) := by
  rcases lowerCode_run n with h | ⟨r, hr, hfirst, hlast, -, himage⟩
  · exact Or.inl h
  · obtain ⟨hfrom, hto⟩ := caseRuns_lettersOnly r hr
    right
    refine ⟨isLetter_of_lettersOnly hfrom hfirst hlast, ?_⟩
    rw [himage]
    exact isLetter_of_lettersOnly hto (Nat.le_add_right _ _) (by omega)

/-! ### Pieces -/

/-- The capital I with a dot. -/
def dottedI : Char := Char.ofNat 0x130

/-- `piece` may be what becomes of `c` in lower case. -/
structure LowersTo (c : Char) (piece : List Char) : Prop where
  /-- It has one character, or two for the capital I with a dot. -/
  length : piece.length = 1 + [c].count dottedI
  /-- Nothing changes, or a letter becomes letters. -/
  letters : piece = [c] ∨ (isLetter c = true ∧ ∀ d ∈ piece, isLetter d = true)

theorem lowersTo_lowerChar (c : Char) : LowersTo c (lowerChar c) := by
  unfold lowerChar
  split_ifs with hc
  · subst hc
    exact ⟨rfl, Or.inr ⟨by decide, List.all_eq_true.mp (by decide)⟩⟩
  · have hcount : [c].count dottedI = 0 := by simp [dottedI, hc]
    refine ⟨by rw [hcount]; rfl, ?_⟩
    rcases lowerCode_cases c.toNat with h | ⟨hc, hd⟩
    · left
      rw [h, Char.ofNat_toNat]
    · right
      rw [Char.ofNat_toNat] at hc
      exact ⟨hc, by simpa using hd⟩

theorem lowersTo_lowerSigma (before after : List Char) :
    LowersTo sigma [lowerSigma before after] := by
  unfold lowerSigma
  split_ifs
  · exact ⟨by decide, Or.inr ⟨by decide, List.all_eq_true.mp (by decide)⟩⟩
  · exact ⟨by decide, Or.inr ⟨by decide, List.all_eq_true.mp (by decide)⟩⟩

/-- Lower case puts pieces after each other. -/
theorem lowerAfter_pieces (before s : List Char) :
    ∃ pieces, List.Forall₂ LowersTo s pieces ∧ lowerAfter before s = pieces.flatten := by
  induction s generalizing before with
  | nil => exact ⟨[], .nil, rfl⟩
  | cons c rest ih =>
    obtain ⟨pieces, hpieces, hlower⟩ := ih (c :: before)
    -- only sigma looks at what stands around it
    have hpiece : LowersTo c (if c = sigma then [lowerSigma before rest] else lowerChar c) := by
      split_ifs with hc
      · rw [hc]
        exact lowersTo_lowerSigma before rest
      · exact lowersTo_lowerChar c
    refine ⟨_ :: pieces, .cons hpiece hpieces, ?_⟩
    rw [lowerAfter, hlower, List.flatten_cons]

theorem lower_pieces (s : List Char) :
    ∃ pieces, List.Forall₂ LowersTo s pieces ∧ lower s = pieces.flatten :=
  lowerAfter_pieces [] s

/-! ### What lower case keeps -/

theorem LowersTo.reverse {c : Char} {piece : List Char} (h : LowersTo c piece) :
    LowersTo c piece.reverse := by
  refine ⟨by rw [List.length_reverse, h.length], h.letters.imp ?_ ?_⟩
  · rintro rfl
    rfl
  · rintro ⟨hc, hd⟩
    exact ⟨hc, fun d hmem => hd d (List.mem_reverse.mp hmem)⟩

theorem LowersTo.filter {c : Char} {piece : List Char} (h : LowersTo c piece) {p : Char → Bool}
    (hp : ∀ d, isLetter d = true → p d = false) : piece.filter p = [c].filter p := by
  rcases h.letters with rfl | ⟨hc, hd⟩
  · rfl
  · have hpiece : piece.filter p = [] := by
      rw [List.filter_eq_nil_iff]
      intro d hmem
      simp [hp d (hd d hmem)]
    rw [hpiece, List.filter_cons_of_neg (by simp [hp c hc]), List.filter_nil]

/-- What is no letter is kept as it stands, in the same order. -/
theorem filter_lower (s : List Char) {p : Char → Bool}
    (hp : ∀ c, isLetter c = true → p c = false) : (lower s).filter p = s.filter p := by
  obtain ⟨pieces, hpieces, hlower⟩ := lower_pieces s
  rw [hlower]
  clear hlower
  induction hpieces with
  | nil => rfl
  | cons hpiece _ ih =>
    rw [List.flatten_cons, List.filter_append, ih, hpiece.filter hp, ← List.filter_append,
      List.singleton_append]

theorem mem_lower {c : Char} (hc : isLetter c = false) {s : List Char} :
    c ∈ lower s ↔ c ∈ s := by
  have hfilter : (lower s).filter (· = c) = s.filter (· = c) := by
    apply filter_lower
    intro d hd
    apply decide_eq_false
    rintro rfl
    rw [hc] at hd
    contradiction
  have hmem : ∀ t : List Char, c ∈ t ↔ c ∈ t.filter (· = c) := by simp
  rw [hmem, hfilter, ← hmem]

/-- What holds of all letters holds of a text in lower case as it did before. -/
theorem all_lower (s : List Char) {p : Char → Bool} (hp : ∀ c, isLetter c = true → p c = true) :
    (lower s).all p = s.all p := by
  have hfilter : (lower s).filter (!p ·) = s.filter (!p ·) :=
    filter_lower s fun c hc => by rw [hp c hc]; rfl
  have hall : ∀ t : List Char, t.all p = true ↔ t.filter (!p ·) = [] := by simp
  rw [Bool.eq_iff_iff, hall, hall, hfilter]

/-- Only dotted capitals make a text longer in lower case. -/
theorem length_lower (s : List Char) : (lower s).length = s.length + s.count dottedI := by
  obtain ⟨pieces, hpieces, hlower⟩ := lower_pieces s
  rw [hlower]
  clear hlower
  induction hpieces with
  | nil => rfl
  | @cons c piece s pieces hpiece _ ih =>
    have hcount : (c :: s).count dottedI = [c].count dottedI + s.count dottedI := by
      rw [← List.count_append, List.singleton_append]
    rw [List.flatten_cons, List.length_append, List.length_cons, ih, hpiece.length, hcount]
    omega

theorem isEmpty_lower (s : List Char) : (lower s).isEmpty = s.isEmpty := by
  rw [Bool.eq_iff_iff, List.isEmpty_iff_length_eq_zero, List.isEmpty_iff_length_eq_zero,
    length_lower]
  refine ⟨by omega, ?_⟩
  intro h
  rw [List.length_eq_zero_iff.mp h]
  rfl

/-- Pieces bring no blanks to the start of a text. -/
theorem trimStart_flatten {s : List Char} {pieces : List (List Char)}
    (hpieces : List.Forall₂ LowersTo s pieces) (hs : trimStart s = s) :
    trimStart pieces.flatten = pieces.flatten := by
  cases hpieces with
  | nil => rfl
  | @cons c piece s pieces hpiece _ =>
    -- the first piece decides, and it has a character, which is a blank only if `c` is
    have hc : isBlank c = false := trimStart_cons.mp hs
    have hblanks : piece.filter isBlank = [] := by
      rw [hpiece.filter fun _ => isBlank_of_isLetter,
        List.filter_cons_of_neg (by simp [hc]), List.filter_nil]
    obtain ⟨d, rest, rfl⟩ : ∃ d rest, piece = d :: rest := by
      refine List.exists_cons_of_length_pos ?_
      rw [hpiece.length]
      omega
    have hd : isBlank d = false := by
      simpa using List.filter_eq_nil_iff.mp hblanks d (List.mem_cons_self ..)
    exact trimStart_cons.mpr hd

theorem trimEnd_reverse (s : List Char) : trimEnd s.reverse = (trimStart s).reverse :=
  List.rdropWhile_reverse isBlank s

/-- The lower case of a trimmed text is trimmed. -/
theorem trim_lower {s : List Char} (hs : trim s = s) : trim (lower s) = lower s := by
  obtain ⟨hstart, hend⟩ := trim_eq_self_iff.mp hs
  obtain ⟨pieces, hpieces, hlower⟩ := lower_pieces s
  rw [hlower]
  refine trim_eq_self_iff.mpr ⟨trimStart_flatten hpieces hstart, ?_⟩
  -- the end of the text is the start of its reverse, which the reversed pieces make up
  have hreverse : List.Forall₂ LowersTo s.reverse (pieces.map List.reverse).reverse := by
    rw [List.forall₂_reverse_iff, List.forall₂_map_right_iff]
    exact hpieces.imp fun _ _ h => h.reverse
  have hstart' : trimStart s.reverse = s.reverse := by
    rw [← List.reverse_inj, ← trimEnd_reverse, List.reverse_reverse]
    exact hend
  have hflatten := trimStart_flatten hreverse hstart'
  rw [← List.reverse_flatten] at hflatten
  rw [← List.reverse_reverse pieces.flatten, trimEnd_reverse, hflatten]

/-! ### The first occurrence of a character -/

section

variable {c : Char} {before after : List Char}

theorem forall_ne_of_not_mem (h : c ∉ before) : ∀ d ∈ before, decide (d ≠ c) = true := by
  intro d hd
  apply decide_eq_true
  intro heq
  exact h (heq ▸ hd)

theorem takeWhile_ne_append (h : c ∉ before) :
    (before ++ c :: after).takeWhile (· ≠ c) = before := by
  rw [List.takeWhile_append_of_pos (forall_ne_of_not_mem h)]
  simp

theorem dropWhile_ne_append (h : c ∉ before) :
    (before ++ c :: after).dropWhile (· ≠ c) = c :: after := by
  rw [List.dropWhile_append_of_pos (forall_ne_of_not_mem h)]
  simp

end

end PermissionContexts.Text
