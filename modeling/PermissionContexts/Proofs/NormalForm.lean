import PermissionContexts.Proofs.Text

/-! # Normal form is reached in one step

    A character is **settled** if lower case leaves it alone wherever it stands. All that
    lower case makes is settled: the images of the runs of the table, which no run moves
    on (`caseRuns_spare`), the two forms of sigma, and the two characters that the capital
    I with a dot becomes. So

    * lower case leaves a text in lower case alone (`lower_lower`), and
    * normal form leaves a text in normal form alone (`normalForm_normalForm`).

    Main statement: `normal_forms_are_stable`.
-/

namespace PermissionContexts

namespace Text

/-! ### Images of the table -/

/-- No image of the run `r` is moved by the run `q`: they lie apart, or `q` moves every
    other code point and the images of `r` are those between. -/
def CaseRun.spares (r q : CaseRun) : Bool :=
  (r.image + (r.last - r.first)).blt q.first || q.last.blt r.image ||
    (q.stride.beq 2 && (r.stride.beq 2 || r.first.beq r.last) &&
      ((r.image + q.first) % 2).beq 1)

/-- The capital I with a dot, as if it were a run. -/
def dottedRun : CaseRun := ⟨0x130, 0x130, 1, 0x69⟩

/-- What the table makes is neither in the table nor the capital I with a dot. -/
theorem caseRuns_spare : caseRuns.all (fun r => (dottedRun :: caseRuns).all r.spares) = true := by
  decide +kernel

/-- `m` is an image of the run `r`. -/
structure CaseRun.Makes (r : CaseRun) (m : Nat) : Prop where
  /-- The run is in the table. -/
  mem : r ∈ caseRuns
  /-- The first image is not after `m`. -/
  first : r.image ≤ m
  /-- The last image is not before `m`. -/
  last : m ≤ r.image + (r.last - r.first)
  /-- The run moves the code point that `m` would come from. -/
  hit : (m - r.image) % r.stride = 0

variable {r q : CaseRun} {m : Nat}

theorem CaseRun.Makes.apply_eq (h : r.Makes m) (hq : q ∈ dottedRun :: caseRuns)
    (hlast : m ≤ q.last) : q.apply m = m := by
  have hspares : r.spares q = true :=
    List.all_eq_true.mp (List.all_eq_true.mp caseRuns_spare r h.mem) q hq
  obtain ⟨-, hfrom, hto, hhit⟩ := h
  simp only [spares, Bool.or_eq_true, Bool.and_eq_true, Nat.blt_eq, Nat.beq_eq] at hspares
  unfold apply
  rw [if_neg]
  rintro ⟨hfirst, hmoved⟩
  rcases hspares with (hbefore | hafter) | ⟨⟨hstride, hstep⟩, hparity⟩
  · omega
  · omega
  · -- images of `r` have the other parity than what `q` moves
    rw [hstride] at hmoved
    have heven : (m - r.image) % 2 = 0 := by
      rcases hstep with hstep | hstep
      · rwa [hstep] at hhit
      · omega
    omega

/-- An image of the table is left alone. -/
theorem CaseRun.Makes.lowerCode_eq (h : r.Makes m) : lowerCode m = m := by
  unfold lowerCode
  cases hrun : caseRuns.find? fun q => m ≤ q.last with
  | none => rfl
  | some q =>
    have hlast : m ≤ q.last := by simpa using List.find?_some hrun
    exact h.apply_eq (List.mem_cons_of_mem _ (List.mem_of_find?_eq_some hrun)) hlast

theorem CaseRun.Makes.ne_dotted (h : r.Makes m) : m ≠ 0x130 := by
  rintro rfl
  have happly := h.apply_eq (List.mem_cons_self ..) (Nat.le_refl _)
  exact absurd happly (by decide)

theorem CaseRun.Makes.ne_sigma (h : r.Makes m) : m ≠ 0x3A3 := by
  rintro rfl
  exact absurd h.lowerCode_eq (by decide +kernel)

theorem CaseRun.Makes.toNat_ofNat (h : r.Makes m) : (Char.ofNat m).toNat = m :=
  toNat_ofNat_of_isValidChar
    (isValidChar_of_lettersOnly (caseRuns_lettersOnly r h.mem).2 h.first h.last)

/-! ### Settled characters -/

/-- Lower case leaves `c` alone, whatever stands around it. -/
structure Settled (c : Char) : Prop where
  /-- It does not look at what stands around it. -/
  ne_sigma : c ≠ sigma
  /-- It is its own lower-case form. -/
  lowerChar : lowerChar c = [c]

theorem CaseRun.Makes.settled (h : r.Makes m) : Settled (Char.ofNat m) := by
  have hne : ∀ n : Nat, m ≠ n → n.isValidChar → Char.ofNat m ≠ Char.ofNat n := by
    intro n hmn hn heq
    have hnat := congrArg Char.toNat heq
    rw [h.toNat_ofNat, toNat_ofNat_of_isValidChar hn] at hnat
    exact hmn hnat
  refine ⟨hne 0x3A3 h.ne_sigma (by decide), ?_⟩
  unfold Text.lowerChar
  rw [if_neg (hne 0x130 h.ne_dotted (by decide)), h.toNat_ofNat, h.lowerCode_eq]

theorem settled_of_mem_lowerChar {c d : Char} (hc : c ≠ sigma) (h : d ∈ lowerChar c) :
    Settled d := by
  unfold lowerChar at h
  split_ifs at h with hdotted
  · rcases List.mem_pair.mp h with rfl | rfl
    · exact ⟨by decide, by decide +kernel⟩
    · exact ⟨by decide, by decide +kernel⟩
  · obtain rfl := List.mem_singleton.mp h
    rcases lowerCode_run c.toNat with hsame | ⟨r, hr, hfirst, hlast, hhit, himage⟩
    · -- the character is its own lower-case form already
      rw [hsame, Char.ofNat_toNat]
      refine ⟨hc, ?_⟩
      unfold lowerChar
      rw [if_neg hdotted, hsame, Char.ofNat_toNat]
    · have hmakes : r.Makes (lowerCode c.toNat) := by
        rw [himage]
        refine ⟨hr, Nat.le_add_right _ _, by omega, ?_⟩
        rwa [Nat.add_sub_cancel_left]
      exact hmakes.settled

theorem settled_lowerSigma (before after : List Char) : Settled (lowerSigma before after) := by
  unfold lowerSigma
  split_ifs
  · exact ⟨by decide, by decide +kernel⟩
  · exact ⟨by decide, by decide +kernel⟩

theorem settled_of_mem_lowerAfter {before s : List Char} {d : Char}
    (h : d ∈ lowerAfter before s) : Settled d := by
  induction s generalizing before with
  | nil => simp [lowerAfter] at h
  | cons c rest ih =>
    rw [lowerAfter, List.mem_append] at h
    rcases h with h | h
    · split_ifs at h with hc
      · obtain rfl := List.mem_singleton.mp h
        exact settled_lowerSigma before rest
      · exact settled_of_mem_lowerChar hc h
    · exact ih h

theorem lowerAfter_of_settled {s : List Char} (h : ∀ c ∈ s, Settled c) (before : List Char) :
    lowerAfter before s = s := by
  induction s generalizing before with
  | nil => rfl
  | cons c rest ih =>
    obtain ⟨hsigma, hlower⟩ := h c (List.mem_cons_self ..)
    rw [lowerAfter, if_neg hsigma, hlower, ih fun d hd => h d (List.mem_cons_of_mem _ hd),
      List.singleton_append]

/-! ### Normal form -/

theorem lower_lower (s : List Char) : lower (lower s) = lower s :=
  lowerAfter_of_settled (fun _ => settled_of_mem_lowerAfter) []

theorem trim_normal (s : List Char) : trim (normal s) = normal s :=
  trim_lower (trim_trim s)

theorem normal_normal (s : List Char) : normal (normal s) = normal s := by
  unfold normal
  rw [trim_lower (trim_trim s), lower_lower]

end Text

theorem normalForm_normalForm (s : String) : normalForm (normalForm s) = normalForm s := by
  unfold normalForm
  rw [String.toList_ofList, Text.normal_normal]

/-! ### The normal form and the trimmed text -/

theorem toList_trimmed (s : String) : (trimmed s).toList = Text.trim s.toList :=
  String.toList_ofList

theorem toList_normalForm (s : String) :
    (normalForm s).toList = Text.lower (trimmed s).toList := by
  rw [toList_trimmed]
  exact String.toList_ofList

theorem trim_toList_normalForm (s : String) :
    Text.trim (normalForm s).toList = (normalForm s).toList := by
  rw [toList_normalForm, toList_trimmed]
  exact Text.trim_normal s.toList

theorem length_normalForm (s : String) : (normalForm s).length =
    (trimmed s).length + (trimmed s).toList.count Text.dottedI := by
  rw [← String.length_toList, toList_normalForm, Text.length_lower, String.length_toList]

theorem normalForm_eq_empty {s : String} : normalForm s = "" ↔ trimmed s = "" := by
  have hempty : ∀ t : String, t = "" ↔ t.toList.isEmpty = true := by simp
  rw [hempty, hempty, toList_normalForm, Text.isEmpty_lower]

/-! ### Main statement -/

/-- **Normal forms are stable.** Let a text be trimmed: it loses the blanks at both its
    ends and nothing else. Then its normal form

    1. is its own normal form,
    2. neither starts nor ends with a blank,
    3. is empty exactly if the trimmed text is,
    4. has an equals sign, a colon or any control character exactly if the trimmed text
       has it, and
    5. is longer than the trimmed text by the capitals I with a dot in it. -/
theorem normal_forms_are_stable (s : String) :
    (∃ front back, s.toList = front ++ (trimmed s).toList ++ back ∧
      (∀ c ∈ front, Text.isBlank c = true) ∧ ∀ c ∈ back, Text.isBlank c = true) ∧
    normalForm (normalForm s) = normalForm s ∧
    ((∀ c ∈ (normalForm s).toList.head?, Text.isBlank c = false) ∧
      ∀ c ∈ (normalForm s).toList.getLast?, Text.isBlank c = false) ∧
    (normalForm s = "" ↔ trimmed s = "") ∧
    (∀ c, c = '=' ∨ c = ':' ∨ Text.isControl c = true →
      (c ∈ (normalForm s).toList ↔ c ∈ (trimmed s).toList)) ∧
    (normalForm s).length = (trimmed s).length + (trimmed s).toList.count Text.dottedI := by
  refine ⟨?_, normalForm_normalForm s, ⟨?_, ?_⟩, normalForm_eq_empty, ?_, length_normalForm s⟩
  · rw [toList_trimmed]
    exact Text.exists_blanks_around_trim s.toList
  · intro c hc
    exact Text.isBlank_of_mem_head? (trim_toList_normalForm s) hc
  · intro c hc
    exact Text.isBlank_of_mem_getLast? (trim_toList_normalForm s) hc
  · intro c hc
    have hletter : Text.isLetter c = false := by
      rcases hc with rfl | rfl | hcontrol
      · decide
      · decide
      · exact Text.isLetter_of_isControl hcontrol
    rw [toList_normalForm]
    exact Text.mem_lower hletter

/-- A text with blanks of two kinds at its ends and a control character. Its second sigma
    ends a word, for what stands between it and the space is case-ignorable. -/
def sophos : String := "\u00a0\u2003ΣΟΦΌΣ:\u0301 İ=\u0007\t"

/-- The capital I with a dot becomes two characters. -/
theorem normal_forms_are_stable_sophos :
    normalForm sophos = "σοφός:\u0301 i\u0307=\u0007" ∧
      normalForm (normalForm sophos) = normalForm sophos ∧
      Text.isBlank 'σ' = false ∧ Text.isBlank '\u0007' = false ∧
      '\u0007' ∈ (normalForm sophos).toList ∧
      (normalForm sophos).length = (trimmed sophos).length + 1 := by
  obtain ⟨-, hagain, ⟨hhead, hlast⟩, -, hmarks, hlength⟩ := normal_forms_are_stable sophos
  have hform : normalForm sophos = "σοφός:\u0301 i\u0307=\u0007" := by decide +kernel
  refine ⟨hform, hagain, hhead 'σ' ?_, hlast '\u0007' ?_, ?_, ?_⟩
  · rw [hform]
    decide
  · rw [hform]
    decide
  · exact (hmarks '\u0007' (by decide)).mpr (by decide +kernel)
  · rw [hlength]
    decide +kernel

end PermissionContexts
