import Mathlib.Data.List.TakeWhile
import PermissionContexts.Json.Printer
import PermissionContexts.Json.Reader
import PermissionContexts.Proofs.Decoding
import PermissionContexts.Proofs.Keyed

/-! # Reading what was written

    A written value may stand in one line or over several. Both are one way of writing with
    other **gaps** between the parts (`Layout`), and a reader skips gaps.

    * **Texts** are read back character by character: what one character is escaped to is
      read as this character (`readTextRest_escapeChar`).
    * **Values** are read back by induction on the value. What is left to read comes after
      them unread, so that the items of an array can follow each other. Each part takes at
      most three units of fuel and has at least one character.

    Numbers are left out: a value without them that is not nested too deep is `Writable`. It
    is read with the members of its objects put in order (`settled`). If they are in order
    already the value is `Readable`, and it is read back as it is. Main statements:
    `read_compact` and `read_pretty`. The other way round, whatever is read is sorted
    throughout (`canonical_of_read`).
-/

namespace PermissionContexts

namespace Json

/-! ### Texts -/

theorem hexValue_digitChar {n : Nat} (h : n < 16) : hexValue (Nat.digitChar n) = some n := by
  have hall : ∀ n < 16, hexValue (Nat.digitChar n) = some n := by decide
  exact hall n h

theorem utf8Size_digitChar {n : Nat} (h : n < 16) : (Nat.digitChar n).utf8Size = 1 := by
  have hall : ∀ n < 16, (Nat.digitChar n).utf8Size = 1 := by decide
  exact hall n h

/-- The escape of a control character is read as this character. -/
theorem readUnicodeEscape_hexPair {c : Char} (hc : c.toNat < 0x20) (s : List Char) :
    readUnicodeEscape ('0' :: '0' :: hexPair c.toNat ++ s) = .ok (c, s) := by
  have hhigh : c.toNat / 16 < 16 := by omega
  have hlow : c.toNat % 16 < 16 := by omega
  have hbytes : byteLength (['0', '0'] ++ hexPair c.toNat) = 4 := by
    simp [byteLength, hexPair, utf8Size_digitChar hhigh, utf8Size_digitChar hlow,
      show ('0').utf8Size = 1 by decide]
  have hzero : hexValue '0' = some 0 := hexValue_digitChar (by decide : 0 < 16)
  have hhex : readHex4 ('0' :: '0' :: hexPair c.toNat ++ s) = .ok (c.toNat, s) := by
    unfold readHex4
    have htake : ('0' :: '0' :: hexPair c.toNat ++ s).take 4 = ['0', '0'] ++ hexPair c.toNat := rfl
    rw [htake, hbytes, if_neg (by decide)]
    simp only [hexPair, List.cons_append, List.nil_append, hzero, hexValue_digitChar hhigh,
      hexValue_digitChar hlow]
    have hvalue : ((0 * 16 + 0) * 16 + c.toNat / 16) * 16 + c.toNat % 16 = c.toNat := by omega
    rw [hvalue]
  unfold readUnicodeEscape
  rw [hhex]
  have hnotTrailing : ¬ (0xDC00 ≤ c.toNat ∧ c.toNat ≤ 0xDFFF) := by omega
  have hnotLeading : c.toNat < 0xD800 ∨ 0xDBFF < c.toNat := by omega
  simp only [bind, Except.bind, if_neg hnotTrailing, if_pos hnotLeading, Char.ofNat_toNat]

/-- What a character is written as is read as this character. -/
theorem readTextRest_escapeChar (c : Char) (fuel : Nat) (s : List Char) :
    readTextRest (fuel + 1) (escapeChar c ++ s) =
      (readTextRest fuel s).map fun r => (c :: r.1, r.2) := by
  have hmap : ∀ x : Except JsonFault (List Char × List Char),
      (x.bind fun r => .ok (c :: r.1, r.2)) = x.map fun r => (c :: r.1, r.2) := by
    intro x
    cases x <;> rfl
  unfold escapeChar
  split_ifs with hquote hslash hline htab hreturn hback hfeed hcontrol
  · subst hquote
    exact hmap _
  · subst hslash
    exact hmap _
  · subst hline
    exact hmap _
  · subst htab
    exact hmap _
  · subst hreturn
    exact hmap _
  · subst hback
    exact hmap _
  · subst hfeed
    exact hmap _
  · have hescape : readEscape ('u' :: '0' :: '0' :: hexPair c.toNat ++ s) = .ok (c, s) :=
      readUnicodeEscape_hexPair hcontrol s
    simp only [List.cons_append] at hescape
    rw [← hmap]
    simp only [List.cons_append, readTextRest, hescape]
    rfl
  · rw [List.singleton_append, readTextRest, if_neg hquote, if_neg hslash, if_neg hcontrol]
    exact hmap _

theorem length_le_flatMap_escapeChar (cs : List Char) :
    cs.length ≤ (cs.flatMap escapeChar).length := by
  induction cs with
  | nil => exact Nat.le_refl _
  | cons c cs ih =>
    have hc : 1 ≤ (escapeChar c).length := by
      unfold escapeChar
      split_ifs <;> simp
    rw [List.flatMap_cons, List.length_append, List.length_cons]
    omega

theorem readTextRest_flatMap (cs : List Char) {fuel : Nat} (hfuel : cs.length < fuel)
    (s : List Char) :
    readTextRest fuel (cs.flatMap escapeChar ++ '"' :: s) = .ok (cs, s) := by
  induction cs generalizing fuel with
  | nil =>
    obtain ⟨fuel, rfl⟩ := Nat.exists_eq_add_of_lt hfuel
    rfl
  | cons c cs ih =>
    obtain ⟨fuel, rfl⟩ : ∃ n, fuel = n + 1 := Nat.exists_eq_succ_of_ne_zero (by omega)
    have hrest : cs.length < fuel := by
      rw [List.length_cons] at hfuel
      omega
    rw [List.flatMap_cons, List.append_assoc, readTextRest_escapeChar, ih hrest]
    rfl

/-- A written text is read back. -/
theorem readText_textChars (t : String) (s : List Char) :
    ∃ cs, textChars t = '"' :: cs ∧ readText (cs ++ s) = .ok (t, s) := by
  refine ⟨t.toList.flatMap escapeChar ++ ['"'], rfl, ?_⟩
  rw [List.append_assoc, List.singleton_append]
  have hfuel : t.toList.length < (t.toList.flatMap escapeChar ++ '"' :: s).length + 1 := by
    have hlength := length_le_flatMap_escapeChar t.toList
    rw [List.length_append]
    omega
  unfold readText
  rw [readTextRest_flatMap t.toList hfuel s]
  show Except.ok (String.ofList t.toList, s) = _
  rw [String.ofList_toList]

/-! ### Layouts -/

/-- How the parts of a value are set apart. -/
structure Layout where
  /-- What stands before an item, a member or a closing bracket at a level. -/
  gap : Nat → List Char
  /-- What stands between a colon and a value. -/
  space : List Char
  /-- Gaps are skipped. -/
  skip_gap : ∀ level, skipBlanks (gap level) = []
  /-- So is what follows a colon. -/
  skip_space : skipBlanks space = []

namespace Layout

/-- Everything on one line. -/
def oneLine : Layout := ⟨fun _ => [], [], fun _ => rfl, rfl⟩

/-- An item or a member a line. -/
def manyLines : Layout where
  gap := newLine
  space := [' ']
  skip_gap level := by
    unfold newLine skipBlanks
    refine List.dropWhile_eq_nil_iff.mpr ?_
    intro c hc
    rcases List.mem_cons.mp hc with rfl | hc
    · rfl
    · rw [List.eq_of_mem_replicate hc]
      rfl
  skip_space := rfl

mutual

/-- The text of a value whose first line stands at `level`. -/
def chars (l : Layout) (level : Nat) : Json → List Char
  | .arr [] => ['[', ']']
  | .arr (j :: rest) => '[' :: (l.gap (level + 1) ++ (chars l (level + 1) j ++ items l level rest))
  | .obj [] => ['\x7b', '\x7d']
  | .obj ((k, j) :: rest) =>
    '\x7b' :: (l.gap (level + 1) ++ (textChars k ++
      ':' :: (l.space ++ (chars l (level + 1) j ++ members l level rest))))
  | j => leafChars j

/-- The items after the first, and the closing bracket at `level`. -/
def items (l : Layout) (level : Nat) : List Json → List Char
  | [] => l.gap level ++ [']']
  | j :: rest => ',' :: (l.gap (level + 1) ++ (chars l (level + 1) j ++ items l level rest))

/-- The members after the first, and the closing brace at `level`. -/
def members (l : Layout) (level : Nat) : List (String × Json) → List Char
  | [] => l.gap level ++ ['\x7d']
  | (k, j) :: rest =>
    ',' :: (l.gap (level + 1) ++ (textChars k ++
      ':' :: (l.space ++ (chars l (level + 1) j ++ members l level rest))))

end

end Layout

mutual

theorem compactChars_eq (level : Nat) (j : Json) :
    compactChars j = Layout.oneLine.chars level j := by
  match j with
  | .null | .bool true | .bool false | .int _ | .float _ | .str _ => rfl
  | .arr [] | .obj [] => rfl
  | .arr (j :: rest) =>
    simp [compactChars, Layout.chars, Layout.oneLine, compactChars_eq (level + 1) j,
      compactItems_eq level rest]
  | .obj ((k, j) :: rest) =>
    simp [compactChars, Layout.chars, Layout.oneLine, compactChars_eq (level + 1) j,
      compactMembers_eq level rest]

theorem compactItems_eq (level : Nat) (js : List Json) :
    compactItems js = Layout.oneLine.items level js := by
  match js with
  | [] => rfl
  | j :: rest =>
    simp [compactItems, Layout.items, Layout.oneLine, compactChars_eq (level + 1) j,
      compactItems_eq level rest]

theorem compactMembers_eq (level : Nat) (ms : List (String × Json)) :
    compactMembers ms = Layout.oneLine.members level ms := by
  match ms with
  | [] => rfl
  | (k, j) :: rest =>
    simp [compactMembers, Layout.members, Layout.oneLine, compactChars_eq (level + 1) j,
      compactMembers_eq level rest]

end

mutual

theorem prettyChars_eq (level : Nat) (j : Json) :
    prettyChars level j = Layout.manyLines.chars level j := by
  match j with
  | .null | .bool true | .bool false | .int _ | .float _ | .str _ => rfl
  | .arr [] | .obj [] => rfl
  | .arr (j :: rest) =>
    simp [prettyChars, Layout.chars, Layout.manyLines, prettyChars_eq (level + 1) j,
      prettyItems_eq level rest]
  | .obj ((k, j) :: rest) =>
    simp [prettyChars, Layout.chars, Layout.manyLines, prettyChars_eq (level + 1) j,
      prettyMembers_eq level rest]

theorem prettyItems_eq (level : Nat) (js : List Json) :
    prettyItems level js = Layout.manyLines.items level js := by
  match js with
  | [] => rfl
  | j :: rest =>
    simp [prettyItems, Layout.items, Layout.manyLines, prettyChars_eq (level + 1) j,
      prettyItems_eq level rest]

theorem prettyMembers_eq (level : Nat) (ms : List (String × Json)) :
    prettyMembers level ms = Layout.manyLines.members level ms := by
  match ms with
  | [] => rfl
  | (k, j) :: rest =>
    simp [prettyMembers, Layout.members, Layout.manyLines, prettyChars_eq (level + 1) j,
      prettyMembers_eq level rest]

end

/-! ### Values -/

mutual

/-- The value has no numbers, its objects are sorted, and it has at most `depth` levels of
    arrays and objects. -/
def Readable (depth : Nat) : Json → Prop
  | .int _ => False
  | .float _ => False
  | .arr js => 0 < depth ∧ ReadableItems (depth - 1) js
  | .obj ms => 0 < depth ∧ Keyed.Sorted ms ∧ ReadableMembers (depth - 1) ms
  | _ => True

/-- `Readable` for every item of a list. -/
def ReadableItems (depth : Nat) : List Json → Prop
  | [] => True
  | j :: rest => Readable depth j ∧ ReadableItems depth rest

/-- `Readable` for the value of every member. -/
def ReadableMembers (depth : Nat) : List (String × Json) → Prop
  | [] => True
  | (_, j) :: rest => Readable depth j ∧ ReadableMembers depth rest

end

mutual

/-- The value has no numbers, and it has at most `depth` levels of arrays and objects. -/
def Writable (depth : Nat) : Json → Prop
  | .int _ => False
  | .float _ => False
  | .arr js => 0 < depth ∧ WritableItems (depth - 1) js
  | .obj ms => 0 < depth ∧ WritableMembers (depth - 1) ms
  | _ => True

/-- `Writable` for every item of a list. -/
def WritableItems (depth : Nat) : List Json → Prop
  | [] => True
  | j :: rest => Writable depth j ∧ WritableItems depth rest

/-- `Writable` for the value of every member. -/
def WritableMembers (depth : Nat) : List (String × Json) → Prop
  | [] => True
  | (_, j) :: rest => Writable depth j ∧ WritableMembers depth rest

end

mutual

/-- The value with the members of all its objects put in order. -/
def settled : Json → Json
  | .arr js => .arr (settledItems js)
  | .obj ms => ofMembers (settledMembers ms)
  | j => j

/-- `settled` for every item of a list. -/
def settledItems : List Json → List Json
  | [] => []
  | j :: rest => settled j :: settledItems rest

/-- `settled` for the value of every member. -/
def settledMembers : List (String × Json) → List (String × Json)
  | [] => []
  | (k, j) :: rest => (k, settled j) :: settledMembers rest

end

mutual

theorem Readable.writable {depth : Nat} {j : Json} (h : Readable depth j) : Writable depth j := by
  match j with
  | .null | .bool _ | .str _ => trivial
  | .int _ | .float _ => exact absurd h (by simp [Readable])
  | .arr js => exact ⟨h.1, writableItems_of_readable h.2⟩
  | .obj ms => exact ⟨h.1, writableMembers_of_readable h.2.2⟩

theorem writableItems_of_readable {depth : Nat} {js : List Json} (h : ReadableItems depth js) :
    WritableItems depth js := by
  match js with
  | [] => trivial
  | j :: js => exact ⟨h.1.writable, writableItems_of_readable h.2⟩

theorem writableMembers_of_readable {depth : Nat} {ms : List (String × Json)}
    (h : ReadableMembers depth ms) : WritableMembers depth ms := by
  match ms with
  | [] => trivial
  | (_, j) :: ms => exact ⟨h.1.writable, writableMembers_of_readable h.2⟩

end

mutual

/-- What is in order already stays as it is. -/
theorem Readable.settled_eq {depth : Nat} {j : Json} (h : Readable depth j) : j.settled = j := by
  match j with
  | .null | .bool _ | .int _ | .float _ | .str _ => rfl
  | .arr js => rw [settled, settledItems_of_readable h.2]
  | .obj ms =>
    rw [settled, settledMembers_of_readable h.2.2, ofMembers, Keyed.Sorted.ofPairs_eq h.2.1]

theorem settledItems_of_readable {depth : Nat} {js : List Json} (h : ReadableItems depth js) :
    settledItems js = js := by
  match js with
  | [] => rfl
  | j :: js => rw [settledItems, h.1.settled_eq, settledItems_of_readable h.2]

theorem settledMembers_of_readable {depth : Nat} {ms : List (String × Json)}
    (h : ReadableMembers depth ms) : settledMembers ms = ms := by
  match ms with
  | [] => rfl
  | (k, j) :: ms => rw [settledMembers, h.1.settled_eq, settledMembers_of_readable h.2]

end

/-- An object can be read back if the names of its members are in order and their values can
    be read back. -/
theorem readable_obj {depth : Nat} {ms : List (String × Json)}
    (hnames : (Keyed.keys ms).Pairwise (· < ·)) (hms : ReadableMembers depth ms) :
    Readable (depth + 1) (.obj ms) :=
  ⟨Nat.succ_pos depth, List.pairwise_map.mp hnames, hms⟩

/-- An object is put in order by moving its members. -/
theorem Readable.settled_eq_of_perm {depth : Nat} {ms ns : List (String × Json)}
    (h : Readable depth (.obj ns)) (hperm : (settledMembers ms).Perm ns) :
    settled (.obj ms) = .obj ns :=
  congrArg Json.obj (Keyed.ofPairs_of_perm hperm h.2.1)

/-- A value may begin with `c`, unless it is a number. -/
def Opens (c : Char) : Prop :=
  c ∈ ['n', 't', 'f', '"', '[', '\x7b']

instance (c : Char) : Decidable (Opens c) :=
  inferInstanceAs (Decidable (c ∈ _))

theorem Layout.exists_chars_cons (l : Layout) (level : Nat) {depth : Nat} {j : Json}
    (h : Writable depth j) : ∃ c cs, l.chars level j = c :: cs ∧ Opens c := by
  match j with
  | .null => exact ⟨_, _, rfl, by decide⟩
  | .bool true | .bool false => exact ⟨_, _, rfl, by decide⟩
  | .int _ | .float _ => exact absurd h (by simp [Writable])
  | .str t => exact ⟨'"', _, rfl, by decide⟩
  | .arr [] | .arr (_ :: _) => exact ⟨'[', _, rfl, by decide⟩
  | .obj [] | .obj ((_, _) :: _) => exact ⟨'\x7b', _, rfl, by decide⟩

theorem skipBlanks_append {b : List Char} (hb : skipBlanks b = []) (s : List Char) :
    skipBlanks (b ++ s) = skipBlanks s := by
  unfold skipBlanks at hb ⊢
  rw [List.dropWhile_append, hb]
  rfl

theorem skipBlanks_of_opens {c : Char} (hc : Opens c) (s : List Char) :
    skipBlanks (c :: s) = c :: s := by
  simp only [Opens, List.mem_cons, List.not_mem_nil, or_false] at hc
  rcases hc with rfl | rfl | rfl | rfl | rfl | rfl <;> rfl

theorem ne_of_opens {c : Char} (hc : Opens c) : c ≠ ']' := by
  rintro rfl
  exact absurd hc (by decide)

variable {fuel depth : Nat} {b : List Char} {c : Char} {s : List Char}

/-! ### What the reader does next -/

theorem readValue_gap (hb : skipBlanks b = []) :
    readValue fuel depth (b ++ s) = readValue fuel depth s := by
  cases fuel with
  | zero => simp [readValue]
  | succ fuel => simp only [readValue, skipBlanks_append hb]

theorem readValue_null : readValue (fuel + 1) depth ('n' :: 'u' :: 'l' :: 'l' :: s) =
    .ok (.null, s) := by
  simp [readValue, skipBlanks, readWord, Except.map]

theorem readValue_true : readValue (fuel + 1) depth ('t' :: 'r' :: 'u' :: 'e' :: s) =
    .ok (.bool true, s) := by
  simp [readValue, skipBlanks, readWord, Except.map]

theorem readValue_false : readValue (fuel + 1) depth ('f' :: 'a' :: 'l' :: 's' :: 'e' :: s) =
    .ok (.bool false, s) := by
  simp [readValue, skipBlanks, readWord, Except.map]

theorem readValue_quote : readValue (fuel + 1) depth ('"' :: s) =
    (readText s).map fun r => (.str r.1, r.2) := by
  simp [readValue, skipBlanks]

theorem readValue_bracket : readValue (fuel + 1) (depth + 1) ('[' :: s) =
    (readItems fuel depth true s).map fun r => (.arr r.1, r.2) := by
  simp [readValue, skipBlanks]

theorem readValue_brace : readValue (fuel + 1) (depth + 1) ('\x7b' :: s) =
    (readMembers fuel depth true s).map fun r => (ofMembers r.1, r.2) := by
  simp [readValue, skipBlanks]

theorem readItems_close (hb : skipBlanks b = []) (first : Bool) :
    readItems (fuel + 1) depth first (b ++ ']' :: s) = .ok ([], s) := by
  rw [readItems, skipBlanks_append hb]
  rfl

theorem readItems_first (hb : skipBlanks b = []) (hc : Opens c) :
    readItems (fuel + 1) depth true (b ++ c :: s) = (do
      let (j, s) ← readValue fuel depth (c :: s)
      let (js, s) ← readItems fuel depth false s
      .ok (j :: js, s)) := by
  rw [readItems, skipBlanks_append hb, skipBlanks_of_opens hc]
  simp only [if_neg (ne_of_opens hc), if_true]

theorem readItems_next (hb : skipBlanks b = []) (hc : Opens c) :
    readItems (fuel + 1) depth false (',' :: (b ++ c :: s)) = (do
      let (j, s) ← readValue fuel depth (c :: s)
      let (js, s) ← readItems fuel depth false s
      .ok (j :: js, s)) := by
  have hskip : skipBlanks (b ++ c :: s) = c :: s := by
    rw [skipBlanks_append hb, skipBlanks_of_opens hc]
  have hcomma : skipBlanks (',' :: (b ++ c :: s)) = ',' :: (b ++ c :: s) := rfl
  rw [readItems, hcomma]
  simp only [hskip, Char.reduceEq, if_false, if_true, Bool.false_eq_true]
  split
  · next h => simp at h
  · next h => exact absurd (List.cons.inj h).1 (ne_of_opens hc)
  · rfl

theorem readMembers_close (hb : skipBlanks b = []) (first : Bool) :
    readMembers (fuel + 1) depth first (b ++ '\x7d' :: s) = .ok ([], s) := by
  rw [readMembers, skipBlanks_append hb]
  rfl

theorem readMembers_first (hb : skipBlanks b = []) :
    readMembers (fuel + 1) depth true (b ++ '"' :: s) = readMember fuel depth s := by
  rw [readMembers, skipBlanks_append hb]
  rfl

theorem readMembers_next (hb : skipBlanks b = []) :
    readMembers (fuel + 1) depth false (',' :: (b ++ '"' :: s)) = readMember fuel depth s := by
  have hskip : skipBlanks (b ++ '"' :: s) = '"' :: s := skipBlanks_append hb _
  have hcomma : skipBlanks (',' :: (b ++ '"' :: s)) = ',' :: (b ++ '"' :: s) := rfl
  rw [readMembers, hcomma]
  simp only [hskip, Char.reduceEq, if_false, if_true, Bool.false_eq_true]

theorem readMember_of_readText {k : String} (hb : skipBlanks b = []) {s' : List Char}
    (hk : readText s' = .ok (k, ':' :: (b ++ s))) :
    readMember (fuel + 1) depth s' = (do
      let (j, s) ← readValue fuel depth s
      let (ms, s) ← readMembers fuel depth false s
      .ok ((k, j) :: ms, s)) := by
  have hcolon : skipBlanks (':' :: (b ++ s)) = ':' :: (b ++ s) := rfl
  rw [readMember, hk]
  simp only [bind, Except.bind, hcolon, readValue_gap hb]

/-- A written member is read back, if its value is and the members after it are. -/
theorem exists_readMember (l : Layout) (k : String) {j : Json} {ms : List (String × Json)}
    {value members : List Char}
    (hvalue : readValue fuel depth (value ++ (members ++ s)) = .ok (j, members ++ s))
    (hmembers : readMembers fuel depth false (members ++ s) = .ok (ms, s)) :
    ∃ cs, textChars k = '"' :: cs ∧
      readMember (fuel + 1) depth (cs ++ ':' :: (l.space ++ (value ++ (members ++ s)))) =
        .ok ((k, j) :: ms, s) := by
  obtain ⟨cs, hcs, hread⟩ :=
    readText_textChars k (':' :: (l.space ++ (value ++ (members ++ s))))
  refine ⟨cs, hcs, ?_⟩
  rw [readMember_of_readText l.skip_space hread, hvalue]
  simp only [bind, Except.bind, hmembers]

/-! ### Reading back -/

mutual

/-- A written value is read with its objects in order, and what comes after it is left. -/
theorem readValue_chars (l : Layout) (level fuel : Nat) {depth : Nat} {j : Json}
    (h : Writable depth j) (hfuel : 3 * (l.chars level j).length ≤ fuel) (s : List Char) :
    readValue fuel depth (l.chars level j ++ s) = .ok (j.settled, s) := by
  -- every value has a first character, which pays for three calls
  obtain ⟨fuel, rfl⟩ : ∃ n, fuel = n + 1 := by
    obtain ⟨c, cs, hchars, -⟩ := l.exists_chars_cons level h
    rw [hchars, List.length_cons] at hfuel
    exact Nat.exists_eq_succ_of_ne_zero (by omega)
  match j with
  | .null => exact readValue_null
  | .bool true => exact readValue_true
  | .bool false => exact readValue_false
  | .int _ => exact absurd h (by simp [Writable])
  | .float _ => exact absurd h (by simp [Writable])
  | .str t =>
    obtain ⟨cs, hcs, hread⟩ := readText_textChars t s
    have hchars : l.chars level (.str t) = '"' :: cs := hcs
    rw [hchars, List.cons_append, readValue_quote, hread]
    rfl
  | .arr [] =>
    obtain ⟨hdepth, -⟩ := h
    obtain ⟨depth, rfl⟩ := Nat.exists_eq_succ_of_ne_zero hdepth.ne'
    obtain ⟨fuel, rfl⟩ : ∃ n, fuel = n + 1 := Nat.exists_eq_succ_of_ne_zero (by
      simp [Layout.chars] at hfuel; omega)
    show readValue (fuel + 2) (depth + 1) ('[' :: ([] ++ ']' :: s)) = _
    rw [readValue_bracket, readItems_close rfl]
    rfl
  | .arr (j :: js) =>
    obtain ⟨hdepth, hj, hjs⟩ := h
    obtain ⟨depth, rfl⟩ := Nat.exists_eq_succ_of_ne_zero hdepth.ne'
    rw [Nat.succ_sub_one] at hj hjs
    simp only [Layout.chars, List.length_cons, List.length_append] at hfuel
    obtain ⟨fuel, rfl⟩ : ∃ n, fuel = n + 1 := Nat.exists_eq_succ_of_ne_zero (by omega)
    -- the reader looks at the first item to see that it is no closing bracket
    obtain ⟨c, cs, hchars, hc⟩ := l.exists_chars_cons (level + 1) hj
    have hvalue := readValue_chars l (level + 1) fuel hj (by omega)
      (l.items level js ++ s)
    have hitems := readItems_items l level fuel hjs (by omega) s
    rw [hchars, List.cons_append] at hvalue
    simp only [Layout.chars, List.cons_append, List.append_assoc, hchars]
    rw [readValue_bracket, readItems_first (l.skip_gap _) hc, hvalue]
    simp only [bind, Except.bind, hitems]
    rfl
  | .obj [] =>
    obtain ⟨hdepth, -⟩ := h
    obtain ⟨depth, rfl⟩ := Nat.exists_eq_succ_of_ne_zero hdepth.ne'
    obtain ⟨fuel, rfl⟩ : ∃ n, fuel = n + 1 := Nat.exists_eq_succ_of_ne_zero (by
      simp [Layout.chars] at hfuel; omega)
    show readValue (fuel + 2) (depth + 1) ('\x7b' :: ([] ++ '\x7d' :: s)) = _
    rw [readValue_brace, readMembers_close rfl]
    rfl
  | .obj ((k, j) :: ms) =>
    obtain ⟨hdepth, hj, hms⟩ := h
    obtain ⟨depth, rfl⟩ := Nat.exists_eq_succ_of_ne_zero hdepth.ne'
    rw [Nat.succ_sub_one] at hj hms
    simp only [Layout.chars, List.length_cons, List.length_append] at hfuel
    obtain ⟨fuel, rfl⟩ : ∃ n, fuel = n + 2 := Nat.exists_eq_add_of_le' (by omega)
    have hvalue := readValue_chars l (level + 1) fuel hj (by omega)
      (l.members level ms ++ s)
    have hmembers := readMembers_members l level fuel hms (by omega) s
    obtain ⟨cs, hcs, hmember⟩ := exists_readMember l k hvalue hmembers
    simp only [Layout.chars, List.cons_append, List.append_assoc, hcs]
    rw [readValue_brace, readMembers_first (l.skip_gap _), hmember]
    rfl

theorem readItems_items (l : Layout) (level fuel : Nat) {depth : Nat} {js : List Json}
    (h : WritableItems depth js) (hfuel : 3 * (l.items level js).length ≤ fuel) (s : List Char) :
    readItems fuel depth false (l.items level js ++ s) = .ok (settledItems js, s) := by
  match js with
  | [] =>
    simp only [Layout.items, List.length_append, List.length_singleton] at hfuel
    obtain ⟨fuel, rfl⟩ : ∃ n, fuel = n + 1 := Nat.exists_eq_succ_of_ne_zero (by omega)
    simp only [Layout.items, List.append_assoc, List.singleton_append]
    exact readItems_close (l.skip_gap _) false
  | j :: js =>
    obtain ⟨hj, hjs⟩ := h
    simp only [Layout.items, List.length_cons, List.length_append] at hfuel
    obtain ⟨fuel, rfl⟩ : ∃ n, fuel = n + 1 := Nat.exists_eq_succ_of_ne_zero (by omega)
    obtain ⟨c, cs, hchars, hc⟩ := l.exists_chars_cons (level + 1) hj
    have hvalue := readValue_chars l (level + 1) fuel hj (by omega)
      (l.items level js ++ s)
    have hitems := readItems_items l level fuel hjs (by omega) s
    rw [hchars, List.cons_append] at hvalue
    simp only [Layout.items, List.cons_append, List.append_assoc, hchars]
    rw [readItems_next (l.skip_gap _) hc, hvalue]
    simp only [bind, Except.bind, hitems, settledItems]

theorem readMembers_members (l : Layout) (level fuel : Nat) {depth : Nat}
    {ms : List (String × Json)} (h : WritableMembers depth ms)
    (hfuel : 3 * (l.members level ms).length ≤ fuel) (s : List Char) :
    readMembers fuel depth false (l.members level ms ++ s) = .ok (settledMembers ms, s) := by
  match ms with
  | [] =>
    simp only [Layout.members, List.length_append, List.length_singleton] at hfuel
    obtain ⟨fuel, rfl⟩ : ∃ n, fuel = n + 1 := Nat.exists_eq_succ_of_ne_zero (by omega)
    simp only [Layout.members, List.append_assoc, List.singleton_append]
    exact readMembers_close (l.skip_gap _) false
  | (k, j) :: ms =>
    obtain ⟨hj, hms⟩ := h
    simp only [Layout.members, List.length_cons, List.length_append] at hfuel
    obtain ⟨fuel, rfl⟩ : ∃ n, fuel = n + 2 := Nat.exists_eq_add_of_le' (by omega)
    have hvalue := readValue_chars l (level + 1) fuel hj (by omega)
      (l.members level ms ++ s)
    have hmembers := readMembers_members l level fuel hms (by omega) s
    obtain ⟨cs, hcs, hmember⟩ := exists_readMember l k hvalue hmembers
    simp only [Layout.members, List.cons_append, List.append_assoc, hcs]
    rw [readMembers_next (l.skip_gap _), hmember, settledMembers]

end

/-- A value is read from any layout, with its objects in order, and blanks may follow it. -/
theorem read_chars_append (l : Layout) {j : Json} (h : Writable maxDepth j) {b : List Char}
    (hb : skipBlanks b = []) : read (String.ofList (l.chars 0 j ++ b)) = .ok j.settled := by
  have hfuel : 3 * (l.chars 0 j).length ≤ 3 * (l.chars 0 j ++ b).length + 3 := by
    rw [List.length_append]
    omega
  have hvalue := readValue_chars l 0 (3 * (l.chars 0 j ++ b).length + 3) h hfuel b
  unfold read readWithin
  simp only [String.toList_ofList, hvalue, bind, Except.bind, hb]

theorem read_chars (l : Layout) {j : Json} (h : Writable maxDepth j) :
    read (String.ofList (l.chars 0 j)) = .ok j.settled := by
  have hread := read_chars_append l h (b := []) rfl
  rwa [List.append_nil] at hread

theorem read_compact_settled {j : Json} (h : Writable maxDepth j) :
    read j.compact = .ok j.settled := by
  unfold compact
  rw [compactChars_eq 0]
  exact read_chars .oneLine h

theorem read_pretty_settled {j : Json} (h : Writable maxDepth j) :
    read j.pretty = .ok j.settled := by
  unfold pretty
  rw [prettyChars_eq]
  exact read_chars .manyLines h

/-- A value written on one line is read back. -/
theorem read_compact {j : Json} (h : Readable maxDepth j) : read j.compact = .ok j := by
  rw [read_compact_settled h.writable, h.settled_eq]

/-- A value written over several lines is read back. -/
theorem read_pretty {j : Json} (h : Readable maxDepth j) : read j.pretty = .ok j := by
  rw [read_pretty_settled h.writable, h.settled_eq]

/-- In either layout a value is read alike, and so is one with its members in another order. -/
theorem read_reordered {i j : Json} (hj : Readable maxDepth j) (hi : Writable maxDepth i)
    (hsettled : i.settled = j) :
    ∀ text ∈ [j.compact, j.pretty, i.compact, i.pretty], read text = .ok j := by
  have hcompact := read_compact_settled hi
  have hpretty := read_pretty_settled hi
  rw [hsettled] at hcompact hpretty
  simp only [List.forall_mem_cons, read_compact hj, read_pretty hj, hcompact, hpretty, true_and]
  exact List.forall_mem_nil _

/-- So is one that is printed, with the line ended. -/
theorem read_pretty_line {j : Json} (h : Readable maxDepth j) :
    read (j.pretty ++ "\n") = .ok j := by
  have hline : j.pretty ++ "\n" = String.ofList (Layout.manyLines.chars 0 j ++ ['\n']) := by
    unfold pretty
    rw [prettyChars_eq, String.ofList_append]
  rw [hline, read_chars_append .manyLines h.writable rfl, h.settled_eq]

/-! ### What is read is sorted -/

theorem canonicalMembers_iff {ms : List (String × Json)} :
    CanonicalMembers ms ↔ ∀ m ∈ ms, m.2.Canonical := by
  induction ms with
  | nil => simp [CanonicalMembers]
  | cons m ms ih =>
    obtain ⟨k, j⟩ := m
    simp [CanonicalMembers, ih]

theorem canonical_ofMembers {ms : List (String × Json)} (h : CanonicalMembers ms) :
    (ofMembers ms).Canonical := by
  refine ⟨Keyed.sorted_ofPairs ms, canonicalMembers_iff.mpr ?_⟩
  intro m hm
  exact canonicalMembers_iff.mp h m (Keyed.mem_of_mem_ofPairs hm)

theorem canonical_of_ofDigits {negative : Bool} {whole : List Char}
    {fraction : Option (List Char)} {exponent : Option Int} {j : Json}
    (h : ofDigits negative whole fraction exponent = some j) : j.Canonical := by
  unfold ofDigits at h
  dsimp only at h
  split_ifs at h
  · obtain rfl := Option.some.inj h
    trivial
  · obtain rfl := Option.some.inj h
    trivial
  · obtain ⟨d, -, rfl⟩ := Option.map_eq_some_iff.mp h
    trivial

/-- A number has no objects. -/
theorem canonical_of_readNumber {s : List Char} {r : Json × List Char}
    (h : readNumber s = .ok r) : r.1.Canonical := by
  unfold readNumber at h
  obtain ⟨⟨whole, s₁⟩, -, h⟩ := except_bind_eq_ok.mp h
  obtain ⟨⟨fraction, s₂⟩, -, h⟩ := except_bind_eq_ok.mp h
  obtain ⟨⟨exponent, s₃⟩, -, h⟩ := except_bind_eq_ok.mp h
  dsimp only at h
  split at h
  · next hdigits =>
    obtain rfl := Except.ok.inj h
    exact canonical_of_ofDigits hdigits
  · simp at h

/-- What the functions that read values return with some fuel is sorted throughout. -/
structure ReadsCanonical (fuel : Nat) : Prop where
  /-- A value is canonical, -/
  value : ∀ {depth s r}, readValue fuel depth s = .ok r → r.1.Canonical
  /-- so are the items of an array, -/
  items : ∀ {depth first s r}, readItems fuel depth first s = .ok r → CanonicalItems r.1
  /-- the members of an object, -/
  members : ∀ {depth first s r}, readMembers fuel depth first s = .ok r → CanonicalMembers r.1
  /-- and a member with those after it. -/
  member : ∀ {depth s r}, readMember fuel depth s = .ok r → CanonicalMembers r.1

theorem ReadsCanonical.zero : ReadsCanonical 0 where
  value h := by simp [readValue] at h
  items h := by simp [readItems] at h
  members h := by simp [readMembers] at h
  member h := by simp [readMember] at h

variable {fuel : Nat}

theorem ReadsCanonical.step_value (ih : ReadsCanonical fuel) {depth : Nat} {s : List Char}
    {r : Json × List Char} (h : readValue (fuel + 1) depth s = .ok r) : r.1.Canonical := by
  rw [readValue] at h
  split at h
  · simp at h
  split_ifs at h
  · obtain ⟨_, -, rfl⟩ := except_map_eq_ok.mp h
    trivial
  · obtain ⟨_, -, rfl⟩ := except_map_eq_ok.mp h
    trivial
  · obtain ⟨_, -, rfl⟩ := except_map_eq_ok.mp h
    trivial
  · obtain ⟨_, -, rfl⟩ := except_map_eq_ok.mp h
    trivial
  · exact canonical_of_readNumber h
  · cases depth with
    | zero => simp at h
    | succ depth =>
      obtain ⟨_, hitems, rfl⟩ := except_map_eq_ok.mp h
      exact ih.items hitems
  · cases depth with
    | zero => simp at h
    | succ depth =>
      obtain ⟨_, hmembers, rfl⟩ := except_map_eq_ok.mp h
      exact canonical_ofMembers (ih.members hmembers)

theorem ReadsCanonical.step_items (ih : ReadsCanonical fuel) {depth : Nat} {first : Bool}
    {s : List Char} {r : List Json × List Char}
    (h : readItems (fuel + 1) depth first s = .ok r) : CanonicalItems r.1 := by
  have hcons : ∀ s, (do
      let (j, s) ← readValue fuel depth s
      let (js, s) ← readItems fuel depth false s
      .ok (j :: js, s)) = .ok r → CanonicalItems r.1 := by
    intro s h
    obtain ⟨p, hp, h⟩ := except_bind_eq_ok.mp h
    obtain ⟨q, hq, h⟩ := except_bind_eq_ok.mp h
    obtain rfl := Except.ok.inj h
    exact ⟨ih.value hp, ih.items hq⟩
  rw [readItems] at h
  split at h
  · simp at h
  split_ifs at h
  · obtain rfl := Except.ok.inj h
    trivial
  · exact hcons _ h
  · split at h
    · simp at h
    · simp at h
    · exact hcons _ h

theorem ReadsCanonical.step_members (ih : ReadsCanonical fuel) {depth : Nat} {first : Bool}
    {s : List Char} {r : List (String × Json) × List Char}
    (h : readMembers (fuel + 1) depth first s = .ok r) : CanonicalMembers r.1 := by
  rw [readMembers] at h
  split at h
  · simp at h
  split_ifs at h
  · obtain rfl := Except.ok.inj h
    trivial
  · exact ih.member h
  · split at h
    · simp at h
    · exact ih.member h
    · simp at h

theorem ReadsCanonical.step_member (ih : ReadsCanonical fuel) {depth : Nat}
    {s : List Char} {r : List (String × Json) × List Char}
    (h : readMember (fuel + 1) depth s = .ok r) : CanonicalMembers r.1 := by
  rw [readMember] at h
  obtain ⟨⟨k, s⟩, -, h⟩ := except_bind_eq_ok.mp h
  dsimp only at h
  split at h
  · simp at h
  · obtain ⟨q, hq, h⟩ := except_bind_eq_ok.mp h
    obtain ⟨t, ht, h⟩ := except_bind_eq_ok.mp h
    obtain rfl := Except.ok.inj h
    exact ⟨ih.value hq, ih.members ht⟩
  · simp at h

theorem readsCanonical (fuel : Nat) : ReadsCanonical fuel := by
  induction fuel with
  | zero => exact .zero
  | succ fuel ih => exact ⟨ih.step_value, ih.step_items, ih.step_members, ih.step_member⟩

/-- Whatever is read has its objects sorted, at every depth. -/
theorem canonical_of_read {text : String} {j : Json} (h : read text = .ok j) : j.Canonical := by
  unfold read readWithin at h
  obtain ⟨⟨j', rest⟩, hr, h⟩ := except_bind_eq_ok.mp h
  dsimp only at h
  split at h
  · obtain rfl := Except.ok.inj h
    exact (readsCanonical _).value hr
  · simp at h

end Json

end PermissionContexts
