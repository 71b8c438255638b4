import Mathlib.Data.List.Induction
import Mathlib.Data.List.Nodup
import PermissionContexts.Engine.Registry

/-! # What a registry holds

    A registry is called to register, to unregister and to take snapshots, in any order
    (`Call`). A call to register fails if the name is taken, one to unregister if it is not.
    What is there after some calls is told by the calls that **succeeded** (`SucceededAt`):

    * a **name** is there if the last of them about it is a registration, with what was
      registered then, and
    * the **order** is that of the last successful registrations.

    One call appends an entry, removes one or leaves the registry as it is (`call_cases`), and
    what is told after some calls is told after one more (`Told.concat_register` and its like).
    Snapshots are given away, and nothing that is called later reaches them.

    Main statement: `registry_holds_last_registrations`.
-/

namespace PermissionContexts

namespace Registry

variable {α : Type}

/-! ### Calls -/

/-- What a registry is called for. -/
inductive Call (α : Type) where
  /-- An entry is added. -/
  | register (name : String) (a : α)
  /-- The entry of a name is removed. -/
  | unregister (name : String)
  /-- The entries are asked for. -/
  | snapshot

/-- The name that a call is about. -/
def Call.name? : Call α → Option String
  | .register name _ => some name
  | .unregister name => some name
  | .snapshot => none

/-- The call is to register something under the name. -/
def Call.Registers (name : String) (c : Call α) : Prop :=
  ∃ a, c = .register name a

/-- A registry, and the snapshots that were taken of it, in order. A snapshot is the list of
    entries as a value. That in memory it is the list of the registry itself, which is copied
    when the registry is changed while somebody holds the snapshot, is not modelled: what is
    said of later calls is said of values. -/
structure Shared (α : Type) where
  /-- The registry. -/
  registry : Registry α
  /-- The snapshots. -/
  snapshots : List (List (String × α))

/-- What is there after a call. -/
def Shared.call (s : Shared α) : Call α → Shared α
  | .register name a => { s with registry := (s.registry.register name a).2 }
  | .unregister name => { s with registry := (s.registry.unregister name).2 }
  | .snapshot => { s with snapshots := s.snapshots ++ [s.registry.snapshot] }

/-- What is there after the calls, of a registry that was new before them. -/
def after (cs : List (Call α)) : Shared α :=
  cs.foldl Shared.call ⟨.empty, []⟩

/-- Whether a call would do what it is made for. -/
def succeeds (r : Registry α) : Call α → Bool
  | .register name a => (r.register name a).1.isOk
  | .unregister name => (r.unregister name).1
  | .snapshot => true

/-- The call at place `i` is `c`, and it succeeds. -/
def SucceededAt (cs : List (Call α)) (i : Nat) (c : Call α) : Prop :=
  cs[i]? = some c ∧ (after (cs.take i)).registry.succeeds c = true

/-- The call at place `i` is the last with `p` that succeeds. -/
structure LastSuccess (cs : List (Call α)) (p : Call α → Prop) (i : Nat) (c : Call α) : Prop where
  succeeded : SucceededAt cs i c
  holds : p c
  last : ∀ j d, i < j → SucceededAt cs j d → ¬ p d

/-! ### One call -/

variable {cs : List (Call α)} {c d : Call α} {p : Call α → Prop} {i : Nat}

theorem has_iff (r : Registry α) (name : String) : r.has name = true ↔ name ∈ r.names := by
  unfold has names
  rw [List.any_eq_true, List.mem_map]
  simp only [decide_eq_true_eq]

theorem register_fst_eq_error_iff {r : Registry α} {name : String} {a : α} {e : EngineError} :
    (r.register name a).1 = .error e ↔ e = .duplicateCalculator name ∧ name ∈ r.names := by
  unfold register
  rw [← has_iff]
  by_cases h : r.has name = true
  · simp [h, eq_comm]
  · simp [h]

/-- A registry that refuses a name is given back as it is. -/
theorem register_of_mem {r : Registry α} {name : String} (a : α) (h : name ∈ r.names) :
    r.register name a = (.error (.duplicateCalculator name), r) := by
  unfold register
  rw [if_pos ((has_iff r name).mpr h)]

theorem register_of_not_mem {r : Registry α} {name : String} (a : α) (h : name ∉ r.names) :
    r.register name a = (.ok (), ⟨r.entries ++ [(name, a)]⟩) := by
  unfold register
  rw [if_neg fun hhas => h ((has_iff r name).mp hhas)]

theorem unregister_fst_iff (r : Registry α) (name : String) :
    (r.unregister name).1 = true ↔ name ∈ r.names := by
  unfold unregister
  rw [← has_iff]
  by_cases h : r.has name = true <;> simp [h]

/-- A call appends an entry of a new name, removes the entries of a name that is there, or
    leaves the registry as it is. -/
theorem call_cases (s : Shared α) (c : Call α) :
    (∃ name a, c = .register name a ∧ name ∉ s.registry.names ∧ s.registry.succeeds c = true ∧
      (s.call c).registry.entries = s.registry.entries ++ [(name, a)]) ∨
    (∃ name, c = .unregister name ∧ s.registry.succeeds c = true ∧
      (s.call c).registry.entries = s.registry.entries.filter (·.1 != name)) ∨
    ((s.call c).registry = s.registry ∧ (c = .snapshot ∨ s.registry.succeeds c = false)) := by
  cases c with
  | register name a =>
    by_cases h : s.registry.has name = true
    · -- refused, since the name is taken
      refine Or.inr (Or.inr ⟨?_, Or.inr ?_⟩)
      · simp [Shared.call, register, h]
      · simp [succeeds, register, h, Except.isOk, Except.toBool]
    · refine Or.inl ⟨name, a, rfl, ?_, ?_, ?_⟩
      · intro hname
        exact h ((has_iff _ _).mpr hname)
      · simp [succeeds, register, h, Except.isOk, Except.toBool]
      · simp [Shared.call, register, h]
  | unregister name =>
    by_cases h : s.registry.has name = true
    · refine Or.inr (Or.inl ⟨name, rfl, ?_, ?_⟩)
      · simp [succeeds, unregister, h]
      · simp [Shared.call, unregister, h]
    · -- in vain, since there is nothing under the name
      refine Or.inr (Or.inr ⟨?_, Or.inr ?_⟩)
      · simp [Shared.call, unregister, h]
      · simp [succeeds, unregister, h]
  | snapshot => exact Or.inr (Or.inr ⟨rfl, Or.inl rfl⟩)

/-! ### One more call -/

theorem after_concat (cs : List (Call α)) (c : Call α) : after (cs ++ [c]) = (after cs).call c := by
  unfold after
  rw [List.foldl_append, List.foldl_cons, List.foldl_nil]

theorem SucceededAt.lt (h : SucceededAt cs i c) : i < cs.length :=
  (List.getElem?_eq_some_iff.mp h.1).1

/-- One more call is the only new one that may have succeeded. -/
theorem succeededAt_concat : SucceededAt (cs ++ [c]) i d ↔
    SucceededAt cs i d ∨ i = cs.length ∧ d = c ∧ (after cs).registry.succeeds c = true := by
  constructor
  · intro h
    obtain ⟨hcall, hsucceeds⟩ := h
    by_cases hi : i < cs.length
    · -- what was there before an old call does not depend on the new one
      rw [List.getElem?_append_left hi] at hcall
      rw [List.take_append_of_le_length (Nat.le_of_lt hi)] at hsucceeds
      exact Or.inl ⟨hcall, hsucceeds⟩
    · have hlength := (List.getElem?_eq_some_iff.mp hcall).1
      rw [List.length_append, List.length_singleton] at hlength
      obtain rfl : i = cs.length := by omega
      rw [List.getElem?_concat_length] at hcall
      obtain rfl := Option.some.inj hcall
      rw [List.take_left] at hsucceeds
      exact Or.inr ⟨rfl, rfl, hsucceeds⟩
  · rintro (h | ⟨rfl, rfl, hsucceeds⟩)
    · refine ⟨?_, ?_⟩
      · rw [List.getElem?_append_left h.lt]
        exact h.1
      · rw [List.take_append_of_le_length (Nat.le_of_lt h.lt)]
        exact h.2
    · refine ⟨List.getElem?_concat_length, ?_⟩
      rw [List.take_left]
      exact hsucceeds

/-- A call that succeeds is the last one. -/
theorem lastSuccess_concat_self (hp : p c) (hc : (after cs).registry.succeeds c = true) :
    LastSuccess (cs ++ [c]) p i d ↔ i = cs.length ∧ d = c := by
  constructor
  · intro h
    rcases succeededAt_concat.mp h.succeeded with hold | ⟨hi, hd, -⟩
    · -- an older call is not the last one any more
      have hlast : SucceededAt (cs ++ [c]) cs.length c :=
        succeededAt_concat.mpr (Or.inr ⟨rfl, rfl, hc⟩)
      exact absurd hp (h.last _ _ hold.lt hlast)
    · exact ⟨hi, hd⟩
  · rintro ⟨rfl, rfl⟩
    refine ⟨succeededAt_concat.mpr (Or.inr ⟨rfl, rfl, hc⟩), hp, ?_⟩
    intro j e hj he
    have hlength := he.lt
    rw [List.length_append, List.length_singleton] at hlength
    omega

/-- Other calls do not count. -/
theorem lastSuccess_concat_other (hc : p c → (after cs).registry.succeeds c = false) :
    LastSuccess (cs ++ [c]) p i d ↔ LastSuccess cs p i d := by
  have hother : ∀ j e, p e → (SucceededAt (cs ++ [c]) j e ↔ SucceededAt cs j e) := by
    intro j e he
    refine succeededAt_concat.trans (or_iff_left ?_)
    rintro ⟨-, rfl, hsucceeds⟩
    rw [hc he] at hsucceeds
    exact absurd hsucceeds (by simp)
  constructor
  · intro h
    refine ⟨(hother i d h.holds).mp h.succeeded, h.holds, ?_⟩
    intro j e hj he hp
    exact h.last j e hj ((hother j e hp).mpr he) hp
  · intro h
    refine ⟨(hother i d h.holds).mpr h.succeeded, h.holds, ?_⟩
    intro j e hj he hp
    exact h.last j e hj ((hother j e hp).mp he) hp

theorem registers_register {name name' : String} {a : α} :
    Call.Registers name (.register name' a) ↔ name = name' := by
  unfold Call.Registers
  simp [eq_comm]

theorem not_registers_unregister (name name' : String) :
    ¬ Call.Registers name (.unregister name' : Call α) := by
  unfold Call.Registers
  simp

/-! ### What is told -/

/-- The last successful call about the name is to register `a`. -/
def Stands (cs : List (Call α)) (name : String) (a : α) : Prop :=
  ∃ i, LastSuccess cs (·.name? = some name) i (.register name a)

/-- What was registered last under the first name was registered before what was registered
    last under the second. -/
def Earlier (cs : List (Call α)) (e e' : String × α) : Prop :=
  ∃ i j, LastSuccess cs (·.Registers e.1) i (.register e.1 e.2) ∧
    LastSuccess cs (·.Registers e'.1) j (.register e'.1 e'.2) ∧ i < j

/-- A registration that stands is the last one under its name. -/
theorem Stands.exists_lastSuccess {name : String} {a : α} (h : Stands cs name a) :
    ∃ i, LastSuccess cs (·.Registers name) i (.register name a) := by
  obtain ⟨i, hi⟩ := h
  refine ⟨i, hi.succeeded, ⟨a, rfl⟩, ?_⟩
  rintro j _ hj he ⟨b, rfl⟩
  exact hi.last j _ hj he rfl

theorem stands_concat_self {name : String} {a : α} (hc : c.name? = some name)
    (hsucceeds : (after cs).registry.succeeds c = true) :
    Stands (cs ++ [c]) name a ↔ c = .register name a := by
  constructor
  · rintro ⟨i, hi⟩
    exact ((lastSuccess_concat_self hc hsucceeds).mp hi).2.symm
  · intro heq
    exact ⟨cs.length, (lastSuccess_concat_self hc hsucceeds).mpr ⟨rfl, heq.symm⟩⟩

theorem stands_concat_other {name : String} {a : α}
    (hc : c.name? = some name → (after cs).registry.succeeds c = false) :
    Stands (cs ++ [c]) name a ↔ Stands cs name a :=
  exists_congr fun _ => lastSuccess_concat_other hc

/-- What stands under a name does not depend on calls about other names. -/
theorem stands_concat_of_ne {name : String} {a : α} (hc : c.name? ≠ some name) :
    Stands (cs ++ [c]) name a ↔ Stands cs name a :=
  stands_concat_other fun h => absurd h hc

/-- Registrations stay in order unless one of them is made again. -/
theorem Earlier.concat {e e' : String × α} (h : Earlier cs e e')
    (hc : c.Registers e.1 ∨ c.Registers e'.1 → (after cs).registry.succeeds c = false) :
    Earlier (cs ++ [c]) e e' := by
  obtain ⟨i, j, hi, hj, hlt⟩ := h
  exact ⟨i, j, (lastSuccess_concat_other fun h => hc (Or.inl h)).mpr hi,
    (lastSuccess_concat_other fun h => hc (Or.inr h)).mpr hj, hlt⟩

/-- What is registered now comes after what stands under other names. -/
theorem Stands.earlier_concat {e : String × α} (h : Stands cs e.1 e.2) {name : String} {a : α}
    (hne : e.1 ≠ name) (hsucceeds : (after cs).registry.succeeds (.register name a) = true) :
    Earlier (cs ++ [.register name a]) e (name, a) := by
  obtain ⟨i, hi⟩ := h.exists_lastSuccess
  exact ⟨i, cs.length,
    (lastSuccess_concat_other fun h => absurd (registers_register.mp h) hne).mpr hi,
    (lastSuccess_concat_self ⟨a, rfl⟩ hsucceeds).mpr ⟨rfl, rfl⟩, hi.succeeded.lt⟩

/-- The registry holds what the calls tell. -/
structure Told (cs : List (Call α)) : Prop where
  /-- No name is there twice. -/
  nodup : (after cs).registry.names.Nodup
  /-- The entries are the registrations that stand, -/
  entries : ∀ name a, (name, a) ∈ (after cs).registry.entries ↔ Stands cs name a
  /-- in the order in which they were made. -/
  order : (after cs).registry.entries.Pairwise (Earlier cs)

theorem told_nil : Told ([] : List (Call α)) where
  nodup := List.nodup_nil
  entries name a := by
    refine iff_of_false List.not_mem_nil ?_
    rintro ⟨i, hi⟩
    exact absurd hi.succeeded.lt (Nat.not_lt_zero i)
  order := List.Pairwise.nil

theorem mem_names {r : Registry α} {e : String × α} (h : e ∈ r.entries) : e.1 ∈ r.names :=
  List.mem_map_of_mem h

/-- What is told is told after a call that changes nothing, -/
theorem Told.concat_same (h : Told cs) (hsame : ((after cs).call c).registry = (after cs).registry)
    (hc : c = .snapshot ∨ (after cs).registry.succeeds c = false) : Told (cs ++ [c]) := by
  have hfails : ∀ name, c.name? = some name → (after cs).registry.succeeds c = false := by
    intro name hname
    rcases hc with rfl | hc
    · exact absurd hname (by simp [Call.name?])
    · exact hc
  refine ⟨?_, ?_, ?_⟩
  · rw [after_concat, hsame]
    exact h.nodup
  · intro name a
    rw [after_concat, hsame, h.entries, stands_concat_other (hfails name)]
  · rw [after_concat, hsame]
    refine h.order.imp fun hearlier => hearlier.concat ?_
    rintro (⟨a, rfl⟩ | ⟨a, rfl⟩)
    · exact hfails _ rfl
    · exact hfails _ rfl

/-- after a registration, -/
theorem Told.concat_register (h : Told cs) {name : String} {a : α}
    (hname : name ∉ (after cs).registry.names)
    (hsucceeds : (after cs).registry.succeeds (.register name a) = true)
    (hentries : ((after cs).call (.register name a)).registry.entries =
      (after cs).registry.entries ++ [(name, a)]) : Told (cs ++ [.register name a]) := by
  have hne : ∀ e ∈ (after cs).registry.entries, e.1 ≠ name := by
    rintro e he rfl
    exact hname (mem_names he)
  refine ⟨?_, ?_, ?_⟩
  · have hnames : ((after cs).call (.register name a)).registry.names =
        (after cs).registry.names ++ [name] := by
      unfold names
      rw [hentries, List.map_append]
      rfl
    rw [after_concat, hnames, ← List.concat_eq_append]
    exact h.nodup.concat hname
  · intro name' b
    rw [after_concat, hentries, List.mem_append, List.mem_singleton]
    by_cases heq : name' = name
    · -- what was there has other names
      subst heq
      rw [stands_concat_self rfl hsucceeds]
      constructor
      · rintro (hold | hnew)
        · exact absurd rfl (hne _ hold)
        · rw [(Prod.mk.inj hnew).2]
      · intro hcall
        injection hcall with _ hb
        exact Or.inr (by rw [hb])
    · have hother : (Call.register name a).name? ≠ some name' :=
        fun hc => heq (Option.some.inj hc).symm
      rw [stands_concat_of_ne hother, h.entries]
      exact or_iff_left fun hnew => heq (Prod.mk.inj hnew).1
  · rw [after_concat, hentries, List.pairwise_append]
    refine ⟨?_, List.pairwise_singleton .., ?_⟩
    · -- what was there has other names, so that none of it is registered again
      refine h.order.imp_of_mem ?_
      intro e e' he he' hearlier
      refine hearlier.concat ?_
      rintro (hc | hc)
      · exact absurd (registers_register.mp hc) (hne e he)
      · exact absurd (registers_register.mp hc) (hne e' he')
    · intro e he e' he'
      obtain rfl := List.mem_singleton.mp he'
      exact ((h.entries e.1 e.2).mp he).earlier_concat (hne e he) hsucceeds

/-- and after a removal. -/
theorem Told.concat_unregister (h : Told cs) {name : String}
    (hsucceeds : (after cs).registry.succeeds (.unregister name) = true)
    (hentries : ((after cs).call (.unregister name)).registry.entries =
      (after cs).registry.entries.filter (·.1 != name)) : Told (cs ++ [.unregister name]) := by
  refine ⟨?_, ?_, ?_⟩
  · rw [after_concat]
    unfold names
    rw [hentries]
    exact h.nodup.sublist (List.filter_sublist.map _)
  · intro name' a
    rw [after_concat, hentries, List.mem_filter, h.entries]
    by_cases heq : name' = name
    · subst heq
      rw [stands_concat_self rfl hsucceeds]
      simp
    · have hother : (Call.unregister name : Call α).name? ≠ some name' :=
        fun hc => heq (Option.some.inj hc).symm
      rw [stands_concat_of_ne hother]
      simp [heq]
  · -- a removal registers nothing, so that what is left keeps its order
    rw [after_concat, hentries]
    refine (h.order.sublist List.filter_sublist).imp fun hearlier => hearlier.concat ?_
    rintro (hc | hc)
    · exact absurd hc (not_registers_unregister _ name)
    · exact absurd hc (not_registers_unregister _ name)

theorem told (cs : List (Call α)) : Told cs := by
  induction cs using List.reverseRecOn with
  | nil => exact told_nil
  | append_singleton cs c ih =>
    rcases call_cases (after cs) c with ⟨name, a, rfl, hname, hsucceeds, hentries⟩ |
      ⟨name, rfl, hsucceeds, hentries⟩ | ⟨hsame, hc⟩
    · exact ih.concat_register hname hsucceeds hentries
    · exact ih.concat_unregister hsucceeds hentries
    · exact ih.concat_same hsame hc

/-! ### Removal -/

/-- Where no name is there twice, a removal takes one entry out from between the others. -/
theorem unregister_of_mem {r : Registry α} (h : r.names.Nodup) {name : String}
    (hname : name ∈ r.names) : ∃ before a behind, r.entries = before ++ (name, a) :: behind ∧
      (r.unregister name).2.entries = before ++ behind := by
  obtain ⟨⟨name', a⟩, hentry, heq⟩ := List.mem_map.mp hname
  obtain rfl : name' = name := heq
  obtain ⟨before, behind, hsplit⟩ := List.append_of_mem hentry
  refine ⟨before, a, behind, hsplit, ?_⟩
  unfold names at h
  rw [hsplit, List.map_append, List.map_cons, List.nodup_middle, List.nodup_cons,
    ← List.map_append] at h
  -- the name is not there a second time, so that the filter keeps all other entries
  have hothers : ∀ e ∈ before ++ behind, (e.1 != name') = true := by
    intro e he
    refine bne_iff_ne.mpr ?_
    rintro rfl
    exact h.1 (List.mem_map.mpr ⟨e, he, rfl⟩)
  unfold unregister
  rw [if_pos ((has_iff r name').mpr hname)]
  show r.entries.filter (·.1 != name') = _
  rw [hsplit, List.filter_append, List.filter_cons_of_neg (by simp), ← List.filter_append,
    List.filter_eq_self.mpr hothers]

/-! ### Snapshots -/

theorem snapshots_prefix (cs cs' : List (Call α)) :
    (after cs).snapshots <+: (after (cs ++ cs')).snapshots := by
  -- no call changes a snapshot that is there, so the list only grows
  induction cs' using List.reverseRecOn with
  | nil => simp
  | append_singleton cs' c ih =>
    rw [← List.append_assoc, after_concat]
    refine ih.trans ?_
    cases c with
    | register name a => exact List.prefix_refl _
    | unregister name => exact List.prefix_refl _
    | snapshot => exact List.prefix_append _ _

/-! ### Main statement -/

/-- **A registry holds the last registrations**. After any calls `cs`,

    1. no name is there twice,
    2. what is there under a name is what the last successful call about it has registered,
       and a name whose last successful call was a removal is not there,
    3. the entries are in the order of the last successful registrations of their names,
    4. to register fails exactly if the name is there, only in this way, and gives the
       registry back as it is then,
    5. to unregister tells whether the name was there, and takes out its entry and no other, and
    6. whatever is called later, a snapshot taken now keeps the entries that are there now. -/
theorem registry_holds_last_registrations (cs : List (Call α)) :
    (after cs).registry.names.Nodup ∧
    (∀ name a, (name, a) ∈ (after cs).registry.entries ↔
      ∃ i, LastSuccess cs (·.name? = some name) i (.register name a)) ∧
    (after cs).registry.entries.Pairwise (fun e e' =>
      ∃ i j, LastSuccess cs (·.Registers e.1) i (.register e.1 e.2) ∧
        LastSuccess cs (·.Registers e'.1) j (.register e'.1 e'.2) ∧ i < j) ∧
    (∀ name a,
      (∀ e, ((after cs).registry.register name a).1 = .error e ↔
        e = .duplicateCalculator name ∧ name ∈ (after cs).registry.names) ∧
      (name ∈ (after cs).registry.names →
        ((after cs).registry.register name a).2 = (after cs).registry ∧
          after (cs ++ [.register name a]) = after cs)) ∧
    (∀ name,
      (((after cs).registry.unregister name).1 = true ↔ name ∈ (after cs).registry.names) ∧
      (name ∈ (after cs).registry.names → ∃ before a behind,
        (after cs).registry.entries = before ++ (name, a) :: behind ∧
        ((after cs).registry.unregister name).2.entries = before ++ behind) ∧
      (name ∉ (after cs).registry.names →
        ((after cs).registry.unregister name).2 = (after cs).registry)) ∧
    ∀ cs', (after (cs ++ .snapshot :: cs')).snapshots[(after cs).snapshots.length]? =
      some (after cs).registry.entries := by
  have htold := told cs
  refine ⟨htold.nodup, htold.entries, htold.order, ?_, ?_, ?_⟩
  · intro name a
    refine ⟨fun e => register_fst_eq_error_iff, ?_⟩
    intro hname
    have hrefused := register_of_mem a hname
    rw [after_concat, Shared.call, hrefused]
    exact ⟨rfl, rfl⟩
  · intro name
    refine ⟨unregister_fst_iff _ name, unregister_of_mem htold.nodup, ?_⟩
    intro hname
    unfold unregister
    rw [if_neg fun h => hname ((has_iff _ name).mp h)]
  · intro cs'
    have hsplit : cs ++ .snapshot :: cs' = (cs ++ [.snapshot]) ++ cs' := by simp
    have htaken : (after (cs ++ [.snapshot])).snapshots =
        (after cs).snapshots ++ [(after cs).registry.entries] := by
      rw [after_concat]
      rfl
    obtain ⟨later, hlater⟩ := snapshots_prefix (cs ++ [.snapshot]) cs'
    rw [hsplit, ← hlater, htaken, List.append_assoc, List.getElem?_append_right (Nat.le_refl _),
      Nat.sub_self]
    rfl

/-- Calls that register a name again, in vain and after a removal. -/
def reordering : List (Call Nat) :=
  [.register "world" 1, .register "static" 2, .register "world" 3, .snapshot,
    .unregister "world", .unregister "world", .register "world" 4]

/-- The name that was removed and registered again is the last one, a further registration is
    refused, and the snapshot has the old order. -/
theorem registry_holds_last_registrations_reordering :
    (∃ i j, LastSuccess reordering (·.Registers "static") i (.register "static" 2) ∧
      LastSuccess reordering (·.Registers "world") j (.register "world" 4) ∧ i < j) ∧
    (∃ i, LastSuccess reordering (·.name? = some "world") i (.register "world" 4)) ∧
    ((after reordering).registry.register "world" 5).2 = (after reordering).registry ∧
    after (reordering ++ [.register "world" 5]) = after reordering ∧
    (∃ before a behind, (after reordering).registry.entries = before ++ ("static", a) :: behind ∧
      ((after reordering).registry.unregister "static").2.entries = before ++ behind) ∧
    (after reordering).snapshots[0]? = some [("world", 1), ("static", 2)] := by
  have hentries : (after reordering).registry.entries = [("static", 2), ("world", 4)] := by
    decide +kernel
  obtain ⟨-, hmem, horder, hregister, hunregister, -⟩ :=
    registry_holds_last_registrations reordering
  have hsnapshot := (registry_holds_last_registrations
    [.register "world" 1, .register "static" 2, .register "world" 3]).2.2.2.2.2
      [.unregister "world", .unregister "world", .register "world" 4]
  rw [hentries] at horder
  have hworld : "world" ∈ (after reordering).registry.names := by simp [names, hentries]
  obtain ⟨hrefused, hsame⟩ := (hregister "world" 5).2 hworld
  refine ⟨?_, (hmem "world" 4).mp ?_, hrefused, hsame, (hunregister "static").2.1 ?_, ?_⟩
  · exact (List.pairwise_cons.mp horder).1 ("world", 4) (by simp)
  · simp [hentries]
  · simp [names, hentries]
  · exact hsnapshot

end Registry

end PermissionContexts
