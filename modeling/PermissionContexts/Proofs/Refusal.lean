import PermissionContexts.Proofs.ContextSet
import PermissionContexts.Settings.Basic

/-! # Nothing usable is refused

    Settings are checked on raw texts, and a pair is tested again in normal form when it is
    made a context. The check may not be the stricter of the two.

    * **Faults** are what the check looks for, wherever they stand (`Faulty`). Settings are
      accepted if they have none (`check_eq_ok_iff`), and an error names one that they have
      (`faulty_of_check`).
    * **Normal form** makes no valid text of one that is not valid, because it makes neither
      an allowed character of another one nor a text shorter.

    So a key or a value that is named in an error becomes no context, whatever it is put
    together with.

    Main statement: `nothing_usable_is_refused`.
-/

namespace PermissionContexts

namespace ContextSettings

variable {c : ContextSettings}

/-! ### Faults -/

/-- The settings have the fault. -/
inductive Faulty (c : ContextSettings) : SettingsFault → Prop where
  /-- A static key is not valid. -/
  | key {key : String} {values : List String} (mem : (key, values) ∈ c.staticContexts)
      (invalid : Context.validKey key = false) : Faulty c (.invalidStaticKey key)
  /-- One of the values of a valid static key is not valid. -/
  | value {key value : String} {values : List String} (mem : (key, values) ∈ c.staticContexts)
      (mem_values : value ∈ values) (valid : Context.validKey key = true)
      (invalid : Context.validValue value = false) : Faulty c (.invalidStaticValue key value)
  /-- Nothing is left of the source of a rewrite when it is trimmed. -/
  | source {source : String} (mem : source ∈ c.worldRewrites.keys) (blank : trimmed source = "") :
      Faulty c (.blankSource source)

theorem staticFault_eq_none_iff {key : String} {values : List String} :
    staticFault key values = none ↔
      Context.validKey key = true ∧ ∀ v ∈ values, Context.validValue v = true := by
  unfold staticFault
  by_cases hkey : Context.validKey key = true
  · simp [hkey]
  · simp [hkey]

theorem faulty_of_staticFault {key : String} {values : List String} {f : SettingsFault}
    (hmem : (key, values) ∈ c.staticContexts) (h : staticFault key values = some f) :
    c.Faulty f := by
  unfold staticFault at h
  by_cases hkey : Context.validKey key = true
  · rw [if_pos hkey, Option.map_eq_some_iff] at h
    obtain ⟨value, hfind, rfl⟩ := h
    have hinvalid : Context.validValue value = false := by simpa using List.find?_some hfind
    exact Faulty.value hmem (List.mem_of_find?_eq_some hfind) hkey hinvalid
  · rw [if_neg hkey, Option.some.injEq] at h
    rw [← h]
    exact Faulty.key hmem (Bool.eq_false_iff.mpr hkey)

/-- An error names a fault that the settings have. -/
theorem faulty_of_check {f : SettingsFault} (h : c.check = .error f) : c.Faulty f := by
  have hfault : c.fault = some f := by
    unfold check at h
    split at h
    · rw [Except.error.injEq] at h
      rw [← h]
      assumption
    · simp at h
  unfold fault at hfault
  split at hfault
  · next hstatic =>
    obtain ⟨e, hmem, he⟩ := List.exists_of_findSome?_eq_some hstatic
    rw [Option.some.injEq] at hfault
    rw [← hfault]
    exact faulty_of_staticFault hmem he
  · rw [Option.map_eq_some_iff] at hfault
    obtain ⟨source, hfind, rfl⟩ := hfault
    have hblank : trimmed source = "" := by simpa using List.find?_some hfind
    exact Faulty.source (List.mem_of_find?_eq_some hfind) hblank

/-- In accepted settings no entry has a fault, and no source is blank. -/
theorem entries_of_check (h : c.check = .ok ()) :
    (∀ e ∈ c.staticContexts, staticFault e.1 e.2 = none) ∧
      ∀ source ∈ c.worldRewrites.keys, trimmed source ≠ "" := by
  have hfault : c.fault = none := by
    unfold check at h
    split at h
    · simp at h
    · assumption
  unfold fault at hfault
  split at hfault
  · simp at hfault
  · next hstatic =>
    constructor
    · exact List.findSome?_eq_none_iff.mp hstatic
    · intro source hmem
      have hnone := List.find?_eq_none.mp (Option.map_eq_none_iff.mp hfault) source hmem
      simpa using hnone

/-- Settings are accepted exactly if they have no fault. -/
theorem check_eq_ok_iff : c.check = .ok () ↔ ∀ f, ¬ c.Faulty f := by
  constructor
  · intro h f hf
    obtain ⟨hstatic, hsource⟩ := entries_of_check h
    cases hf with
    | key mem invalid =>
      obtain ⟨hkey, -⟩ := staticFault_eq_none_iff.mp (hstatic _ mem)
      rw [invalid] at hkey
      exact Bool.noConfusion hkey
    | value mem mem_values valid invalid =>
      obtain ⟨-, hvalues⟩ := staticFault_eq_none_iff.mp (hstatic _ mem)
      have hvalue := hvalues _ mem_values
      rw [invalid] at hvalue
      exact Bool.noConfusion hvalue
    | source mem blank => exact hsource _ mem blank
  · intro h
    cases hcheck : c.check with
    | ok u => rfl
    | error f => exact absurd (faulty_of_check hcheck) (h f)

theorem mem_staticPairs {key value : String} : (key, value) ∈ c.staticPairs ↔
    ∃ values, (key, values) ∈ c.staticContexts ∧ value ∈ values := by
  unfold staticPairs
  simp only [List.mem_flatMap, List.mem_map, Prod.exists, Prod.mk.injEq]
  constructor
  · rintro ⟨k, values, hmem, v, hvalue, rfl, rfl⟩
    exact ⟨values, hmem, hvalue⟩
  · rintro ⟨values, hmem, hvalue⟩
    exact ⟨key, values, hmem, value, hvalue, rfl, rfl⟩

/-- Settings of which everything is usable are accepted. -/
theorem check_of_usable
    (hpairs : ∀ p ∈ c.staticPairs, ∃ context, Context.ofRaw p.1 p.2 = .ok context)
    (hkeys : ∀ key, (key, []) ∈ c.staticContexts →
      ∃ value context, Context.ofRaw (normalForm key) value = .ok context)
    (hsources : ∀ source ∈ c.worldRewrites.keys, trimmed source ≠ "") : c.check = .ok () := by
  rw [check_eq_ok_iff]
  intro f hf
  cases hf with
  | @key key values mem invalid =>
    -- a key without values has to be valid by itself
    have hvalid : Context.validKey key = true := by
      cases values with
      | nil =>
        obtain ⟨value, context, hcontext⟩ := hkeys key mem
        obtain ⟨hnormal, -⟩ := Context.valid_of_ofRaw hcontext
        rw [Context.validKey_normalForm] at hnormal
        exact hnormal
      | cons value rest =>
        have hpair := mem_staticPairs.mpr ⟨_, mem, List.mem_cons_self⟩
        obtain ⟨context, hcontext⟩ := hpairs _ hpair
        exact (Context.valid_of_ofRaw hcontext).1
    rw [invalid] at hvalid
    exact Bool.noConfusion hvalid
  | @value key value values mem mem_values valid invalid =>
    obtain ⟨context, hcontext⟩ := hpairs _ (mem_staticPairs.mpr ⟨_, mem, mem_values⟩)
    obtain ⟨-, hvalid⟩ := Context.valid_of_ofRaw hcontext
    rw [invalid] at hvalid
    exact Bool.noConfusion hvalid
  | source mem blank => exact hsources _ mem blank

/-! ### Main statement -/

/-- **Nothing usable is refused**.

    1. The key and the value of a raw pair that becomes a context are valid as they stand,
       and whether a key is valid does not change with its normal form.
    2. Settings are accepted if all static pairs become contexts, the static keys without a
       value have a normal form that does with some value, and no source of a rewrite is
       blank.
    3. A static key that is named as not valid becomes no context with any value, and a
       static value that is named so becomes none with any key. -/
theorem nothing_usable_is_refused :
    ((∀ key value context, Context.ofRaw key value = .ok context →
        Context.validKey key = true ∧ Context.validValue value = true) ∧
      ∀ key, Context.validKey key = Context.validKey (normalForm key)) ∧
    (∀ c : ContextSettings,
      (∀ p ∈ c.staticPairs, ∃ context, Context.ofRaw p.1 p.2 = .ok context) →
      (∀ key, (key, []) ∈ c.staticContexts →
        ∃ value context, Context.ofRaw (normalForm key) value = .ok context) →
      (∀ source ∈ c.worldRewrites.keys, trimmed source ≠ "") → c.check = .ok ()) ∧
    (∀ (c : ContextSettings) key, c.check = .error (.invalidStaticKey key) →
      key ∈ c.staticContexts.keys ∧
        ∀ value, Context.ofRaw key value = .error (.invalidKey (normalForm key))) ∧
    ∀ (c : ContextSettings) key value, c.check = .error (.invalidStaticValue key value) →
      (key, value) ∈ c.staticPairs ∧
        ∀ k, Context.ofRaw k value = .error (if Context.validKey k
          then .invalidValue (normalForm k) (normalForm value)
          else .invalidKey (normalForm k)) := by
  refine ⟨⟨?_, ?_⟩, ?_, ?_, ?_⟩
  · intro key value context h
    exact Context.valid_of_ofRaw h
  · intro key
    exact (Context.validKey_normalForm key).symm
  · intro c hpairs hkeys hsources
    exact check_of_usable hpairs hkeys hsources
  · intro c key h
    cases faulty_of_check h with
    | key mem invalid =>
      exact ⟨List.mem_map_of_mem mem, Context.ofRaw_of_invalid_key invalid⟩
  · intro c key value h
    cases faulty_of_check h with
    | value mem mem_values valid invalid =>
      exact ⟨mem_staticPairs.mpr ⟨_, mem, mem_values⟩, Context.ofRaw_of_invalid_value invalid⟩

/-- A key with blanks around it, a value that grows in lower case, and a key without values. -/
def regionSettings : ContextSettings :=
  ⟨[("hub", ["lobby"]), ("secret", [])], false,
    [(" Region\t", ["\u0130zmir", " East "]), ("Zone", [])]⟩

/-- These settings are accepted. A key with the separator is refused with them and without
    them, and so is a blank value. -/
theorem nothing_usable_is_refused_region :
    Context.ofRaw " Region\t" "\u0130zmir" = .ok ⟨"region", "i\u0307zmir"⟩ ∧
      Context.validKey " Region\t" = true ∧ Context.validValue "\u0130zmir" = true ∧
      regionSettings.check = .ok () ∧
      check ⟨[], false, [("a=b", ["x"])]⟩ = .error (.invalidStaticKey "a=b") ∧
      Context.ofRaw "a=b" "x" = .error (.invalidKey "a=b") ∧
      check ⟨[], false, [("server", ["lobby", " "])]⟩ = .error (.invalidStaticValue "server" " ") ∧
      Context.ofRaw "Region" " " = .error (.invalidValue "region" "") := by
  obtain ⟨⟨hvalid, -⟩, haccepted, hkeys, hvalues⟩ := nothing_usable_is_refused
  have hizmir : Context.ofRaw " Region\t" "\u0130zmir" = .ok ⟨"region", "i\u0307zmir"⟩ := by
    decide +kernel
  have heast : Context.ofRaw " Region\t" " East " = .ok ⟨"region", "east"⟩ := by decide +kernel
  have hzone : Context.ofRaw (normalForm "Zone") "x" = .ok ⟨"zone", "x"⟩ := by decide +kernel
  have hcheck : regionSettings.check = .ok () := by
    apply haccepted
    · intro p hp
      have hp : p ∈ [(" Region\t", "\u0130zmir"), (" Region\t", " East ")] := hp
      rcases List.mem_pair.mp hp with rfl | rfl
      · exact ⟨_, hizmir⟩
      · exact ⟨_, heast⟩
    · intro key hkey
      have hkey : key = "Zone" := by simpa [regionSettings] using hkey
      rw [hkey]
      exact ⟨_, _, hzone⟩
    · intro source hsource
      have hsource : source ∈ ["hub", "secret"] := hsource
      rcases List.mem_pair.mp hsource with rfl | rfl
      · decide
      · decide
  obtain ⟨hvalidKey, hvalidValue⟩ := hvalid _ _ _ hizmir
  have hbadKey : check ⟨[], false, [("a=b", ["x"])]⟩ = .error (.invalidStaticKey "a=b") := by
    decide
  have hbadValue : check ⟨[], false, [("server", ["lobby", " "])]⟩ =
      .error (.invalidStaticValue "server" " ") := by
    decide
  obtain ⟨-, hkeyRefused⟩ := hkeys _ _ hbadKey
  obtain ⟨-, hvalueRefused⟩ := hvalues _ _ _ hbadValue
  have hkeyForm : normalForm "a=b" = "a=b" := by decide +kernel
  have hregion : Context.validKey "Region" = true := by decide
  have hregionForm : normalForm "Region" = "region" := by decide +kernel
  have hblankForm : normalForm " " = "" := by decide +kernel
  have hx := hkeyRefused "x"
  have hblank := hvalueRefused "Region"
  rw [hkeyForm] at hx
  rw [if_pos hregion, hregionForm, hblankForm] at hblank
  exact ⟨hizmir, hvalidKey, hvalidValue, hcheck, hbadKey, hx, hbadValue, hblank⟩

end ContextSettings

end PermissionContexts
