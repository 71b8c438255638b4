import Mathlib.Tactic.SplitIfs
import PermissionContexts.CommandLine.Arguments
import PermissionContexts.Proofs.Decoding

/-! # What arguments can say

    What is given at a level **fits** it: every option is one that the level has, and where a
    path is to follow, it is not empty. One option more keeps that up (`Given.Fits.take`), and
    so do all the arguments of the level (`Given.Fits.scan`).

    Main statement: `exists_parse_rewrite`. Wherever the settings are that some arguments
    name, there are arguments that ask what a world is rewritten to under these settings,
    however the world is called.
-/

namespace PermissionContexts.CommandLine

namespace Given

/-- What was given fits the level: each option is one of those of the level, and a path is not
    empty. -/
def Fits (level : Level) (g : Given) : Prop :=
  ∀ o ∈ g.options, ∃ kind, level.options.lookup o.1 = some kind ∧ (kind = .path → o.2 ≠ "")

variable {level : Level} {g g' : Given} {kind : OptionKind} {name value argument : String}

theorem fits_nothing (level : Level) : nothing.Fits level := by
  simp [Fits, nothing]

theorem Fits.take (h : g.Fits level) (hkind : level.options.lookup name = some kind)
    (htake : g.take kind name value = .ok g') : g'.Fits level := by
  unfold Given.take at htake
  split_ifs at htake with hrepeated hempty
  obtain rfl := Except.ok.inj htake
  refine List.forall_mem_cons.mpr ⟨⟨kind, hkind, ?_⟩, h⟩
  rintro hpath rfl
  exact hempty ⟨hpath, rfl⟩

theorem Fits.place (h : g.Fits level) (hplace : g.place level argument = .ok g') :
    g'.Fits level := by
  unfold Given.place at hplace
  split_ifs at hplace
  obtain rfl := Except.ok.inj hplace
  exact h

theorem Fits.foldlM_place {arguments : List String} (h : g.Fits level)
    (hplace : arguments.foldlM (Given.place · level ·) g = .ok g') : g'.Fits level := by
  induction arguments generalizing g with
  | nil =>
    obtain rfl := Except.ok.inj hplace
    exact h
  | cons argument arguments ih =>
    rw [List.foldlM_cons] at hplace
    obtain ⟨g₁, hfirst, hrest⟩ := except_bind_eq_ok.mp hplace
    exact ih (h.place hfirst) hrest

/-- What all the arguments of a level give fits the level. -/
theorem Fits.scan {arguments : List String} {command : Option (String × List String)}
    (h : g.Fits level) (hscan : scan level g arguments = .ok (g', command)) : g'.Fits level := by
  fun_induction CommandLine.scan level g arguments
  case case1 | case12 =>
    -- the level ends here
    obtain ⟨rfl, -⟩ := Prod.mk.inj (Except.ok.inj hscan)
    exact h
  case case2 =>
    -- nothing is an option any more
    obtain ⟨g₁, hplace, hg₁⟩ := except_map_eq_ok.mp hscan
    obtain ⟨rfl, -⟩ := Prod.mk.inj hg₁
    exact h.foldlM_place hplace
  case case3 | case4 | case5 | case8 | case9 | case11 => cases hscan
  case case6 hkind _ ih | case7 hkind _ _ _ ih | case10 hkind _ _ _ _ ih =>
    obtain ⟨g₁, htake, hrest⟩ := except_bind_eq_ok.mp hscan
    exact ih g₁ (h.take hkind htake) hrest
  case case13 ih =>
    obtain ⟨g₁, hplace, hrest⟩ := except_bind_eq_ok.mp hscan
    exact ih g₁ (h.place hplace) hrest

/-- A path is not empty. -/
theorem Fits.value?_ne_empty (h : g.Fits level) (hname : level.options.lookup name = some .path) :
    g.value? name ≠ some "" := by
  unfold value?
  intro hvalue
  obtain ⟨o, hfind, hempty⟩ := Option.map_eq_some_iff.mp hvalue
  obtain rfl : o.1 = name := by simpa using List.find?_some hfind
  obtain ⟨kind, hkind, hpath⟩ := h o (List.mem_of_find?_eq_some hfind)
  obtain rfl : kind = .path := Option.some.inj (hkind.symm.trans hname)
  exact hpath rfl hempty

end Given

/-! ### Where the settings are -/

theorem lookup_settings {name : String} {level : Level} (h : levelOf name = some level) :
    level.options.lookup "settings" = some .path := by
  unfold levelOf at h
  split at h
  case h_4 => cases h
  all_goals
    obtain rfl := Option.some.inj h
    rfl

/-- The path of the settings is not empty, if arguments name one. -/
theorem settings_ne_empty {arguments : List String} {i : Invocation}
    (h : parse arguments = .ok i) : i.settings ≠ some "" := by
  unfold parse at h
  obtain ⟨⟨outer, command⟩, houter, h⟩ := except_bind_eq_ok.mp h
  cases command with
  | none => cases h
  | some command =>
    cases hlevel : levelOf command.1 with
    | none => simp [hlevel] at h
    | some level =>
      simp only [hlevel] at h
      obtain ⟨⟨inner, _⟩, hinner, h⟩ := except_bind_eq_ok.mp h
      obtain ⟨_, -, h⟩ := except_bind_eq_ok.mp h
      obtain rfl := Except.ok.inj h
      -- the path is given to the subcommand or else to the command
      have hpath : inner.value? "settings" ≠ some "" :=
        ((Given.fits_nothing level).scan hinner).value?_ne_empty (lookup_settings hlevel)
      have hpath' : outer.value? "settings" ≠ some "" :=
        ((Given.fits_nothing commandLevel).scan houter).value?_ne_empty rfl
      show (inner.value? "settings").orElse (fun _ => outer.value? "settings") ≠ some ""
      cases hvalue : inner.value? "settings" with
      | none => exact hpath'
      | some path =>
        rw [hvalue] at hpath
        exact hpath

/-! ### What can be asked -/

theorem scan_commandLevel_rewrite (g : Given) (rest : List String) :
    scan commandLevel g ("rewrite" :: rest) = .ok (g, some ("rewrite", rest)) := by
  have hcommands : commandLevel.hasCommands = true := rfl
  rw [scan, if_neg (by decide), if_neg (by decide +kernel), if_neg (by decide +kernel),
    if_pos hcommands]

theorem scan_commandLevel_settings {path : String} (h : path ≠ "") (rest : List String) :
    scan commandLevel .nothing (("--settings=" ++ path) :: rest) =
      scan commandLevel ⟨[("settings", path)], []⟩ rest := by
  have hdashes : ¬ "--settings=" ++ path = "--" := by
    intro heq
    have hlength := congrArg String.length heq
    rw [String.length_append] at hlength
    have hshort : 11 + path.length = 2 := hlength
    omega
  have hoption : splitOption ("--settings=" ++ path) = ("settings", some path) := by
    simp [splitOption]
  have hlookup : commandLevel.options.lookup "settings" = some .path := rfl
  have htake : Given.nothing.take .path "settings" path = .ok ⟨[("settings", path)], []⟩ := by
    simp [Given.take, Given.has, Given.nothing, h]
  rw [scan, if_neg hdashes, if_pos (by simp)]
  simp only [hoption, hlookup, htake, bind, Except.bind]
  rfl

/-- After `--` anything is the name of a world. -/
theorem parse_rewrite {arguments : List String} {g : Given} {world : String}
    (h : scan commandLevel .nothing arguments = .ok (g, some ("rewrite", ["--", world]))) :
    parse arguments = .ok ⟨g.value? "settings", g.has "json-logs", .rewrite world⟩ := by
  have hlevel : levelOf "rewrite" = some ⟨globalOptions, 1, false⟩ := rfl
  have hinner : scan ⟨globalOptions, 1, false⟩ .nothing ["--", world] =
      .ok (⟨[], [world]⟩, none) := by
    rw [scan, if_pos rfl]
    rfl
  simp only [parse, h, bind, Except.bind, hlevel, hinner]
  rfl

/-- Any world can be asked about, under settings at any path. -/
theorem exists_parse_rewrite {path : Option String} (h : path ≠ some "") (world : String) :
    ∃ arguments, parse arguments = .ok ⟨path, false, .rewrite world⟩ := by
  cases path with
  | none => exact ⟨["rewrite", "--", world], parse_rewrite (scan_commandLevel_rewrite _ _)⟩
  | some path =>
    have hpath : path ≠ "" := fun heq => h (congrArg some heq)
    refine ⟨["--settings=" ++ path, "rewrite", "--", world],
      parse_rewrite (g := ⟨[("settings", path)], []⟩) ?_⟩
    rw [scan_commandLevel_settings hpath, scan_commandLevel_rewrite]

end PermissionContexts.CommandLine
