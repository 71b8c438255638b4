import PermissionContexts.CommandLine.Run
import PermissionContexts.Proofs.Arguments
import PermissionContexts.Proofs.ContextJson
import PermissionContexts.Proofs.HiddenNames
import PermissionContexts.Proofs.Registrations

/-! # The commands agree

    Two commands come to the rewrite table by different ways. `rewrite` looks the name of a
    world up, and prints what it finds. `resolve` puts a subject into the world and asks a
    system about it, which runs its calculators, merges what they offer and keeps it.

    * The system is **always built** (`build_eq`): no name is registered twice, and no
      manager was installed before.
    * What it answers is **what the subject has** (`contextsOf_spec`): it was never asked
      before, and its calculators look at nothing but the subject.
    * This is the set of some **raw pairs** (`Inquiry.contexts`), and the names of worlds
      among them are those that `rewrite` prints, and static ones.
    * A set is **printed** (`Printed`) as an object with the values of each key, and it is
      decoded again from what is read from the printed text.

    Main statement: `resolve_agrees_with_rewrite`.
-/

namespace PermissionContexts.CommandLine

/-! ### What is asked and shown -/

/-- What is asked about with `resolve`, as it stands in the arguments. -/
structure Inquiry where
  /-- The world that the subject is in, if it is in one. -/
  world : Option String
  /-- The dimension type of this world. -/
  dimension : String
  /-- Whether no server hosts the world. -/
  client : Bool
  /-- The game mode of the subject, if it has one. -/
  gameMode : Option String

/-- The text is a resource key. -/
def IsKey (text : String) : Prop :=
  ∃ k, ResourceKey.parse text = .ok k

/-- The raw pair with the name of the resource that `text` is the key of. -/
def named (key text : String) : List (String × String) :=
  match ResourceKey.parse text with
  | .ok k => [(key, k.contextName)]
  | .error _ => []

namespace Inquiry

/-- The command that asks this. -/
def command (q : Inquiry) : Command :=
  .resolve q.world q.dimension q.client q.gameMode

/-- All texts that count are resource keys. The dimension type counts where there is a
    world. -/
structure Legible (q : Inquiry) : Prop where
  /-- The world is one, if it is given, and so is its dimension type. -/
  world : ∀ text, q.world = some text → IsKey text ∧ IsKey q.dimension
  /-- The game mode is one, if it is given. -/
  gameMode : ∀ text, q.gameMode = some text → IsKey text

/-- The raw pairs of the world, where it is rewritten to `rewritten`. -/
def worldPairs (q : Inquiry) (rewritten : List String) : List (String × String) :=
  match q.world with
  | some _ => named dimensionTypeKey q.dimension ++
      if q.client then [] else rewritten.map fun value => (worldKey, value)
  | none => []

/-- The raw pair of the game mode. -/
def gameModePairs (q : Inquiry) : List (String × String) :=
  match q.gameMode with
  | some text => named gameModeKey text
  | none => []

/-- The set of these raw pairs and the static ones. -/
def contexts (q : Inquiry) (rewritten : List String) (statics : ContextSet) : ContextSet :=
  .ofPairs (q.worldPairs rewritten ++ q.gameModePairs ++ statics.pairs)

end Inquiry

/-- The command has succeeded and has printed a value and nothing else, and the value is what
    is read from the printed text. -/
structure Printed (o : Outcome) (j : Json) : Prop where
  /-- There is the text of the value and no error. -/
  outcome : o = ⟨0, j.pretty ++ "\n", none⟩
  /-- The text can be read. -/
  read : Json.read o.stdout = .ok j

/-! ### The system that is built -/

/-- The calculators that are registered, in order. -/
def sources (c : ContextSettings) : List (String × Source) :=
  [(Calculator.worldName, .world), (Calculator.gameModeName, .gameMode)]
    ++ if c.staticSet.isEmpty then [] else [(Calculator.staticName, .static c.staticSet)]

/-- The system with these calculators. -/
def engineOf (c : ContextSettings) : Engine :=
  { (.new Bus.defaultCapacity none : Engine) with registry := ⟨sources c⟩ }

theorem enrolled_of_not_mem {s : Engine} {name : String} (source : Source)
    (h : name ∉ s.registry.names) :
    enrolled s name source = .ok { s with registry := ⟨s.registry.entries ++ [(name, source)]⟩ } := by
  unfold enrolled System.register
  rw [Registry.register_of_not_mem source h]

/-- No calculator is refused. -/
theorem build_eq (c : ContextSettings) : build c = .ok (engineOf c) := by
  -- the three names are different
  have hgameMode : Calculator.gameModeName ∉ [Calculator.worldName] := by decide
  have hstatic : Calculator.staticName ∉ [Calculator.worldName, Calculator.gameModeName] := by
    decide
  unfold build engineOf sources
  rw [enrolled_of_not_mem _ List.not_mem_nil]
  simp only [bind, Except.bind]
  rw [enrolled_of_not_mem _ hgameMode]
  by_cases hempty : c.staticSet.isEmpty = true
  · simp only [hempty, if_true]
    rfl
  · simp only [hempty]
    rw [enrolled_of_not_mem _ hstatic]
    rfl

/-- Nor is the manager. -/
theorem install_new (s : Engine) : install .new s = .ok ⟨.empty, ⟨some s⟩⟩ :=
  rfl

/-! ### What the system answers -/

/-- The subject that `resolve` asks about. -/
def operator (location : Option WorldView) (gameMode : Option ResourceKey) :
    Subject Surroundings :=
  ⟨"operator", fun _ => location, fun _ => gameMode⟩

variable {c : ContextSettings} {location : Option WorldView} {gameMode : Option ResourceKey}

theorem exists_offers (c : ContextSettings) (source : Source) (subject : Subject Surroundings)
    (e : Surroundings) : ∃ out, ((guests c).calculator source).Offers subject e out := by
  cases source with
  | world => exact Calculator.world_offers.imp fun _ h => h.1
  | gameMode => exact Calculator.gameMode_offers.imp fun _ h => h.1
  | static contexts => exact Calculator.static_offers.imp fun _ h => h.1

/-- What the calculators of the command offer is what the subject has. -/
theorem exists_sources_iff {subject : Subject Surroundings} {e : Surroundings} {x : Context} :
    (∃ entry ∈ sources c, ∃ out,
        ((guests c).calculator entry.2).Offers subject e out ∧ x ∈ out.contexts) ↔
      subject.Has (fun _ => c.rewriteTable) c.staticSet e x := by
  have hworld : (∃ out, ((guests c).calculator .world).Offers subject e out ∧ x ∈ out.contexts) ↔
      ∃ w, subject.location e = some w ∧ w.Gives c.rewriteTable x :=
    Calculator.exists_offers_iff Calculator.world_offers
  have hgameMode :
      (∃ out, ((guests c).calculator .gameMode).Offers subject e out ∧ x ∈ out.contexts) ↔
        ∃ m, subject.gameMode e = some m ∧ Context.ofRaw gameModeKey m.contextName = .ok x :=
    Calculator.exists_offers_iff Calculator.gameMode_offers
  have hstatic : (∃ out, ((guests c).calculator (.static c.staticSet)).Offers subject e out ∧
      x ∈ out.contexts) ↔ x ∈ c.staticSet.contexts :=
    Calculator.exists_offers_iff Calculator.static_offers
  unfold sources Subject.Has
  rw [← hworld, ← hgameMode]
  -- without static contexts their calculator is not registered
  by_cases hempty : c.staticSet.isEmpty = true
  · have hnone : x ∉ c.staticSet.contexts := by
      rw [ContextSet.eq_empty_of_isEmpty hempty]
      exact ContextSet.not_mem_empty x
    simp [hempty, hnone]
  · simp [hempty, hstatic]

/-- No calculator of the command offers a key without a value. -/
theorem filled_of_offers {entry : String × Source} (hentry : entry ∈ sources c)
    {subject : Subject Surroundings} {e : Surroundings} {out : ContextSet}
    (h : ((guests c).calculator entry.2).Offers subject e out) : out.Filled := by
  obtain ⟨name, source⟩ := entry
  cases source with
  | world => exact Calculator.filled_of_world h
  | gameMode => exact Calculator.filled_of_gameMode h
  | static contexts =>
    -- only one set can be meant, and it was made of raw pairs
    obtain rfl : contexts = c.staticSet := by
      unfold sources at hentry
      by_cases hempty : c.staticSet.isEmpty = true
      · simp [hempty] at hentry
      · have hstatic : name = Calculator.staticName ∧ contexts = c.staticSet := by
          simpa [hempty] using hentry
        exact hstatic.2
    exact Calculator.filled_of_static (ContextSet.proper_ofPairs c.staticPairs).filled h

theorem query_operator (c : ContextSettings) (location : Option WorldView)
    (gameMode : Option ResourceKey) :
    ∃ contexts s', System.query (guests c) (System.answer (guests c) 0)
        (operator location gameMode) (engineOf c) = some (contexts, s') ∧
      contexts.Sorted ∧ contexts.Filled ∧
      ∀ x, x ∈ contexts.contexts ↔
        (operator location gameMode).Has (fun _ => c.rewriteTable) c.staticSet none x := by
  -- the subject was never asked for
  have hstate : (engineOf c).cache.state (operator location gameMode).id ≠ .fresh := by
    show Cache.empty.state "operator" ≠ .fresh
    decide
  have hoffers : ∀ entry ∈ sources c, ∃ out,
      ((guests c).calculator entry.2).Offers (operator location gameMode) none out :=
    fun entry _ => exists_offers c entry.2 _ _
  obtain ⟨contexts, s', hquery, hsorted, hfilled, hmem⟩ :=
    System.query_of_offers 0 hstate rfl hoffers
  refine ⟨contexts, s', hquery, hsorted, hfilled fun entry hentry out hout => ?_, fun x => ?_⟩
  · exact filled_of_offers hentry hout
  · rw [hmem, ← exists_sources_iff]
    rfl

theorem contextsOf_spec (c : ContextSettings) (location : Option WorldView)
    (gameMode : Option ResourceKey) :
    (contextsOf c (engineOf c) location gameMode).Sorted ∧
    (contextsOf c (engineOf c) location gameMode).Filled ∧
    ∀ x, x ∈ (contextsOf c (engineOf c) location gameMode).contexts ↔
      (operator location gameMode).Has (fun _ => c.rewriteTable) c.staticSet none x := by
  obtain ⟨contexts, s', hquery, hspec⟩ := query_operator c location gameMode
  have hcontexts : contextsOf c (engineOf c) location gameMode = contexts := by
    unfold operator at hquery
    simp only [contextsOf, System.answer, hquery]
  rw [hcontexts]
  exact hspec

/-! ### What is asked about -/

theorem parseKey_eq_ok {text : String} {k : ResourceKey} :
    parseKey text = .ok k ↔ ResourceKey.parse text = .ok k := by
  unfold parseKey
  cases ResourceKey.parse text <;> simp

theorem parseWorld?_eq_ok {world dimension : String} {client : Bool} :
    parseWorld? (some world) dimension client = .ok location ↔
      ∃ k d, ResourceKey.parse world = .ok k ∧ ResourceKey.parse dimension = .ok d ∧
        some ⟨k, d, if client then .client else .server⟩ = location := by
  unfold parseWorld?
  simp only [except_bind_eq_ok, parseKey_eq_ok, Except.ok.injEq, exists_and_left]

theorem parseKey?_eq_ok {text : String} : parseKey? (some text) = .ok gameMode ↔
    ∃ m, ResourceKey.parse text = .ok m ∧ some m = gameMode := by
  unfold parseKey?
  simp only [except_map_eq_ok, parseKey_eq_ok]

theorem named_of_parse {key text : String} {k : ResourceKey} (h : ResourceKey.parse text = .ok k) :
    named key text = [(key, k.contextName)] := by
  unfold named
  rw [h]

/-- Under another key there is no name of a world. -/
theorem not_exists_named {key text v : String} (hkey : normalForm key ≠ worldKey) :
    ¬ ∃ p ∈ named key text, Context.ofRaw p.1 p.2 = .ok ⟨worldKey, v⟩ := by
  unfold named
  cases ResourceKey.parse text with
  | error => simp
  | ok k => simp [Context.ofRaw_ne_of_key hkey]

namespace Inquiry

variable {q : Inquiry}

theorem exists_location_iff :
    (∃ location, parseWorld? q.world q.dimension q.client = .ok location) ↔
      ∀ text, q.world = some text → IsKey text ∧ IsKey q.dimension := by
  cases q.world with
  | none => simp [parseWorld?]
  | some text =>
    simp only [parseWorld?_eq_ok, Option.some.injEq, forall_eq']
    refine ⟨?_, ?_⟩
    · rintro ⟨location, k, d, hk, hd, -⟩
      exact ⟨⟨k, hk⟩, ⟨d, hd⟩⟩
    · rintro ⟨⟨k, hk⟩, ⟨d, hd⟩⟩
      exact ⟨_, k, d, hk, hd, rfl⟩

theorem exists_gameMode_iff : (∃ gameMode, parseKey? q.gameMode = .ok gameMode) ↔
    ∀ text, q.gameMode = some text → IsKey text := by
  cases q.gameMode with
  | none => simp [parseKey?]
  | some text =>
    simp only [parseKey?_eq_ok, Option.some.injEq, forall_eq']
    refine ⟨?_, ?_⟩
    · rintro ⟨gameMode, m, hm, -⟩
      exact ⟨m, hm⟩
    · rintro ⟨m, hm⟩
      exact ⟨_, m, hm, rfl⟩

/-- The arguments lead to the state of a subject if they are legible. -/
theorem exists_state_iff : (∃ location gameMode,
    parseWorld? q.world q.dimension q.client = .ok location ∧
      parseKey? q.gameMode = .ok gameMode) ↔ q.Legible := by
  refine ⟨?_, ?_⟩
  · rintro ⟨location, gameMode, hlocation, hgameMode⟩
    exact ⟨exists_location_iff.mp ⟨location, hlocation⟩,
      exists_gameMode_iff.mp ⟨gameMode, hgameMode⟩⟩
  · intro h
    obtain ⟨location, hlocation⟩ := exists_location_iff.mpr h.world
    obtain ⟨gameMode, hgameMode⟩ := exists_gameMode_iff.mpr h.gameMode
    exact ⟨location, gameMode, hlocation, hgameMode⟩

/-- The raw pairs of the world are what the world calculator offers. -/
theorem exists_worldPairs_iff {rewritten : List String} {x : Context}
    (hlocation : parseWorld? q.world q.dimension q.client = .ok location)
    (hrewritten : ∀ w, location = some w → rewritten = c.rewriteTable.rewrite w.key.contextName) :
    (∃ p ∈ q.worldPairs rewritten, Context.ofRaw p.1 p.2 = .ok x) ↔
      ∃ w, location = some w ∧ w.Gives c.rewriteTable x := by
  unfold worldPairs
  cases hworld : q.world with
  | none =>
    rw [hworld] at hlocation
    obtain rfl := Except.ok.inj hlocation
    simp
  | some text =>
    rw [hworld] at hlocation
    obtain ⟨k, d, -, hd, rfl⟩ := parseWorld?_eq_ok.mp hlocation
    obtain rfl := hrewritten _ rfl
    -- the pairs are those that the calculator offers, one by one
    simp only [named_of_parse hd, Option.some.injEq, exists_eq_left',
      ← Calculator.exists_worldOffers]
    cases q.client <;> rfl

theorem exists_gameModePairs_iff {x : Context} (hgameMode : parseKey? q.gameMode = .ok gameMode) :
    (∃ p ∈ q.gameModePairs, Context.ofRaw p.1 p.2 = .ok x) ↔
      ∃ m, gameMode = some m ∧ Context.ofRaw gameModeKey m.contextName = .ok x := by
  unfold gameModePairs
  cases hmode : q.gameMode with
  | none =>
    rw [hmode] at hgameMode
    obtain rfl := Except.ok.inj hgameMode
    simp
  | some text =>
    rw [hmode] at hgameMode
    obtain ⟨m, hm, rfl⟩ := parseKey?_eq_ok.mp hgameMode
    simp [named_of_parse hm]

/-- The static pairs are in normal form already. -/
theorem exists_staticPairs_iff {x : Context} :
    (∃ p ∈ c.staticSet.pairs, Context.ofRaw p.1 p.2 = .ok x) ↔ x ∈ c.staticSet.contexts := by
  have hproper : c.staticSet.Proper := ContextSet.proper_ofPairs c.staticPairs
  rw [← ContextSet.mem_ofPairs, hproper.ofPairs_pairs]

/-- The contexts of the subject are the set of the raw pairs and the static ones. -/
theorem contextsOf_eq {rewritten : List String}
    (hlocation : parseWorld? q.world q.dimension q.client = .ok location)
    (hgameMode : parseKey? q.gameMode = .ok gameMode)
    (hrewritten : ∀ w, location = some w → rewritten = c.rewriteTable.rewrite w.key.contextName) :
    contextsOf c (engineOf c) location gameMode = q.contexts rewritten c.staticSet := by
  obtain ⟨hsorted, hfilled, hmem⟩ := contextsOf_spec c location gameMode
  have hproper : (q.contexts rewritten c.staticSet).Proper := ContextSet.proper_ofPairs _
  refine hsorted.ext_of_filled hproper.sorted hfilled hproper.filled fun x => ?_
  unfold contexts
  rw [hmem, ContextSet.mem_ofPairs]
  simp only [List.mem_append, or_and_right, exists_or, exists_worldPairs_iff hlocation hrewritten,
    exists_gameModePairs_iff hgameMode, exists_staticPairs_iff, or_assoc]
  rfl

/-- The raw pairs of the world give its valid rewritten names, if a server hosts it. -/
theorem exists_worldPairs_worldKey_iff {rewritten : List String} {v : String}
    (hclient : q.client = false) :
    (∃ p ∈ q.worldPairs rewritten, Context.ofRaw p.1 p.2 = .ok ⟨worldKey, v⟩) ↔
      q.world ≠ none ∧ ∃ r ∈ rewritten, normalForm r = v ∧ Context.validValue v = true := by
  have hdimension : ¬ ∃ p ∈ named dimensionTypeKey q.dimension,
      Context.ofRaw p.1 p.2 = .ok ⟨worldKey, v⟩ := not_exists_named (by decide +kernel)
  unfold worldPairs
  cases q.world with
  | none => simp
  | some text =>
    simp only [List.mem_append, or_and_right, exists_or, hdimension, false_or, hclient]
    simp [ofRaw_worldKey]

/-- The names of worlds in that set are the valid ones among the rewritten names, and those
    that are static. -/
theorem mem_valuesAt_worldKey {rewritten : List String} {v : String}
    (hclient : q.client = false) :
    v ∈ (q.contexts rewritten c.staticSet).valuesAt worldKey ↔
      (q.world ≠ none ∧ ∃ r ∈ rewritten, normalForm r = v ∧ Context.validValue v = true) ∨
        v ∈ c.staticSet.valuesAt worldKey := by
  have hgameMode : ¬ ∃ p ∈ q.gameModePairs, Context.ofRaw p.1 p.2 = .ok ⟨worldKey, v⟩ := by
    unfold gameModePairs
    cases q.gameMode with
    | none => simp
    | some text => exact not_exists_named (by decide +kernel)
  have hstatic : c.staticSet.Sorted := ContextSet.sorted_ofPairs _
  unfold contexts
  rw [(ContextSet.sorted_ofPairs _).mem_valuesAt, hstatic.mem_valuesAt, ContextSet.mem_ofPairs]
  simp only [List.mem_append, or_and_right, exists_or, exists_staticPairs_iff, hgameMode, or_false,
    exists_worldPairs_worldKey_iff hclient]

end Inquiry

/-! ### Runs of the commands -/

variable {help : String} {file : String → SettingsFile} {home : Option String}
  {overrides : Overrides} {arguments : List String} {path : Option String} {logs : Bool}
  {s : Settings}

/-- With settings that are loaded, a command shows what its output is with the system that is
    built. -/
theorem run_eq {command : Command} (hparse : parse arguments = .ok ⟨path, logs, command⟩)
    (hload : Settings.load (file (path.getD (Settings.path home))) overrides = .ok s) :
    run help file home overrides arguments =
      match output s (engineOf s.contexts) command with
      | .ok j => ⟨0, j.pretty ++ "\n", none⟩
      | .error f => ⟨1, "", some ("Error: " ++ f.message)⟩ := by
  have hexecute : execute file home overrides ⟨path, logs, command⟩ =
      output s (engineOf s.contexts) command := by
    simp only [execute, hload, build_eq, install_new, bind, Except.bind]
  cases houtput : output s (engineOf s.contexts) command with
  | ok j => simp only [run, hparse, hexecute, houtput]
  | error f => simp only [run, hparse, hexecute, houtput]

theorem printed_of_output {command : Command} {j : Json}
    (hparse : parse arguments = .ok ⟨path, logs, command⟩)
    (hload : Settings.load (file (path.getD (Settings.path home))) overrides = .ok s)
    (hj : output s (engineOf s.contexts) command = .ok j) (hread : Json.Readable Json.maxDepth j) :
    Printed (run help file home overrides arguments) j := by
  rw [run_eq hparse hload, hj]
  exact ⟨rfl, Json.read_pretty_line hread⟩

theorem exitCode_eq_zero_iff {command : Command}
    (hparse : parse arguments = .ok ⟨path, logs, command⟩)
    (hload : Settings.load (file (path.getD (Settings.path home))) overrides = .ok s) :
    (run help file home overrides arguments).exitCode = 0 ↔
      ∃ j, output s (engineOf s.contexts) command = .ok j := by
  rw [run_eq hparse hload]
  cases output s (engineOf s.contexts) command <;> simp

/-- Whatever arguments ask, with the settings at `path`, what `world` is rewritten to,
    the texts `rewritten` are printed beside its name, and there are such arguments. -/
def PrintsRewritten (help : String) (file : String → SettingsFile) (home : Option String)
    (overrides : Overrides) (path : Option String) (world : String) (rewritten : List String) :
    Prop :=
  (∃ arguments, parse arguments = .ok ⟨path, false, .rewrite world⟩) ∧
    ∃ k, ResourceKey.parse world = .ok k ∧
      ∀ arguments logs, parse arguments = .ok ⟨path, logs, .rewrite world⟩ →
        Printed (run help file home overrides arguments)
          (.obj [("rewritten", .arr (rewritten.map .str)), ("world", .str k.contextName)])

theorem printsRewritten {world : String} {k : ResourceKey} (hpath : path ≠ some "")
    (hload : Settings.load (file (path.getD (Settings.path home))) overrides = .ok s)
    (hk : ResourceKey.parse world = .ok k) :
    PrintsRewritten help file home overrides path world
      (s.contexts.rewriteTable.rewrite k.contextName) := by
  refine ⟨exists_parse_rewrite hpath world, k, hk, fun arguments logs hparse => ?_⟩
  refine printed_of_output hparse hload ?_ ?_
  · simp only [output, parseKey_eq_ok.mpr hk, bind, Except.bind]
    rfl
  · have hnames : ["rewritten", "world"].Pairwise (· < ·) := by decide
    exact Json.readable_obj hnames ⟨Json.readable_strs 125 _, trivial, trivial⟩

theorem output_resolve_eq_ok {q : Inquiry} {engine : Engine} {j : Json} :
    output s engine q.command = .ok j ↔
      ∃ location gameMode, parseWorld? q.world q.dimension q.client = .ok location ∧
        parseKey? q.gameMode = .ok gameMode ∧
          .obj [("contexts", (contextsOf s.contexts engine location gameMode).toJson)] = j := by
  unfold Inquiry.command output
  simp only [except_bind_eq_ok, Except.ok.injEq, exists_and_left]

/-- The printed object of a set can be read. -/
theorem readable_contexts {contexts : ContextSet} (h : contexts.Sorted) :
    Json.Readable Json.maxDepth (.obj [("contexts", contexts.toJson)]) :=
  ⟨Nat.succ_pos _, List.pairwise_singleton .., h.readable_toJson 124, trivial⟩

/-- Some list is printed for the world, if there is one, and this is what the world
    calculator finds in the table. -/
theorem exists_printsRewritten {q : Inquiry} (hpath : path ≠ some "")
    (hload : Settings.load (file (path.getD (Settings.path home))) overrides = .ok s)
    (hlocation : parseWorld? q.world q.dimension q.client = .ok location) :
    ∃ rewritten,
      (∀ world, q.world = some world →
        PrintsRewritten help file home overrides path world rewritten) ∧
      ∀ w, location = some w → rewritten = s.contexts.rewriteTable.rewrite w.key.contextName := by
  cases hworld : q.world with
  | none =>
    rw [hworld] at hlocation
    obtain rfl := Except.ok.inj hlocation
    exact ⟨[], by simp, by simp⟩
  | some world =>
    rw [hworld] at hlocation
    obtain ⟨k, d, hk, -, rfl⟩ := parseWorld?_eq_ok.mp hlocation
    refine ⟨s.contexts.rewriteTable.rewrite k.contextName, ?_, ?_⟩
    · rintro world' hworld'
      obtain rfl := Option.some.inj hworld'
      exact printsRewritten hpath hload hk
    · rintro w hw
      obtain rfl := Option.some.inj hw
      rfl

/-- **The commands agree.** Let `resolve` be called with settings that are loaded.

    1. It succeeds exactly if the world, its dimension type and the game mode are resource
       keys, as far as they are given.
    2. It prints the values of every key of the set of these raw pairs, from which the set is
       decoded: the dimension type, the names that `rewrite` prints for the world under the
       same settings, unless no server hosts the world, the game mode, and the static
       contexts.
    3. So the names of worlds that it prints, unless no server hosts the world, are the valid
       normal forms of what `rewrite` prints, and the static ones. -/
theorem resolve_agrees_with_rewrite {q : Inquiry}
    (hparse : parse arguments = .ok ⟨path, logs, q.command⟩)
    (hload : Settings.load (file (path.getD (Settings.path home))) overrides = .ok s) :
    ((run help file home overrides arguments).exitCode = 0 ↔ q.Legible) ∧
    (q.Legible → ∃ rewritten,
      (∀ world, q.world = some world →
        PrintsRewritten help file home overrides path world rewritten) ∧
      (∃ j, Printed (run help file home overrides arguments) (.obj [("contexts", j)]) ∧
        j = .obj ((q.contexts rewritten s.contexts.staticSet).groups.map fun g =>
          (g.1, .arr (g.2.map .str))) ∧
        ContextSet.ofJson j = .ok (q.contexts rewritten s.contexts.staticSet)) ∧
      (q.client = false → ∀ v, v ∈ (q.contexts rewritten s.contexts.staticSet).valuesAt worldKey ↔
        (q.world ≠ none ∧ ∃ r ∈ rewritten, normalForm r = v ∧ Context.validValue v = true) ∨
          v ∈ s.contexts.staticSet.valuesAt worldKey)) := by
  refine ⟨?_, ?_⟩
  · rw [exitCode_eq_zero_iff hparse hload, ← Inquiry.exists_state_iff]
    simp only [output_resolve_eq_ok]
    refine ⟨?_, ?_⟩
    · rintro ⟨j, location, gameMode, hlocation, hgameMode, -⟩
      exact ⟨location, gameMode, hlocation, hgameMode⟩
    · rintro ⟨location, gameMode, hlocation, hgameMode⟩
      exact ⟨_, location, gameMode, hlocation, hgameMode, rfl⟩
  · intro h
    obtain ⟨location, gameMode, hlocation, hgameMode⟩ := Inquiry.exists_state_iff.mpr h
    -- both commands find the same list in the table
    obtain ⟨rewritten, hprints, hrewritten⟩ :=
      exists_printsRewritten (settings_ne_empty hparse) hload hlocation
    have hcontexts := Inquiry.contextsOf_eq hlocation hgameMode hrewritten
    have hproper : (q.contexts rewritten s.contexts.staticSet).Proper :=
      ContextSet.proper_ofPairs _
    have houtput : output s (engineOf s.contexts) q.command =
        .ok (.obj [("contexts", (q.contexts rewritten s.contexts.staticSet).toJson)]) :=
      output_resolve_eq_ok.mpr ⟨location, gameMode, hlocation, hgameMode, by rw [hcontexts]⟩
    have hprinted : Printed (run help file home overrides arguments) _ :=
      printed_of_output hparse hload houtput (readable_contexts hproper.sorted)
    exact ⟨rewritten, hprints, ⟨_, hprinted, rfl, hproper.ofJson_toJson⟩,
      fun hclient v => Inquiry.mem_valuesAt_worldKey hclient⟩

/-- Settings that rewrite the lobby, also to a name that is not valid, and that have a static
    context with the key of worlds. -/
def lobbyDocument : Json :=
  .obj [("contexts", .obj [("staticContexts", .obj [("world", Json.strs ["hub"])]),
    ("worldRewrites", .obj [("lobby", Json.strs [" Hall", "a=b"])])])]

/-- What they are loaded to. -/
def lobbySettings : Settings :=
  ⟨⟨[("lobby", [" Hall", "a=b"])], false, [("world", ["hub"])]⟩, .default⟩

theorem load_lobbyDocument :
    Settings.load (.text lobbyDocument.compact) ⟨none, none⟩ = .ok lobbySettings := by
  have hnames : ["staticContexts", "worldRewrites"].Pairwise (· < ·) := by decide
  have hone : ∀ k ss, Json.Readable 125 (.obj [(k, Json.strs ss)]) := fun k ss =>
    Json.readable_obj (List.pairwise_singleton ..) ⟨Json.readable_strs 123 ss, trivial⟩
  have hreadable : Json.Readable Json.maxDepth lobbyDocument :=
    Json.readable_obj (List.pairwise_singleton ..)
      ⟨Json.readable_obj hnames ⟨hone _ _, hone _ _, trivial⟩, trivial⟩
  simp only [Settings.load, Settings.document, Json.read_compact hreadable]
  rfl

/-- Somebody in creative mode in the lobby. -/
def lobbyInquiry : Inquiry :=
  ⟨some "Lobby", "overworld", false, some "creative"⟩

/-- In the lobby the contexts are those of the hall, and the static one, which has the same
    key. -/
theorem resolve_agrees_with_rewrite_lobby :
    let file := fun _ => SettingsFile.text lobbyDocument.compact
    let arguments := ["resolve", "--world", "Lobby", "--gamemode", "creative"]
    ∃ rewritten, PrintsRewritten "" file none ⟨none, none⟩ none "Lobby" rewritten ∧
      (∃ j, Printed (run "" file none ⟨none, none⟩ arguments) (.obj [("contexts", j)]) ∧
        ContextSet.ofJson j =
          .ok (lobbyInquiry.contexts rewritten lobbySettings.contexts.staticSet)) ∧
      "hub" ∈ (lobbyInquiry.contexts rewritten lobbySettings.contexts.staticSet).valuesAt
        worldKey := by
  intro file arguments
  have hparse : parse arguments = .ok ⟨none, false, lobbyInquiry.command⟩ := by
    decide +kernel
  have hload : Settings.load (file (none.getD (Settings.path none))) ⟨none, none⟩ =
      .ok lobbySettings := load_lobbyDocument
  have hlegible : lobbyInquiry.Legible := by
    refine ⟨?_, ?_⟩
    · intro text htext
      obtain rfl := Option.some.inj htext
      exact ⟨⟨.inDefaultSpace "Lobby", by decide +kernel⟩,
        ⟨.inDefaultSpace "overworld", by decide +kernel⟩⟩
    · intro text htext
      obtain rfl := Option.some.inj htext
      exact ⟨.inDefaultSpace "creative", by decide +kernel⟩
  obtain ⟨rewritten, hprints, ⟨j, hprinted, -, hdecoded⟩, hvalues⟩ :=
    (resolve_agrees_with_rewrite hparse hload).2 hlegible
  refine ⟨rewritten, hprints "Lobby" rfl, ⟨j, hprinted, hdecoded⟩,
    (hvalues rfl "hub").mpr (Or.inr ?_)⟩
  decide +kernel

end PermissionContexts.CommandLine
