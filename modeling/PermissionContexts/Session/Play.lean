import PermissionContexts.Engine.Bridge
import PermissionContexts.Session.Stage

/-! # Playing a session

    A step becomes a routine, and so does a script, step by step. What a step may
    do depends on where it stands: outside, in a calculator that computes a subject,
    or in a listener that handles an event. A step where it does not belong fails
    with the input `do`.
-/

namespace PermissionContexts.Session

/-- What calculators and listeners of a session do. -/
abbrev Conduct := Routine Part Station Stage

/-- Where a step stands. -/
inductive Standpoint where
  /-- In the session itself. -/
  | outside
  /-- In a calculator that computes `subject`. -/
  | calculating (subject : Subject Stage)
  /-- In a listener that handles `event`. -/
  | handling (event : HostEvent)

/-- The system that a session plays on. -/
abbrev Play := System Part Station Stage

/-- Adds a calculator and goes on with the answer. -/
def enrol (name : String) (part : Part) (next : Result → Conduct) : Conduct :=
  .ask (.register name part) fun
    | .ok () => next (.truth true)
    | .error e => next (.failure (.engine e))

/-- Makes a budget for a script and goes on with its index. -/
def withBudget (times : Option Nat) (next : Nat → Conduct) : Conduct :=
  .ask .look fun stage =>
    .ask (.alter fun s => { s with budgets := s.budgets ++ [times] }) fun _ =>
      next stage.budgets.length

/-- The failure of a step that does not belong where it stands. -/
def misplaced : Result :=
  .failure (.badInput "do")

/-- Uses an input, or fails when it is wrong. -/
def withInput {α : Type} (input : Input α) (next : Result → Conduct) (use : α → Conduct) :
    Conduct :=
  match input with
  | .ok a => use a
  | .error f => next (.failure f)

/-- Changes the resident with the identity `id` by an input. -/
def withResident {α : Type} (id : SubjectId) (input : Input α) (next : Result → Conduct)
    (change : Nat → α → Stage → Stage) : Conduct :=
  .ask .look fun stage =>
    match stage.resident? id with
    | some i =>
      withInput input next fun a => .ask (.alter (change i a)) fun _ => next .nothing
    | none => next (.failure (.badInput "id"))

/-- What a step does, and then `next` with its answer. -/
def Step.conduct (place : Standpoint) (step : Step) (next : Result → Conduct) : Conduct :=
  match step with
  | .faulty f => next (.failure f)
  | .declare id body => .ask (.alter (Stage.declare id body)) fun _ => next .nothing
  | .setLocation id location => withResident id location next Stage.setLocation
  | .setGameMode id gameMode => withResident id gameMode next Stage.setGameMode
  | .registerWorld => enrol Calculator.worldName .world next
  | .registerGameMode => enrol Calculator.gameModeName .gameMode next
  | .registerStatic contexts => enrol Calculator.staticName (.static contexts) next
  | .registerScript name times guess steps =>
    withBudget times fun budget => enrol name (.script budget name guess steps) next
  | .unregister name => .ask (.unregister name) fun b => next (.truth b)
  | .names => .ask .inspect fun g => next (.names g.calculators)
  | .query id =>
    .ask .look fun stage =>
      match stage.subject? id with
      | some subject => .ask (.query subject) fun s => next (.contexts s)
      | none => next (.failure (.badInput "id"))
  | .signal id => .ask (.signal id) fun b => next (.truth b)
  | .remove id => .ask (.remove id) fun b => next (.truth b)
  | .state id => .ask .inspect fun g => next (.state (g.state id))
  | .invalidateAll => .ask .invalidateAll fun _ => next .nothing
  | .estimate => .ask .estimate fun s => next (.contexts s)
  | .managerText => .ask .inspect fun g => next (.text g.manager)
  | .statsText => .ask .inspect fun g => next (.text g.stats.quotedText)
  | .setRewrites table =>
    .ask (.alter fun s => { s with rewrites := table }) fun _ => next .nothing
  | .catalog => .ask .look fun stage => next (.catalog stage.catalog stage.worlds)
  | .startServer worlds =>
    .ask .look fun stage =>
      .ask (.alter (Stage.startServer worlds)) fun _ => next (.count stage.servers.length)
  | .addWorld server world =>
    .ask .look fun stage =>
      if server < stage.servers.length then
        .ask (.alter (Stage.addWorld server world)) fun _ => next .nothing
      else next (.failure (.badInput "i"))
  | .stopServer => .ask (.alter fun s => { s with running := none }) fun _ => next .nothing
  | .install => .ask (.listen .last Bridge.name .bridge) fun _ => next .nothing
  | .listen order name times steps =>
    withBudget times fun budget =>
      .ask (.listen order name (.script budget name steps)) fun _ => next .nothing
  | .unlisten name => .ask (.unlisten name) fun n => next (.count n)
  | .listeners => .ask .inspect fun g => next (.names g.listeners)
  | .publish event => .ask (.publish event) fun _ => next .nothing
  | .onEvent event => Bridge.onEvent event (next (.action (.ofEvent event)))
  | .subscribe => .ask .subscribe fun i => next (.count i)
  | .receive i =>
    .ask (.receive i) fun
      | some d => next (.delivery d)
      | none => next (.failure (.badInput "i"))
  | .giveUp i =>
    .ask (.giveUp i) fun
      | some _ => next .nothing
      | none => next (.failure (.badInput "i"))
  | .busText => .ask .inspect fun g => next (.text g.bus)
  | .renewBus capacity =>
    if Mailbox.isCapacity capacity then .ask (.renewBus capacity) fun _ => next .nothing
    else .panic
  | .runReceiver i =>
    .ask (.giveUp i) fun
      | some s =>
        .ask (.renewBus Bus.defaultCapacity) fun _ => Bridge.work (next .nothing) s.mailbox.drain
      | none => next (.failure (.badInput "i"))
  | .runEvents capacity events =>
    if Mailbox.isCapacity capacity then
      withInput events next fun events =>
        Bridge.work (next .nothing)
          (events.foldl Mailbox.put (Mailbox.new (Mailbox.roomFor capacity))).drain
    else .panic
  | .accept key value =>
    match place with
    | .calculating _ => .offer key value (next .nothing)
    | _ => next misplaced
  | .acceptAll contexts =>
    match place with
    | .calculating _ => withInput contexts next fun contexts => .offerAll contexts (next .nothing)
    | _ => next misplaced
  | .see =>
    match place with
    | .outside => next misplaced
    | .calculating subject =>
      .ask .look fun stage =>
        next (.sight subject.id (subject.location stage) (subject.gameMode stage))
    | .handling event => next (.event event)
  | .seeState =>
    match place with
    | .handling event =>
      match event.subjectId? with
      | some id => .ask .inspect fun g => next (.state (g.state id))
      | none => next .nothing
    | _ => next misplaced
  | .panic =>
    match place with
    | .outside => next misplaced
    | _ => .panic

/-- Runs the steps of a script, each with a line in the log. -/
def conductSteps (script : String) (place : Standpoint) : List (String × Step) → Conduct
  | [] => .done
  | s :: rest =>
    s.2.conduct place fun result =>
      .ask (.alter fun stage => { stage with log := ⟨script, s.1, result⟩ :: stage.log }) fun _ =>
        conductSteps script place rest

/-- Runs a script if its budget allows it. -/
def conductScript (budget : Nat) (script : String) (place : Standpoint)
    (steps : List (String × Step)) : Conduct :=
  .ask .look fun stage =>
    if stage.isSpent budget then .done
    else .ask (.alter (Stage.spend budget)) fun _ => conductSteps script place steps

/-- What the calculators of a session are. -/
def Part.calculator : Part → Calculator Part Station Stage
  | .world => Calculator.world Stage.host Stage.rewrites
  | .gameMode => Calculator.gameMode Stage.host
  | .static contexts => Calculator.static contexts
  | .script budget name estimate steps =>
    ⟨fun subject => conductScript budget name (.calculating subject) steps, fun _ => estimate⟩

/-- What the listeners of a session do about an event. -/
def Station.handle : Station → HostEvent → Conduct
  | .bridge, e => Bridge.onEvent e .done
  | .script budget name steps, e => conductScript budget name (.handling e) steps

/-- The calculators and listeners of a session. -/
def guests : Guests Part Station Stage :=
  ⟨Part.calculator, Station.handle⟩

/-- How deep requests may be nested in a session. -/
def maxDepth : Nat := 4096

/-- The system at the beginning of a session, if there can be a bus of the given
    capacity. -/
def opening (catalog : Catalog) (rewrites : RewriteTable) (capacity : Nat) : Option Play :=
  if Mailbox.isCapacity capacity then some (System.new capacity (Stage.new catalog rewrites))
  else none

/-- What is reported of a step. -/
structure Report where
  /-- The answer of the step. -/
  result : Result
  /-- The counts of the cache after it. -/
  stats : Stats
  /-- The states of all declared subjects after it. -/
  states : List (SubjectId × CacheState)
  /-- What scripts logged during the step, in order. -/
  log : List LogEntry
deriving Repr

/-- Plays one step; nothing comes of it when it fails outside all scripts, or when
    requests are nested too deep. -/
def play (step : Step) (s : Play) : Option (Report × Play) :=
  let s := { s with env := { s.env with log := [], result := none } }
  let conduct := step.conduct .outside fun result =>
    .ask (.alter fun stage => { stage with result := some result }) fun _ => .done
  match s.run guests maxDepth conduct with
  | some (.finished, s, _) =>
    let states := s.env.subjects.keys.map fun id => (id, s.cache.state id)
    some (⟨s.env.result.getD .nothing, s.cache.stats, states, s.env.log.reverse⟩, s)
  | _ => none

end PermissionContexts.Session
