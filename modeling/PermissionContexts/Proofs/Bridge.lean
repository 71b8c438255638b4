import PermissionContexts.Engine.Bridge
import PermissionContexts.Proofs.System

/-! # What the bridge does

    The bridge signals on a completed move and on a change of game mode, removes on a
    disconnection (`ofEvent_eq_signal`, `ofEvent_eq_remove`), and makes everything stale
    when events were lost. All of these are requests that are answered at once, so what
    becomes of a system is a function of it (`System.told`, `System.delivered`).
-/

namespace PermissionContexts

/-! ### Which events mean what -/

/-- The event is a completed move of a subject or a change of its game mode. -/
def HostEvent.Spoils (id : SubjectId) (e : HostEvent) : Prop :=
  (∃ source target, e = .worldChanged (.subject id) source target .post) ∨
    ∃ source target, e = .gameModeChanged (.subject id) source target

theorem ofEvent_eq_signal {e : HostEvent} {id : SubjectId} :
    BridgeAction.ofEvent e = .signal id ↔ e.Spoils id := by
  unfold BridgeAction.ofEvent HostEvent.Spoils HostEvent.subjectId?
  cases e with
  | worldChanged actor source target phase =>
    cases actor <;> cases phase <;> simp [HostEvent.actor, Actor.subjectId?]
  | _ actor => cases actor <;> simp [HostEvent.actor, Actor.subjectId?]

theorem ofEvent_eq_remove {e : HostEvent} {id : SubjectId} :
    BridgeAction.ofEvent e = .remove id ↔ e = .subjectDisconnected (.subject id) := by
  unfold BridgeAction.ofEvent HostEvent.subjectId?
  cases e with
  | worldChanged actor source target phase =>
    cases actor <;> cases phase <;> simp [HostEvent.actor, Actor.subjectId?]
  | _ actor => cases actor <;> simp [HostEvent.actor, Actor.subjectId?]

namespace System

variable {ι κ ε : Type} {g : Guests ι κ ε} {depth : Nat}

/-! ### What becomes of a system -/

/-- The system after the bridge has learned of an event. -/
def told (s : System ι κ ε) (e : HostEvent) : System ι κ ε :=
  match BridgeAction.ofEvent e with
  | .signal id => (s.signal id).2
  | .remove id => (s.remove id).2
  | .ignore => s

/-- The system after the bridge has read its mailbox. -/
def delivered (s : System ι κ ε) : Delivery HostEvent → System ι κ ε
  | .item e => s.told e
  | .lagged _ => s.invalidateAll
  | .empty => s
  | .closed => s

theorem run_onEvent (e : HostEvent) (next : Routine ι κ ε) (s : System ι κ ε)
    (out : ContextSet) : (Bridge.onEvent e next).run (answer g depth) s out =
      next.run (answer g depth) (s.told e) out := by
  unfold Bridge.onEvent told
  cases BridgeAction.ofEvent e with
  | signal id => simp only [Bridge.perform, Routine.run, answer]
  | remove id => simp only [Bridge.perform, Routine.run, answer]
  | ignore => rfl

theorem run_onDelivery (d : Delivery HostEvent) (next : Routine ι κ ε) (s : System ι κ ε)
    (out : ContextSet) : (Bridge.onDelivery next d).run (answer g depth) s out =
      next.run (answer g depth) (s.delivered d) out := by
  cases d with
  | item e => exact run_onEvent e next s out
  | lagged n => simp only [Bridge.onDelivery, Routine.run, answer, delivered]
  | empty => rfl
  | closed => rfl

/-- The bridge does its work one reading after the other, and is done. -/
theorem run_work (ds : List (Delivery HostEvent)) (s : System ι κ ε) :
    s.run g depth (Bridge.work .done ds) = some (.finished, ds.foldl delivered s, .empty) := by
  -- on what is read; each reading is a function of the system
  unfold run Bridge.work
  induction ds generalizing s with
  | nil => rfl
  | cons d ds ih => rw [List.foldr_cons, run_onDelivery, ih, List.foldl_cons]

/-- Events that the bridge is told one after the other. -/
theorem run_onEvents (es : List HostEvent) (s : System ι κ ε) :
    s.run g depth (es.foldr Bridge.onEvent .done) = some (.finished, es.foldl told s, .empty) := by
  unfold run
  induction es generalizing s with
  | nil => rfl
  | cons e es ih => rw [List.foldr_cons, run_onEvent, ih, List.foldl_cons]

theorem foldl_delivered_item (es : List HostEvent) (s : System ι κ ε) :
    (es.map .item).foldl delivered s = es.foldl told s := by
  rw [List.foldl_map]
  rfl

end System

end PermissionContexts
