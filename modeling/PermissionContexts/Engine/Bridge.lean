import PermissionContexts.Engine.Routine

/-! # The invalidation bridge

    The bridge is the listener that turns host events into signals and removals. It
    computes nothing. On a bus it stands last, so that all others have seen an event
    before the contexts of its subject become stale.

    It can also work through a mailbox. When it learns that events were lost, it
    makes everything stale, since a lost event may have been a signal.
-/

namespace PermissionContexts.Bridge

variable {ι κ ε : Type}

/-- The name of the bridge on a bus. -/
def name : String := "invalidation_bridge"

/-- Does what an action says, and goes on. -/
def perform (next : Routine ι κ ε) : BridgeAction → Routine ι κ ε
  | .signal id => .ask (.signal id) fun _ => next
  | .remove id => .ask (.remove id) fun _ => next
  | .ignore => next

/-- What the bridge does about an event. -/
def onEvent (e : HostEvent) (next : Routine ι κ ε) : Routine ι κ ε :=
  perform next (.ofEvent e)

/-- What the bridge does about one reading of a mailbox. -/
def onDelivery (next : Routine ι κ ε) : Delivery HostEvent → Routine ι κ ε
  | .item e => onEvent e next
  | .lagged _ => .ask .invalidateAll fun _ => next
  | .empty => next
  | .closed => next

/-- Works through all readings of a mailbox. -/
def work (next : Routine ι κ ε) (ds : List (Delivery HostEvent)) : Routine ι κ ε :=
  ds.foldr (fun d rest => onDelivery rest d) next

end PermissionContexts.Bridge
