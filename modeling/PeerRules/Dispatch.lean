import PeerRules.Call

/-!
# Applying an action to a peer

A ban goes to the peer's address, a disconnection to its identifier; a peer that lacks what the
action needs is not bothered, and neither is the node. The node gets a limited time to answer.
Whatever happens is an outcome: nothing here is an error of the caller.

* `deadline_pos`: the node always gets some time.
-/
namespace PeerRules.Dispatch

open RulesPlan

/-- The time a node gets, in milliseconds (`with_call_timeout`); never none at all. -/
def deadline (limitMs : Nat) : Nat := max limitMs 1

/-- Why a ban for no time at all would not be ordered. -/
def noDuration : String := "ban action has no duration"

/-- The order that an action makes about a peer, or why it makes none. -/
def order (peer : Peer) (action : Action) : Except String Control :=
  match action with
  | .ban _ =>
    match peer.address?, action.banSeconds? with
    | none, _ => .error "peer has no address to ban"
    | some _, none => .error noDuration
    | some address, some seconds => .ok (.ban address seconds)
  | .disconnect =>
    match peer.id? with
    | some id => .ok (.disconnect id)
    | none => .error "peer has no id to disconnect"
  | .unsupported name => .error ("Unknown action: " ++ name)

/-- The event that announces an order. -/
def announcement : Control → Log.Event
  | .ban address seconds => .banning address seconds.toNat
  | .disconnect id => .disconnecting id

def outcome (limitMs : Nat) : Option (Except Fault Outcome) → Outcome
  | some (.ok o) => o
  | some (.error f) => .failed f.message
  | none => .failed ("peer control call timed out after " ++ toString limitMs ++ " ms")

/-- Applies an action to a peer, by somebody who can tell the log and give the node orders
(`PeerControlDispatcher.dispatch`). -/
def planBy {m : Type → Type} [Monad m] (tell : Log.Event → m Unit)
    (give : Control → Nat → m (Option (Except Fault Outcome))) (limitMs : Nat) (peer : Peer)
    (action : Action) : m Outcome :=
  match order peer action with
  | .error reason => pure (.failed reason)
  | .ok o => do
    tell (announcement o)
    let reply ← give o (deadline limitMs)
    return outcome (deadline limitMs) reply

/-- Applies an action to a peer. -/
def plan (limitMs : Nat) (peer : Peer) (action : Action) : RulesPlan Outcome :=
  planBy log control limitMs peer action

/-- How actions are applied: what a run is given to apply them with. -/
abbrev Dispatcher := Peer → Action → RulesPlan (Except Fault Outcome)

/-- The dispatcher that gives orders to the node. -/
def toNode (limitMs : Nat) : Dispatcher := fun peer action => do
  return .ok (← plan limitMs peer action)

theorem deadline_pos (limitMs : Nat) : 1 ≤ deadline limitMs := Nat.le_max_right _ _

end PeerRules.Dispatch
