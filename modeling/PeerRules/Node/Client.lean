import PeerRules.Node.Address
import PeerRules.Wire.Call

/-!
# Speaking with the node

Every request is posted once. The peers are what the node lists, all of them objects. Orders about a
peer never fail: what goes wrong is a failed outcome. A peer whose identifier is no number cannot be
disconnected, and then nothing is posted.

* `listed_ok_iff`: a listing is an array whose items are all objects.
* `ordered_success_iff`: an order succeeds exactly when the node gave a result.
-/
namespace PeerRules.Node

open Json WirePlan

/-- The fault of an endpoint that cannot be posted to. -/
def Request.unpostable (r : Request) (reason : String) : Fault :=
  r.fault ("transport error: " ++ reason)

/-- What a request comes to, given the reply to its post. A reply is told to the log. -/
def received (r : Request) (p : Post) : Except Trouble Response → WirePlan (Except Fault Value)
  | .error t => .done (.error (r.troubled p t))
  | .ok reply => do
    log (.nodeAnswered r.method reply.status.code)
    return r.answer reply

/-- Makes a request, and gives its result (`NodeRpcClient.call`). -/
def call (e : Endpoint) (r : Request) : WirePlan (Except Fault Value) :=
  match r.post e with
  | .error reason => .done (.error (r.unpostable reason))
  | .ok p => do received r p (← post p)

/-- Makes a request, and gives its result if there is one within a number of milliseconds. -/
def callWithin (e : Endpoint) (limitMs : Nat) (r : Request) :
    WirePlan (Option (Except Fault Value)) :=
  match r.post e with
  | .error reason => .done (some (.error (r.unpostable reason)))
  | .ok p => do
    match ← postWithin p limitMs with
    | none => return none
    | some reply => return some (← received r p reply)

def listed : Value → Except Fault (List Peer)
  | .array items => items.mapM Peer.ofValue
  | _ => .error (Request.listPeers.fault "did not return an array")

/-- The peers that are connected now (`NodeRpcClient.list_peers`). -/
def listPeers (e : Endpoint) : WirePlan (Except Fault (List Peer)) := do
  return (← call e .listPeers).bind listed

/-- What came of an order: with a result, what was done, and else the fault. -/
def ordered (done : String) : Except Fault Value → Outcome
  | .ok _ => .succeeded done
  | .error f => .failed f.message

def order (e : Endpoint) (limitMs : Nat) (r : Request) (done : String) :
    WirePlan (Option (Except Fault Outcome)) := do
  let reply ← callWithin e limitMs r
  return reply.map fun result => .ok (ordered done result)

/-- The number that a peer is known by, if its identifier is one. -/
def peerNumber? (peerId : String) : Option Int :=
  (Text.Numeral.signed? (Text.trimList peerId.toList)).toOption

/-- Gives the node an order about a peer (`NodeRpcClient.ban` and `NodeRpcClient.disconnect`). -/
def control (e : Endpoint) (o : Control) (limitMs : Nat) :
    WirePlan (Option (Except Fault Outcome)) :=
  match o with
  | .ban address seconds =>
    let host := Address.host address
    order e limitMs (.ban host seconds)
      ("Banned " ++ host ++ " for " ++ toString seconds.toNat ++ " seconds")
  | .disconnect peerId =>
    match peerNumber? peerId with
    | some n => order e limitMs (.disconnect n) ("Disconnected peer " ++ toString n)
    | none => .done (some (.ok (.failed ("peer id '" ++ peerId ++ "' is not a node id"))))

theorem listed_ok_iff {v : Value} {ps : List Peer} :
    listed v = .ok ps ↔ v = .array (ps.map Peer.snapshot) := by
  cases v with
  | array items =>
    simp only [listed, Value.array.injEq]
    induction items generalizing ps with
    | nil =>
      cases ps <;> simp [pure, Except.pure]
    | cons item rest ih =>
      simp only [List.mapM_cons, bind, Except.bind, pure, Except.pure]
      cases item with
      | object attributes =>
        simp only [Peer.ofValue]
        cases hr : rest.mapM Peer.ofValue with
        | error f =>
          cases ps with
          | nil => simp
          | cons p ps =>
            have := (@ih ps).2
            simp only [List.map_cons, List.cons.injEq, reduceCtorEq, false_iff]
            rintro ⟨_, h⟩
            exact absurd (this h) (by simp [hr])
        | ok qs =>
          have hqs := (@ih qs).1 hr
          cases ps with
          | nil => simp
          | cons p ps =>
            obtain ⟨a⟩ := p
            simp only [List.map_cons, List.cons.injEq, Except.ok.injEq, Peer.snapshot,
              Value.object.injEq, Peer.mk.injEq]
            constructor
            · rintro ⟨rfl, rfl⟩
              exact ⟨rfl, hqs⟩
            · rintro ⟨rfl, h⟩
              have := (@ih ps).2 h
              rw [hr] at this
              cases this
              exact ⟨rfl, rfl⟩
      | _ =>
        cases ps with
        | nil => simp [Peer.ofValue]
        | cons p ps => simp [Peer.ofValue, Peer.snapshot]
  | _ => simp [listed]

theorem ordered_success_iff {done : String} {result : Except Fault Value} :
    (ordered done result).success = true ↔ ∃ v, result = .ok v := by
  cases result with
  | ok v => simp [ordered, Outcome.succeeded]
  | error f => simp [ordered, Outcome.failed]

end PeerRules.Node
