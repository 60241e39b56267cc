import PeerRules.Condition.Matching
import PeerRules.Dispatch

/-!
# Running one rule

A run asks for the connected peers, picks those that meet the conditions, and then takes them one by
one: applies the action and writes what came of it to the audit log. A peer for which this fails
does not keep the next ones from their turn. A rule that is not active does nothing.

* `inactive_makes_no_call`: no call at all.
-/
namespace PeerRules.Run

open RulesPlan Dispatch

/-- What came of a run for one peer (`PeerActionOutcome`). -/
structure PeerOutcome where
  peerId : Option String
  peerAddress : Option String
  success : Bool
  /-- The text that went to the audit log. -/
  result : String
  /-- Whether it arrived there. -/
  logged : Bool
  deriving DecidableEq

/-- What came of a run (`RuleRunSummary`). -/
structure Summary where
  ruleId : RuleId
  ruleName : String
  success : Bool
  message : String
  outcomes : List PeerOutcome
  deriving DecidableEq

namespace Summary

def matched (s : Summary) : Nat := s.outcomes.length

def executed (s : Summary) : Nat := s.outcomes.countP (·.success)

end Summary

/-- The peers that meet a rule's conditions, in the order of the listing. -/
def targets (r : Rule) (peers : List Peer) : List Peer := peers.filter r.conditions.meets

/-- Warns about every peer at which the conditions fail for an operator that is not known. -/
def warn (r : Rule) : List Peer → RulesPlan Unit
  | [] => .done ()
  | p :: rest =>
    match r.conditions.unknownReached? p with
    | some u => do
      log (.unknownOperator u.path u.name)
      warn r rest
    | none => warn r rest

/-- Whether an action succeeded, and the text about it. -/
def verdict : Except Fault Outcome → Bool × String
  | .ok o => (o.success, o.message)
  | .error f => (false, "Error: " ++ f.message)

/-- The audit entry about an action against a peer. -/
def entryFor (r : Rule) (p : Peer) (moment : Instant) (result : String) : Audit.NewEntry :=
  ⟨r.id, moment, p.snapshot, r.action.name, result⟩

/-- Takes one peer's turn (`apply_to_peer`). -/
def applyTo (dispatcher : Dispatcher) (r : Rule) (p : Peer) : RulesPlan PeerOutcome := do
  let triggeredAt ← now
  let (success, result) := verdict (← dispatcher p r.action)
  match ← append (entryFor r p triggeredAt result) with
  | .ok _ => return ⟨p.id?, p.address?, success, result, true⟩
  | .error f => do
    log (.appendFailed r.id (p.address?.getD "") f)
    return ⟨p.id?, p.address?, success, result, false⟩

/-- Takes every peer's turn, in order. -/
def applyAll (dispatcher : Dispatcher) (r : Rule) : List Peer → RulesPlan (List PeerOutcome)
  | [] => .done []
  | p :: rest => do
    let o ← applyTo dispatcher r p
    let os ← applyAll dispatcher r rest
    return o :: os

/-- The summary of a run that went through. -/
def summarize (r : Rule) (outcomes : List PeerOutcome) : Summary where
  ruleId := r.id
  ruleName := r.name.text
  success := true
  message := "Rule executed: " ++ toString outcomes.length ++ " peers matched, "
    ++ toString (outcomes.countP (·.success)) ++ " actions executed"
  outcomes := outcomes

/-- The summary of a rule that is not active (`RuleRunSummary.skipped`). -/
def skipped (r : Rule) : Summary := ⟨r.id, r.name.text, false, "Rule is not active", []⟩

/-- Runs a rule once (`RuleRunner.run`). Only the listing of peers can make a run fail. -/
def plan (dispatcher : Dispatcher) (r : Rule) : RulesPlan (Except Fault Summary) :=
  if r.isActive then do
    match ← listPeers with
    | .error f => return .error f
    | .ok peers => do
      warn r peers
      let outcomes ← applyAll dispatcher r (targets r peers)
      let s := summarize r outcomes
      log (.runFinished r.id r.name.text peers.length s.matched s.executed)
      return .ok s
  else .done (.ok (skipped r))

theorem inactive_makes_no_call {dispatcher : Dispatcher} {r : Rule} (h : r.isActive = false) :
    plan dispatcher r = .done (.ok (skipped r)) := by
  simp [plan, h]

end PeerRules.Run
