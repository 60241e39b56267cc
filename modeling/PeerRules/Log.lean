import PeerRules.Fault
import PeerRules.RuleId.Basic

/-!
# Log events

What is worth telling about a run. Every event has a level, a message that does not vary, and fields
with the particulars, in a fixed order; a particular that is absent has no field.
-/
namespace PeerRules.Log

/-- How much an event matters. -/
inductive Level where
  | debug
  | info
  | warn
  | error
  deriving DecidableEq, Repr

inductive Field where
  | text (s : String)
  | number (n : Nat)
  | flag (b : Bool)
  deriving DecidableEq, Repr

/-- An event. -/
inductive Event where
  | ruleCreated (id : RuleId) (name : String)
  | ruleUpdated (id : RuleId)
  | ruleDeleted (id : RuleId)
  | banning (address : String) (seconds : Nat)
  | disconnecting (peerId : String)
  | unknownOperator (path operator : String)
  | appendFailed (id : RuleId) (address : String) (fault : Fault)
  | runFinished (id : RuleId) (name : String) (peers matched executed : Nat)
  | ruleFailed (id : RuleId) (name : String) (fault : Fault)
  | tickSkipped
  | acquireFailed (fault : Fault)
  | listingFailed (fault : Fault)
  | tickFinished (executed failed : Nat)
  | renewed (scope : String)
  | lapsed (scope : String)
  | renewFailed (scope : String) (fault : Fault)
  | releaseFailed (scope : String) (fault : Fault)
  | schedulerReplaced (intervalMs : Nat)
  | schedulerStarted (intervalMs : Nat)
  | schedulerStopped (intervalMs : Nat)
  | tickFailed (error : String)
  | nodeAnswered (method : String) (status : Nat)
  | seedSkipped (path : String)
  | ruleSeeded (id : RuleId) (name : String)
  | workerStarted (worker nodeUrl : String) (persistent distributed : Bool) (intervalMs : Nat)
  | ruleExecuted (worker : String) (id : RuleId) (name : String) (matched executed : Nat)
      (message : String)
  | ruleExecutionFailed (worker : String) (id : RuleId) (name error : String)
  | onceFinished (worker : String) (rules : Nat)
  | workerStopped (worker : String) (lastExecuted : Option Nat)

namespace Event

def level : Event → Level
  | .banning .. | .disconnecting .. | .renewed .. | .nodeAnswered .. => .debug
  | .unknownOperator .. | .appendFailed .. | .ruleFailed .. | .tickSkipped | .lapsed ..
  | .renewFailed .. | .releaseFailed .. | .tickFailed .. | .ruleExecutionFailed .. => .warn
  | .acquireFailed .. | .listingFailed .. => .error
  | .ruleCreated .. | .ruleUpdated .. | .ruleDeleted .. | .runFinished .. | .tickFinished ..
  | .schedulerReplaced .. | .schedulerStarted .. | .schedulerStopped .. | .seedSkipped ..
  | .ruleSeeded .. | .workerStarted .. | .ruleExecuted .. | .onceFinished .. | .workerStopped .. =>
    .info

/-- What an event says, whatever the case. -/
def message : Event → String
  | .ruleCreated .. => "rule created"
  | .ruleUpdated .. => "rule updated"
  | .ruleDeleted .. => "rule deleted"
  | .banning .. => "dispatching peer ban"
  | .disconnecting .. => "dispatching peer disconnect"
  | .unknownOperator .. => "unknown condition operator; condition fails closed"
  | .appendFailed .. => "failed to append rule audit entry"
  | .runFinished .. => "rule run finished"
  | .ruleFailed .. => "rule run failed"
  | .tickSkipped => "previous rule execution still running; skipping scheduled tick"
  | .acquireFailed .. => "failed to acquire rule execution guard"
  | .listingFailed .. => "failed to list active rules for scheduled tick"
  | .tickFinished .. => "scheduled rule tick finished"
  | .renewed .. => "renewed rule execution guard"
  | .lapsed .. => "rule execution guard lapsed before the batch finished"
  | .renewFailed .. => "failed to renew rule execution guard"
  | .releaseFailed .. => "failed to release rule execution guard"
  | .schedulerReplaced .. => "replacing running rule scheduler"
  | .schedulerStarted .. => "rule scheduler started"
  | .schedulerStopped .. => "rule scheduler stopped"
  | .tickFailed .. => "scheduled rule tick failed"
  | .nodeAnswered .. => "node RPC call finished"
  | .seedSkipped .. => "rule store not empty; skipping seed"
  | .ruleSeeded .. => "seeded rule"
  | .workerStarted .. => "peerwarden-worker started"
  | .ruleExecuted .. => "rule executed"
  | .ruleExecutionFailed .. => "rule execution failed"
  | .onceFinished .. => "run-once finished"
  | .workerStopped .. => "peerwarden-worker stopped"

def fields : Event → List (String × Field)
  | .ruleCreated id name | .ruleSeeded id name =>
    [("rule_id", .text id.text), ("rule_name", .text name)]
  | .ruleUpdated id | .ruleDeleted id => [("rule_id", .text id.text)]
  | .banning address seconds =>
    [("peer_addr", .text address), ("duration_seconds", .number seconds)]
  | .disconnecting peerId => [("peer_id", .text peerId)]
  | .unknownOperator path operator => [("field_path", .text path), ("operator", .text operator)]
  | .appendFailed id address fault =>
    [("rule_id", .text id.text), ("peer_addr", .text address), ("error", .text fault.message)]
  | .runFinished id name peers matched executed =>
    [("rule_id", .text id.text), ("rule_name", .text name), ("peers_total", .number peers),
      ("matched_count", .number matched), ("actions_executed", .number executed)]
  | .ruleFailed id name fault =>
    [("rule_id", .text id.text), ("rule_name", .text name), ("error", .text fault.message)]
  | .tickSkipped => []
  | .acquireFailed fault | .listingFailed fault => [("error", .text fault.message)]
  | .tickFinished executed failed =>
    [("rules_executed", .number executed), ("rules_failed", .number failed)]
  | .renewed scope | .lapsed scope => [("scope_key", .text scope)]
  | .renewFailed scope fault | .releaseFailed scope fault =>
    [("scope_key", .text scope), ("error", .text fault.message)]
  | .schedulerReplaced ms | .schedulerStarted ms | .schedulerStopped ms =>
    [("interval_ms", .number ms)]
  | .tickFailed error => [("error", .text error)]
  | .nodeAnswered method status => [("method", .text method), ("status", .number status)]
  | .seedSkipped path => [("seed_path", .text path)]
  | .workerStarted worker nodeUrl persistent distributed intervalMs =>
    [("worker_id", .text worker), ("node_rpc_url", .text nodeUrl), ("persistent", .flag persistent),
      ("distributed_lock", .flag distributed), ("rule_interval_ms", .number intervalMs)]
  | .ruleExecuted worker id name matched executed message =>
    [("worker_id", .text worker), ("rule_id", .text id.text), ("rule_name", .text name),
      ("matched_count", .number matched), ("actions_executed", .number executed),
      ("message", .text message)]
  | .ruleExecutionFailed worker id name error =>
    [("worker_id", .text worker), ("rule_id", .text id.text), ("rule_name", .text name),
      ("error", .text error)]
  | .onceFinished worker rules => [("worker_id", .text worker), ("rules", .number rules)]
  | .workerStopped worker lastExecuted =>
    ("worker_id", .text worker) ::
      (lastExecuted.map fun n => ("last_tick_rules_executed", Field.number n)).toList

end Event

end PeerRules.Log
