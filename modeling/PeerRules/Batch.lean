import PeerRules.Run

/-!
# Running every active rule

A batch takes the records of the active rules and runs them one after another, in order. Each record
has a report: a rule that cannot be loaded, or whose run fails, fails alone.
-/
namespace PeerRules.Batch

open RulesPlan Dispatch

/-- What came of one record (`RuleExecutionReport`): the summary of its run, or the fault. -/
structure Report where
  ruleId : RuleId
  ruleName : String
  result : Except Fault Run.Summary

namespace Report

/-- Whether the run failed (`is_failure`). -/
def isFailure (r : Report) : Bool :=
  match r.result with
  | .ok _ => false
  | .error _ => true

def summary? (r : Report) : Option Run.Summary := r.result.toOption

def error? (r : Report) : Option String :=
  match r.result with
  | .ok _ => none
  | .error f => some f.message

end Report

/-- What a batch comes to. -/
abbrev Result := Except Fault (List Report)

/-- Reports a failure, and tells the log (`failed_report`). -/
def failed (id : RuleId) (name : String) (f : Fault) : RulesPlan Report := do
  log (.ruleFailed id name f)
  return ⟨id, name, .error f⟩

/-- Runs the rule of one record (`run_isolated`). -/
def report (dispatcher : Dispatcher) (record : Record) : RulesPlan Report :=
  match record.decoded with
  | .error f => failed record.ruleId record.ruleName f
  | .ok rule => do
    match ← Run.plan dispatcher rule with
    | .ok s => return ⟨rule.id, rule.name.text, .ok s⟩
    | .error f => failed rule.id rule.name.text f

def reports (dispatcher : Dispatcher) : List Record → RulesPlan (List Report)
  | [] => .done []
  | record :: rest => do
    let r ← report dispatcher record
    let rs ← reports dispatcher rest
    return r :: rs

/-- Runs every active rule (`RuleEngineService.run_active_rules`). Only the listing of rules can
make a batch fail. -/
def plan (dispatcher : Dispatcher) : RulesPlan Result := do
  match ← listActive with
  | .error f => return .error f
  | .ok records => return .ok (← reports dispatcher records)

end PeerRules.Batch
