import PeerRules.Rule.Input
import PeerRules.Service

/-!
# Seeding a store

A worker can be given a file of rules to start with. It is read only when the store holds no rule.
Its rules are created one after another, in the order of the file, up to the first that is refused.
-/
namespace PeerRules.Worker.Seed

open RulesPlan

def unreadable (path reason : String) : Fault :=
  .validation ("failed to read RULES_SEED_PATH '" ++ path ++ "': " ++ reason)

def malformed (path reason : String) : Fault :=
  .validation ("RULES_SEED_PATH '" ++ path ++ "' must hold a JSON array of rules: " ++ reason)

def submissions (path : String) : Except String String → Except Fault (List Rule.Submission)
  | .error reason => .error (unreadable path reason)
  | .ok text => (Rule.Submission.decodeList text).mapError fun r => malformed path r.message

/-- Creates rules in order. -/
def create : List Rule.Submission → RulesPlan (Except Fault Unit)
  | [] => .done (.ok ())
  | s :: rest => do
    match ← Service.create s with
    | .error f => return .error f
    | .ok rule => do
      log (.ruleSeeded rule.id rule.name.text)
      create rest

/-- Seeds the store from a file, if it holds no rule (`seed_rules`). -/
def plan (path : String) : RulesPlan (Except Fault Unit) := do
  match ← listRules with
  | .error f => return .error f
  | .ok (_ :: _) => do
    log (.seedSkipped path)
    return .ok ()
  | .ok [] => do
    match submissions path (← readText path) with
    | .error f => return .error f
    | .ok inputs => create inputs

end PeerRules.Worker.Seed
