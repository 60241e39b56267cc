import PeerRules.Call
import PeerRules.Rule.Input

/-!
# Keeping rules

Rules are created, amended, switched on and off, and deleted by plans over a store. What is written
is checked first; a write that is refused makes no call that changes the store.
-/
namespace PeerRules.Service

open RulesPlan

/-- Creates a rule (`RuleService.create_rule`). -/
def create (s : Rule.Submission) : RulesPlan (Except Fault Rule) :=
  match s.draft with
  | .error f => .done (.error f)
  | .ok draft => do
    let moment ← now
    let id ← freshId
    match Rule.make id moment draft with
    | .error f => return .error f
    | .ok rule =>
      match ← insertRule rule with
      | .error f => return .error f
      | .ok stored => do
        log (.ruleCreated stored.id stored.name.text)
        return .ok stored

/-- A stored rule, which must be there (`RuleService.find_rule`). -/
def find (id : RuleId) : RulesPlan (Except Fault Rule) := do
  match ← findRule id with
  | .error f => return .error f
  | .ok none => return .error id.notStored
  | .ok (some rule) => return .ok rule

/-- Amends a stored rule (`RuleService.update_rule`): reads it, changes it, and writes it back
whole. -/
def amend (id : RuleId) (a : Rule.Amendment) : RulesPlan (Except Fault Rule) := do
  match ← find id with
  | .error f => return .error f
  | .ok current =>
    match a.update with
    | .error f => return .error f
    | .ok u => do
      let moment ← now
      match current.apply u moment with
      | .error f => return .error f
      | .ok changed =>
        match ← updateRule changed with
        | .error f => return .error f
        | .ok stored => do
          log (.ruleUpdated stored.id)
          return .ok stored

/-- Switches a rule on or off (`RuleService.set_rule_active`). -/
def setActive (id : RuleId) (isActive : Bool) : RulesPlan (Except Fault Rule) :=
  amend id (Rule.Amendment.activation isActive)

/-- Deletes a rule and its audit entries (`RuleService.delete_rule`). -/
def delete (id : RuleId) : RulesPlan (Except Fault Unit) := do
  match ← deleteRule id with
  | .error f => return .error f
  | .ok () => do
    log (.ruleDeleted id)
    return .ok ()

/-- Reads a stored rule and does something with it (`RuleEngineService.run_one`). -/
def withRule {α : Type} (id : RuleId) (f : Rule → RulesPlan (Except Fault α)) :
    RulesPlan (Except Fault α) := do
  match ← find id with
  | .error f => return .error f
  | .ok rule => f rule

end PeerRules.Service
