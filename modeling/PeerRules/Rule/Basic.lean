import PeerRules.Action
import PeerRules.Condition.Basic
import PeerRules.Instant
import PeerRules.Name
import PeerRules.RuleId.Basic

/-!
# Rules

A rule has an identifier, a name, perhaps a description, conditions and an action, and takes part in
execution while it is active. `make` and `apply` are the strict ways in, for rules that are written
now; `restore` takes what a store holds and asks only for a name.

* `apply_keeps_identity`: an update changes neither the identifier nor the time of creation.
-/
namespace PeerRules

/-- A rule (`RuleDefinition`). -/
structure Rule where
  id : RuleId
  name : Name
  description : Option String
  conditions : Conditions
  action : Action
  isActive : Bool
  createdAt : Instant
  updatedAt : Instant

namespace Rule

/-- What a rule is made of, before its name has been looked at (`RuleDefinitionInput`). -/
structure Draft where
  name : String
  description : Option String
  conditions : Conditions
  action : Action
  isActive : Bool

/-- Replacements for some parts of a rule (`RuleDefinitionUpdate`); a part without one stays. -/
structure Update where
  name : Option String
  /-- The inner `none` clears the description. -/
  description : Option (Option String)
  conditions : Option Conditions
  action : Option Action
  isActive : Option Bool

/-- A description in normal form (`normalize_description`): trimmed, and absent when nothing is
left. -/
def normalize (description : Option String) : Option String := description.bind Text.trimmed?

/-- A stored rule (`RuleDefinition.restore`). Operators and actions are not checked. -/
def restore (id : RuleId) (d : Draft) (createdAt updatedAt : Instant) : Except Fault Rule := do
  let name ← Name.ofText d.name
  pure ⟨id, name, normalize d.description, d.conditions, d.action, d.isActive, createdAt, updatedAt⟩

/-- A new rule (`RuleDefinition.new`). Its conditions are checked first, then its action, then its
name. -/
def make (id : RuleId) (now : Instant) (d : Draft) : Except Fault Rule := do
  d.conditions.validate
  d.action.validate
  restore id d now now

def validatePart {α : Type} (check : α → Except Fault Unit) : Option α → Except Fault Unit
  | none => .ok ()
  | some a => check a

def newName (old : Name) : Option String → Except Fault Name
  | none => .ok old
  | some s => Name.ofText s

/-- The rule after an update (`RuleDefinition.apply_update`). The replacements are checked in the
order conditions, action, name; one that fails leaves nothing done. -/
def apply (r : Rule) (u : Update) (now : Instant) : Except Fault Rule := do
  validatePart Conditions.validate u.conditions
  validatePart Action.validate u.action
  let name ← newName r.name u.name
  pure { r with
    name
    description := (u.description.map normalize).getD r.description
    conditions := u.conditions.getD r.conditions
    action := u.action.getD r.action
    isActive := u.isActive.getD r.isActive
    updatedAt := now }

/-- The rule with the times that a store gives it (`with_timestamps`). -/
def stamped (r : Rule) (createdAt updatedAt : Instant) : Rule := { r with createdAt, updatedAt }

def view (r : Rule) : Json.Value :=
  .object [
    ("actions", r.action.toValue),
    ("conditions", r.conditions.toValue),
    ("createdAt", .string r.createdAt.text),
    ("description", .ofText? r.description),
    ("id", .string r.id.text),
    ("isActive", .bool r.isActive),
    ("name", .string r.name.text),
    ("updatedAt", .string r.updatedAt.text)]

theorem apply_keeps_identity {r s : Rule} {u : Update} {now : Instant} (h : r.apply u now = .ok s) :
    s.id = r.id ∧ s.createdAt = r.createdAt := by
  simp only [apply, bind, Except.bind] at h
  split at h
  · cases h
  · split at h
    · cases h
    · split at h
      · cases h
      · cases h
        exact ⟨rfl, rfl⟩

end Rule

end PeerRules
