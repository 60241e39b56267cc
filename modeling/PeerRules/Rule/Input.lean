import PeerRules.Json.Shape
import PeerRules.Rule.Basic

/-!
# Rules as they are submitted

People hand in rules as documents: a submission for a new rule, an amendment for parts of a stored
one. Decoding looks only at the kinds of the members; whether the conditions and the action make
sense is asked when the rule is made.

* `Amendment.activation` names nothing but the active flag.
-/
namespace PeerRules.Rule

open Json

/-- A new rule as it was handed in (`CreateRuleInput`). -/
structure Submission where
  name : String
  description : Option String
  conditions : Value
  actions : Value
  isActive : Bool

/-- Changes to a rule as they were handed in (`UpdateRuleInput`); a part that is not named stays. -/
structure Amendment where
  name : Option String
  /-- The inner `none` clears the description. -/
  description : Option (Option String)
  conditions : Option Value
  actions : Option Value
  isActive : Option Bool

namespace Submission

def shape : Shape :=
  .record "CreateRuleInput" [
    ⟨"name", .text, true, false⟩,
    ⟨"description", .text, false, true⟩,
    ⟨"conditions", .any, false, false⟩,
    ⟨"actions", .any, true, false⟩,
    ⟨"isActive", .flag, false, false⟩]

/-- The submission that a document of the shape holds; what is left out has its usual value. -/
def ofNormal (v : Value) : Submission where
  name := ((v.get? "name").bind Value.text?).getD ""
  description := (v.get? "description").bind Value.text?
  conditions := (v.get? "conditions").getD .null
  actions := (v.get? "actions").getD .null
  isActive := match v.get? "isActive" with
    | some (.bool b) => b
    | _ => true

def decode (v : Value) : Except Mismatch Submission := (shape.check v).map ofNormal

def decodeList (text : String) : Except Refusal (List Submission) :=
  ((Shape.list shape).parse text).map fun v => (v.items?.getD []).map ofNormal

/-- The rule's parts, if its conditions and then its action can be loaded. -/
def draft (s : Submission) : Except Fault Draft := do
  let conditions ← Conditions.ofValue s.conditions
  let action ← Action.ofValue s.actions
  pure ⟨s.name, s.description, conditions, action, s.isActive⟩

end Submission

namespace Amendment

def shape : Shape :=
  .record "UpdateRuleInput" [
    ⟨"name", .text, false, true⟩,
    ⟨"description", .text, false, true⟩,
    ⟨"conditions", .any, false, true⟩,
    ⟨"actions", .any, false, true⟩,
    ⟨"isActive", .flag, false, true⟩]

/-- A member that has a value; `null` is as good as none. -/
def present? (v : Value) (key : String) : Option Value :=
  match v.get? key with
  | none | some .null => none
  | some w => some w

/-- The amendment that a document of the shape holds. -/
def ofNormal (v : Value) : Amendment where
  name := (present? v "name").bind Value.text?
  description := (v.get? "description").map Value.text?
  conditions := present? v "conditions"
  actions := present? v "actions"
  isActive := match v.get? "isActive" with
    | some (.bool b) => some b
    | _ => none

def decode (v : Value) : Except Mismatch Amendment := (shape.check v).map ofNormal

/-- Switches a rule on or off and changes nothing else. -/
def activation (isActive : Bool) : Amendment := ⟨none, none, none, none, some isActive⟩

def loadPart {α : Type} (load : Value → Except Fault α) : Option Value → Except Fault (Option α)
  | none => .ok none
  | some v => (load v).map some

/-- The replacements, if the conditions and then the action can be loaded. -/
def update (a : Amendment) : Except Fault Update := do
  let conditions ← loadPart Conditions.ofValue a.conditions
  let action ← loadPart Action.ofValue a.actions
  pure ⟨a.name, a.description, conditions, action, a.isActive⟩

end Amendment

end PeerRules.Rule
