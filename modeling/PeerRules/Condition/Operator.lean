import PeerRules.Json.Value

/-!
# Comparison operators

The ten operators that a condition can use, their names, and the operands they take.

* `ofName?_name`, `name_of_ofName?`: an operator and its name determine each other.
-/
namespace PeerRules.Condition

open Json

/-- An operator (`ConditionOperator`). -/
inductive Operator where
  | eq
  | neq
  | gt
  | gte
  | lt
  | lte
  | contains
  | startsWith
  | endsWith
  | isIn
  deriving DecidableEq, Repr

namespace Operator

def all : List Operator :=
  [.eq, .neq, .gt, .gte, .lt, .lte, .contains, .startsWith, .endsWith, .isIn]

def name : Operator → String
  | .eq => "eq"
  | .neq => "neq"
  | .gt => "gt"
  | .gte => "gte"
  | .lt => "lt"
  | .lte => "lte"
  | .contains => "contains"
  | .startsWith => "startsWith"
  | .endsWith => "endsWith"
  | .isIn => "in"

/-- The operator with a name (`ConditionOperator.from_name`); case counts. -/
def ofName? (name : String) : Option Operator := all.find? (·.name = name)

/-- The class of operand an operator takes. -/
inductive Operand where
  | anything
  | number
  | text
  | list
  deriving DecidableEq, Repr

def operand : Operator → Operand
  | .eq | .neq => .anything
  | .gt | .gte | .lt | .lte => .number
  | .contains | .startsWith | .endsWith => .text
  | .isIn => .list

def Operand.admits : Operand → Value → Bool
  | .anything, _ => true
  | .number, v => v.number?.isSome
  | .text, v => v.text?.isSome
  | .list, v => v.items?.isSome

def Operand.description : Operand → String
  | .anything => "any value"
  | .number => "a number"
  | .text => "a string"
  | .list => "an array"

theorem mem_all (o : Operator) : o ∈ all := by cases o <;> decide

theorem ofName?_name (o : Operator) : ofName? o.name = some o := by cases o <;> decide

theorem name_of_ofName? {s : String} {o : Operator} (h : ofName? s = some o) : o.name = s := by
  have := List.find?_some h
  simpa using this

end Operator

end PeerRules.Condition
