import PeerRules.Call
import PeerRules.Text.Quoted

/-!
# Rows

A rule is kept as a row: its identifier, its name, its description, its conditions and its action as
documents, and whether it is active; the database adds the times. A row may hold anything, also what
was written under older rules, so reading one can fail. It fails first at a cell that is empty, in
the order of the columns; only the description may be.

* `row_of_columns`: a row that is full is read as it is.
* `record_ruleId`: a row that cannot be loaded still has its identifier.
-/
namespace PeerRules.Table

open Json

/-- The columns of a rule that a write gives. -/
structure RuleColumns where
  id : RuleId
  name : String
  description : Option String
  conditions : Value
  actions : Value
  isActive : Bool

def RuleColumns.ofRule (r : Rule) : RuleColumns where
  id := r.id
  name := r.name.text
  description := r.description
  conditions := r.conditions.toValue
  actions := r.action.toValue
  isActive := r.isActive

/-- A row of the table of rules. -/
structure RuleRow extends RuleColumns where
  createdAt : Instant
  updatedAt : Instant

/-! ## Cells -/

/-- An empty cell where something must be. -/
inductive Gap where
  | inColumn (name : String)
  | atPlace (n : Nat)
  deriving DecidableEq, Repr

def Gap.text (g : Gap) : String :=
  let column := match g with
    | .inColumn name => Text.Quoted.quote name
    | .atPlace n => toString n
  "error occurred while decoding column " ++ column
    ++ ": unexpected null; try decoding as an \x60Option\x60"

def filled {α : Type} (g : Gap) : Option α → Except Gap α
  | some a => .ok a
  | none => .error g

/-- What a cell of a column holds. -/
def inColumn {α : Type} (name : String) : Option α → Except Gap α := filled (.inColumn name)

structure RuleCells where
  id : Option RuleId
  name : Option String
  description : Option String
  conditions : Option Value
  actions : Option Value
  isActive : Option Bool
  createdAt : Option Instant
  updatedAt : Option Instant

def RuleCells.row (c : RuleCells) : Except Gap RuleRow := do
  let id ← inColumn "id" c.id
  let name ← inColumn "name" c.name
  let conditions ← inColumn "conditions" c.conditions
  let actions ← inColumn "actions" c.actions
  let isActive ← inColumn "is_active" c.isActive
  let createdAt ← inColumn "created_at" c.createdAt
  let updatedAt ← inColumn "updated_at" c.updatedAt
  let columns : RuleColumns := ⟨id, name, c.description, conditions, actions, isActive⟩
  pure { columns with createdAt, updatedAt }

/-- The cells of a row, all of them full. -/
def RuleRow.cells (row : RuleRow) : RuleCells where
  id := some row.id
  name := some row.name
  description := row.description
  conditions := some row.conditions
  actions := some row.actions
  isActive := some row.isActive
  createdAt := some row.createdAt
  updatedAt := some row.updatedAt

structure EntryCells where
  entryId : Option RuleId
  ruleId : Option RuleId
  triggeredAt : Option Instant
  peerSnapshot : Option Value
  actionTaken : Option String
  result : Option String

def EntryCells.entry (c : EntryCells) : Except Gap Audit.Entry := do
  let entryId ← inColumn "entry_id" c.entryId
  let ruleId ← inColumn "rule_id" c.ruleId
  let triggeredAt ← inColumn "triggered_at" c.triggeredAt
  let peerSnapshot ← inColumn "peer_snapshot" c.peerSnapshot
  let actionTaken ← inColumn "action_taken" c.actionTaken
  let result ← inColumn "result" c.result
  let new : Audit.NewEntry := ⟨ruleId, triggeredAt, peerSnapshot, actionTaken, result⟩
  pure { new with entryId }

/-! ## Rules -/

/-- The fault of a part of a row that cannot be loaded. -/
def corrupt (part : String) (id : RuleId) (f : Fault) : Fault :=
  .internal ("stored " ++ part ++ " for rule '" ++ id.text ++ "' are corrupt: " ++ f.message)

namespace RuleRow

/-- The rule that a row holds (`rule_from_row`). Its conditions are loaded first, then its action.
-/
def rule (row : RuleRow) : Except Fault Rule := do
  let conditions ← (Conditions.ofValue row.conditions).mapError (corrupt "conditions" row.id)
  let action ← (Action.ofValue row.actions).mapError (corrupt "actions" row.id)
  Rule.restore row.id ⟨row.name, row.description, conditions, action, row.isActive⟩
    row.createdAt row.updatedAt

/-- The record of a row (`stored_rule_from_row`): a rule, or why there is none. -/
def record (row : RuleRow) : Record := ⟨row.id, row.name, row.rule⟩

end RuleRow

theorem row_of_columns (row : RuleRow) : row.cells.row = .ok row := rfl

theorem record_ruleId (row : RuleRow) :
    row.record.ruleId = row.id ∧ row.record.ruleName = row.name := ⟨rfl, rfl⟩

end PeerRules.Table
