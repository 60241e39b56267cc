import PeerRules.Table.Row

/-!
# Statements

What the database is told: a text with numbered places, and what stands at the places. Values are
never part of the text, so that no value can change what a statement does.
-/
namespace PeerRules.Table

open Json

/-- What stands at a place of a statement. -/
inductive Param where
  | null
  | id (id : RuleId)
  | text (s : String)
  | document (v : Value)
  | flag (b : Bool)
  | number (n : Int)
  | moment (t : Instant)

def Param.ofText? (s : Option String) : Param := s.elim .null .text

def Param.ofId? (id : Option RuleId) : Param := id.elim .null .id

/-- A statement. -/
structure Statement where
  sql : String
  params : List Param

/-- What the columns of a rule put at the places of a write. -/
def RuleColumns.params (c : RuleColumns) : List Param :=
  [.id c.id, .text c.name, .ofText? c.description, .document c.conditions, .document c.actions,
    .flag c.isActive]

namespace Statement

def ruleColumns : String :=
  "id, name, description, conditions, actions, is_active, created_at, updated_at"

def oldestFirst : String := " ORDER BY created_at ASC, id ASC"

def makeRules : String :=
  "CREATE TABLE IF NOT EXISTS peer_rules ( id UUID PRIMARY KEY, "
    ++ "name TEXT NOT NULL CHECK (btrim(name) <> ''), description TEXT, "
    ++ "conditions JSONB NOT NULL DEFAULT '\x7b\x7d'::JSONB, actions JSONB NOT NULL, "
    ++ "is_active BOOLEAN NOT NULL DEFAULT TRUE, created_at TIMESTAMPTZ NOT NULL DEFAULT now(), "
    ++ "updated_at TIMESTAMPTZ NOT NULL DEFAULT now() );"

/-- The index by which active rules are listed. -/
def indexActive : String :=
  "CREATE INDEX IF NOT EXISTS idx_peer_rules_active_created "
    ++ "ON peer_rules (created_at) WHERE is_active;"

/-- The table of audit entries, as it is made: a rule that is deleted takes its entries along. -/
def makeEntries : String :=
  "CREATE TABLE IF NOT EXISTS peer_rule_audit_log ( id UUID PRIMARY KEY, "
    ++ "rule_id UUID NOT NULL REFERENCES peer_rules (id) ON DELETE CASCADE, "
    ++ "triggered_at TIMESTAMPTZ NOT NULL, peer_snapshot JSONB NOT NULL, "
    ++ "action_taken TEXT NOT NULL, result TEXT NOT NULL );"

/-- The indexes by which entries are listed. -/
def indexEntries : List String := [
  "CREATE INDEX IF NOT EXISTS idx_peer_rule_audit_log_rule_triggered "
    ++ "ON peer_rule_audit_log (rule_id, triggered_at DESC);",
  "CREATE INDEX IF NOT EXISTS idx_peer_rule_audit_log_triggered "
    ++ "ON peer_rule_audit_log (triggered_at DESC);"]

/-- Makes the tables, where they are not there yet. -/
def migrate : Statement :=
  ⟨String.intercalate " " (makeRules :: indexActive :: makeEntries :: indexEntries), []⟩

def insertRule (r : Rule) : Statement :=
  ⟨"INSERT INTO peer_rules (id, name, description, conditions, actions, is_active) "
    ++ "VALUES ($1, $2, $3, $4, $5, $6) RETURNING " ++ ruleColumns,
    (RuleColumns.ofRule r).params⟩

def updateRule (r : Rule) : Statement :=
  ⟨"UPDATE peer_rules SET name = $2, description = $3, conditions = $4, actions = $5, "
    ++ "is_active = $6, updated_at = now() WHERE id = $1 RETURNING " ++ ruleColumns,
    (RuleColumns.ofRule r).params⟩

def findRule (id : RuleId) : Statement :=
  ⟨"SELECT " ++ ruleColumns ++ " FROM peer_rules WHERE id = $1", [.id id]⟩

def listRules : Statement := ⟨"SELECT " ++ ruleColumns ++ " FROM peer_rules" ++ oldestFirst, []⟩

def listActive : Statement :=
  ⟨"SELECT " ++ ruleColumns ++ " FROM peer_rules WHERE is_active" ++ oldestFirst, []⟩

def deleteRule (id : RuleId) : Statement := ⟨"DELETE FROM peer_rules WHERE id = $1", [.id id]⟩

def appendEntry (e : Audit.Entry) : Statement :=
  ⟨"INSERT INTO peer_rule_audit_log ( id, rule_id, triggered_at, peer_snapshot, action_taken, "
    ++ "result ) VALUES ($1, $2, $3, $4, $5, $6)",
    [.id e.entryId, .id e.ruleId, .moment e.triggeredAt, .document e.peerSnapshot,
      .text e.actionTaken, .text e.result]⟩

/-- The entries of one rule, or of all. -/
def ofThatRule : String := " FROM peer_rule_audit_log WHERE ($1::UUID IS NULL OR rule_id = $1)"

def countEntries (q : Audit.Query) : Statement :=
  ⟨"SELECT COUNT(*)" ++ ofThatRule, [.ofId? q.ruleId]⟩

/-- The largest number that the database can skip. -/
def maxSkip : Nat := 0x7FFF_FFFF_FFFF_FFFF

def pageOfEntries (q : Audit.Query) : Statement :=
  ⟨"SELECT id AS entry_id, rule_id, triggered_at, peer_snapshot, action_taken, result" ++ ofThatRule
    ++ " ORDER BY triggered_at DESC, id DESC LIMIT $2 OFFSET $3",
    [.ofId? q.ruleId, .number q.limit, .number (min q.offset maxSkip)]⟩

end Statement

end PeerRules.Table
