import PeerRules.Wire.Call

/-!
# Speaking with the database

Every operation on rules and entries is one statement, but for a page of entries, which takes two. A
refusal by the database is a fault with its text, and so is a gap in a row; two refusals have a
meaning of their own, that a rule is stored already and that an entry's rule is not stored.
-/
namespace PeerRules.Table

open WirePlan

/-- The code of a refusal to store the same key twice. -/
def duplicateKey : String := "23505"

/-- The code of a refusal to point at what is not stored. -/
def missingTarget : String := "23503"

def noRow : String := "no rows returned by a query that expected to return at least one row"

def failedTo (what reason : String) : Fault := .internal ("failed to " ++ what ++ ": " ++ reason)

def failedToRule (what : String) (id : RuleId) (reason : String) : Fault :=
  failedTo (what ++ " '" ++ id.text ++ "'") reason

/-- The rule that cells hold, given the fault of a gap. -/
def ruleOf (fault : String → Fault) (c : RuleCells) : Except Fault Rule :=
  match c.row with
  | .ok row => row.rule
  | .error g => .error (fault g.text)

/-- The rows that cells make, given the fault of a gap. The first gap counts. -/
def rowsOf (fault : String → Fault) (cs : List RuleCells) : Except Fault (List RuleRow) :=
  (cs.mapM RuleCells.row).mapError fun g => fault g.text

/-- The rule of the first row, which must be there. -/
def firstRule (id : RuleId) : List RuleCells → Except Fault Rule
  | c :: _ => ruleOf (failedToRule "insert rule" id) c
  | [] => .error (failedToRule "insert rule" id noRow)

/-- Stores a rule that is not stored yet (`PostgresRuleRepository.insert_rule`). -/
def insertRule (r : Rule) : WirePlan (Except Fault Rule) := do
  match ← ruleRows (.insertRule r) with
  | .ok cs => return firstRule r.id cs
  | .error e =>
    if e.code = duplicateKey then return .error r.id.alreadyStored
    else return .error (failedToRule "insert rule" r.id e.text)

def updateRule (r : Rule) : WirePlan (Except Fault Rule) := do
  match ← ruleRows (.updateRule r) with
  | .ok (c :: _) => return ruleOf (failedToRule "update rule" r.id) c
  | .ok [] => return .error r.id.notStored
  | .error e => return .error (failedToRule "update rule" r.id e.text)

def findRule (id : RuleId) : WirePlan (Except Fault (Option Rule)) := do
  match ← ruleRows (.findRule id) with
  | .ok (c :: _) => return (ruleOf (failedToRule "find rule" id) c).map some
  | .ok [] => return .ok none
  | .error e => return .error (failedToRule "find rule" id e.text)

/-- Every stored rule (`PostgresRuleRepository.list_rules`). One that cannot be loaded makes the
listing fail. -/
def listRules : WirePlan (Except Fault (List Rule)) := do
  match ← ruleRows .listRules with
  | .ok cs => return (rowsOf (failedTo "list rules") cs).bind (·.mapM RuleRow.rule)
  | .error e => return .error (failedTo "list rules" e.text)

/-- The record of every stored rule that is active (`PostgresRuleRepository.list_active_rules`). -/
def listActive : WirePlan (Except Fault (List Record)) := do
  match ← ruleRows .listActive with
  | .ok cs => return (rowsOf (failedTo "list active rules") cs).map (·.map RuleRow.record)
  | .error e => return .error (failedTo "list active rules" e.text)

def deleteRule (id : RuleId) : WirePlan (Except Fault Unit) := do
  match ← change (.deleteRule id) with
  | .ok 0 => return .error id.notStored
  | .ok _ => return .ok ()
  | .error e => return .error (failedToRule "delete rule" id e.text)

def appendEntry (e : Audit.NewEntry) : WirePlan (Except Fault Audit.Entry) := do
  let entryId ← freshId
  let entry : Audit.Entry := { e with entryId }
  match ← change (.appendEntry entry) with
  | .ok _ => return .ok entry
  | .error r =>
    if r.code = missingTarget then return .error e.ruleId.notStored
    else return .error (failedToRule "append audit entry for rule" e.ruleId r.text)

def onlyNumber : Except Refusal (List (Option Int)) → Except String Int
  | .ok (n :: _) => (filled (.atPlace 0) n).mapError Gap.text
  | .ok [] => .error noRow
  | .error e => .error e.text

def listEntries (q : Audit.Query) : WirePlan (Except Fault Audit.Page) := do
  match onlyNumber (← numbers (.countEntries q)) with
  | .error reason => return .error (failedTo "count audit entries" reason)
  | .ok total =>
    match ← entryRows (.pageOfEntries q) with
    | .ok cs =>
      match cs.mapM EntryCells.entry with
      | .ok entries => return .ok ⟨entries, total.toNat⟩
      | .error g => return .error (failedTo "list audit entries" g.text)
    | .error e => return .error (failedTo "list audit entries" e.text)

end PeerRules.Table
