import PeerRules.Instant
import PeerRules.Json.Value
import PeerRules.RuleId.Basic

/-!
# The audit log

One entry for every peer to which a rule's action was applied: the rule, the moment, the peer's
attributes then, the action and its result. Entries are never changed. They are read in pages,
newest first.

* `Query.limit_pos`, `Query.limit_le`: a page has at least one place and at most 500.
-/
namespace PeerRules.Audit

/-- An entry that is about to be appended (`NewRuleAuditEntry`). -/
structure NewEntry where
  ruleId : RuleId
  triggeredAt : Instant
  peerSnapshot : Json.Value
  actionTaken : String
  result : String

/-- Entries are identified as rules are, by 128 bits. -/
abbrev EntryId := RuleId

/-- A stored entry, with the identifier that the store gave it (`RuleAuditEntry`). -/
structure Entry extends NewEntry where
  entryId : EntryId

/-- Which entries to list (`RuleAuditQuery`). -/
structure Query where
  ruleId : Option RuleId
  pageSize : Option Nat
  skip : Option Nat

namespace Query

def defaultLimit : Nat := 50

def maxLimit : Nat := 500

/-- The page size in effect (`effective_limit`). -/
def limit (q : Query) : Nat := max 1 (min (q.pageSize.getD defaultLimit) maxLimit)

def offset (q : Query) : Nat := q.skip.getD 0

theorem limit_pos (q : Query) : 1 ≤ q.limit := Nat.le_max_left _ _

theorem limit_le (q : Query) : q.limit ≤ 500 :=
  Nat.max_le.2 ⟨by decide, Nat.min_le_right _ _⟩

end Query

/-- One page, with the number of entries that match in all (`RuleAuditPage`). -/
structure Page where
  entries : List Entry
  total : Nat

end PeerRules.Audit
