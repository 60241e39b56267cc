import PeerRules.Party
import PeerRules.Call

/-!
# Rules and audit entries in memory

The store keeps rules in the order in which they were inserted, and the audit log with them, so that
a rule that is deleted takes its entries along. It stamps rules with its own times. An operation
that fails leaves the store as it was: it has no new store to give.

* `find?_update`: what was put in the place of another is found.
* `ids_update`: an update moves no rule and adds none.
-/
namespace PeerRules

/-- Rules in the order of their insertion, and entries in the order of their appending
(`InMemoryRuleRepository`). -/
structure Store where
  rules : List Rule
  entries : List Audit.Entry

namespace Store

def empty : Store := ⟨[], []⟩

def find? (s : Store) (id : RuleId) : Option Rule := s.rules.find? (·.id = id)

def contains (s : Store) (id : RuleId) : Bool := s.rules.any (·.id = id)

def ids (s : Store) : List RuleId := s.rules.map (·.id)

/-- Adds a rule behind the others, created now (`InMemoryRuleRepository.insert_rule`). -/
def insert (s : Store) (now : Instant) (r : Rule) : Except Fault (Rule × Store) :=
  if s.contains r.id then .error r.id.alreadyStored
  else
    let stored := r.stamped now now
    .ok (stored, { s with rules := s.rules ++ [stored] })

/-- Puts a rule in the place of the one with its identifier, which keeps its time of creation
(`InMemoryRuleRepository.update_rule`). -/
def update (s : Store) (now : Instant) (r : Rule) : Except Fault (Rule × Store) :=
  match s.find? r.id with
  | none => .error r.id.notStored
  | some old =>
    let stored := r.stamped old.createdAt now
    .ok (stored, { s with rules := s.rules.map fun x => if x.id = r.id then stored else x })

/-- Takes out a rule and its entries (`InMemoryRuleRepository.delete_rule`). -/
def delete (s : Store) (id : RuleId) : Except Fault (Unit × Store) :=
  if s.contains id then
    .ok ((), ⟨s.rules.filter (·.id ≠ id), s.entries.filter (·.ruleId ≠ id)⟩)
  else .error id.notStored

def active (s : Store) : List Record := (s.rules.filter (·.isActive)).map Record.ofRule

/-- Adds an entry behind the others, if its rule is stored (`InMemoryRuleRepository.append_entry`).
-/
def append (s : Store) (id : Audit.EntryId) (e : Audit.NewEntry) :
    Except Fault (Audit.Entry × Store) :=
  if s.contains e.ruleId then
    let stored : Audit.Entry := { e with entryId := id }
    .ok (stored, { s with entries := s.entries ++ [stored] })
  else .error e.ruleId.notStored

/-- The entries that match a query, newest first; of one moment, the last appended first. -/
def matching (s : Store) (q : Audit.Query) : List Audit.Entry :=
  (s.entries.reverse.filter fun e => q.ruleId.all (e.ruleId = ·)).mergeSort
    fun a b => decide (b.triggeredAt ≤ a.triggeredAt)

/-- The page that a query asks for (`InMemoryRuleRepository.list_entries`). -/
def page (s : Store) (q : Audit.Query) : Audit.Page :=
  let found := s.matching q
  ⟨(found.drop q.offset).take q.limit, found.length⟩

/-- The reply to an operation, and the store after it. -/
def kept {α : Type} (s : Store) : Except Fault (α × Store) → Except Fault α × Store
  | .ok (a, t) => (.ok a, t)
  | .error f => (.error f, s)

/-- How a store answers a call. The time and the identifiers are given to it; calls that are not
about rules and entries are answered by others, in any way. -/
def Answers (s : Store) : (c : Call) → c.Reply → Store → Prop
  | .insertRule rule, reply, t => ∃ now, (reply, t) = s.kept (s.insert now rule)
  | .updateRule rule, reply, t => ∃ now, (reply, t) = s.kept (s.update now rule)
  | .deleteRule id, reply, t => (reply, t) = s.kept (s.delete id)
  | .append entry, reply, t => ∃ id, (reply, t) = s.kept (s.append id entry)
  | .findRule id, reply, t => reply = .ok (s.find? id) ∧ t = s
  | .listRules, reply, t => reply = .ok s.rules ∧ t = s
  | .listActive, reply, t => reply = .ok s.active ∧ t = s
  | .listEntries query, reply, t => reply = .ok (s.page query) ∧ t = s
  | _, _, t => t = s

/-- The store as a party: nothing changes it but calls. -/
def party : Party Call.signature Store := ⟨Answers, fun _ _ => False⟩

theorem contains_eq_false_iff (s : Store) (id : RuleId) :
    s.contains id = false ↔ ∀ r ∈ s.rules, r.id ≠ id := by
  simp [contains]

theorem find?_update {s t : Store} {now : Instant} {r stored : Rule}
    (h : s.update now r = .ok (stored, t)) : t.find? r.id = some stored := by
  unfold update at h
  split at h
  · cases h
  · next old hold =>
    cases h
    have hid : old.id = r.id := by simpa using List.find?_some hold
    have hp : ∀ x : Rule, (if x.id = r.id then r.stamped old.createdAt now else x).id = r.id ↔
        x.id = r.id := by
      intro x
      split
      · next hx => exact iff_of_true rfl hx
      · exact Iff.rfl
    simp only [find?, List.find?_map, Function.comp_def, hp]
    rw [show s.rules.find? (fun x => decide (x.id = r.id)) = some old from hold]
    simp [hid]

theorem ids_update {s t : Store} {now : Instant} {r stored : Rule}
    (h : s.update now r = .ok (stored, t)) : t.ids = s.ids := by
  unfold update at h
  split at h
  · cases h
  · cases h
    simp only [ids, List.map_map]
    apply List.map_congr_left
    intro x _
    simp only [Function.comp_apply]
    split
    · next hx => exact hx.symm
    · rfl

end Store

end PeerRules
