import PeerRules.Proofs.Calls
import PeerRules.Worker.Parties

/-!
# Carrying out calls

A worker carries out a plan of calls by exchanges with its parties. What it can exchange, and what
comes of it, is said in two parts: the plan makes some calls with some replies, and behind each of
these calls there are the exchanges by which its party came to the reply (`Carries`).

* `Parties.runs_answer_iff`: the exchanges of a plan, by induction over the plan.
* `Parties.runs_perform_iff`: the same for a worker that starts with nothing in memory.
-/
namespace PeerRules

namespace Plan

variable {P : Signature} {α β : Type}

end Plan

namespace Worker

open Plan

variable {α : Type} {m m' : Memory} {es : List (Exchange Call.signature)}
  {xs ys : List (Exchange Wire.Call.signature)}

/-- Exchanges that leave the memory alone do so. -/
theorem MemoryPlan.runs_ofWire_iff {w : WirePlan α} {a : α} :
    (ofWire w m).Runs xs (a, m') ↔ w.Runs xs a ∧ m' = m := by
  unfold ofWire
  rw [runs_bind_iff]
  constructor
  · intro h
    obtain ⟨front, back, b, rfl, hw, hdone⟩ := h
    obtain ⟨rfl, hpair⟩ := runs_done_iff.1 hdone
    obtain ⟨rfl, rfl⟩ := Prod.mk.inj hpair
    rw [List.append_nil]
    exact ⟨hw, rfl⟩
  · intro h
    obtain ⟨hw, rfl⟩ := h
    exact ⟨xs, [], a, (List.append_nil xs).symm, hw, .done _⟩

namespace Parties

variable {p : Parties}

/-- The exchanges that stand behind calls with these replies, with the memory before and after. -/
inductive Carries (p : Parties) : List (Exchange Call.signature) → Memory →
    List (Exchange Wire.Call.signature) → Memory → Prop where
  | nil (m : Memory) : Carries p [] m [] m
  | cons {c : Call} {r : c.Reply} {es : List (Exchange Call.signature)} {m m' m'' : Memory}
      {xs ys : List (Exchange Wire.Call.signature)} (h : (p.answer c m).Runs xs (r, m'))
      (hrest : Carries p es m' ys m'') : Carries p (⟨c, r⟩ :: es) m (xs ++ ys) m''

theorem carries_nil_iff : p.Carries [] m ys m' ↔ ys = [] ∧ m' = m := by
  constructor
  · intro h
    cases h
    exact ⟨rfl, rfl⟩
  · intro h
    obtain ⟨rfl, rfl⟩ := h
    exact .nil _

theorem carries_cons_iff {c : Call} {r : c.Reply} : p.Carries (⟨c, r⟩ :: es) m ys m' ↔
    ∃ front back next, ys = front ++ back ∧ (p.answer c m).Runs front (r, next) ∧
      p.Carries es next back m' := by
  constructor
  · intro h
    cases h with
    | cons h hrest => exact ⟨_, _, _, rfl, h, hrest⟩
  · intro h
    obtain ⟨front, back, next, rfl, h, hrest⟩ := h
    exact .cons h hrest

/-- Calls that are carried out by exchanges with the database alone leave the memory as it is. -/
theorem carries_cons_ofWire_iff {c : Call} {r : c.Reply} {w : WirePlan c.Reply}
    (hw : p.answer c = MemoryPlan.ofWire w) : p.Carries (⟨c, r⟩ :: es) m ys m' ↔
      ∃ front back, ys = front ++ back ∧ w.Runs front r ∧ p.Carries es m back m' := by
  rw [carries_cons_iff, hw]
  constructor
  · intro h
    obtain ⟨front, back, next, rfl, hfront, hback⟩ := h
    obtain ⟨hruns, rfl⟩ := MemoryPlan.runs_ofWire_iff.1 hfront
    exact ⟨front, back, rfl, hruns, hback⟩
  · intro h
    obtain ⟨front, back, rfl, hruns, hback⟩ := h
    exact ⟨front, back, m, rfl, MemoryPlan.runs_ofWire_iff.2 ⟨hruns, rfl⟩, hback⟩

/-- **The exchanges of a plan.** They are those behind its calls, one call after another. -/
theorem runs_answer_iff {plan : RulesPlan α} {a : α} :
    (plan.answer p.answer m).Runs ys (a, m') ↔ ∃ es, plan.Runs es a ∧ p.Carries es m ys m' := by
  induction plan generalizing m ys with
  | done b =>
    constructor
    · intro h
      obtain ⟨rfl, hpair⟩ := runs_done_iff.1 h
      obtain ⟨rfl, rfl⟩ := Prod.mk.inj hpair
      exact ⟨[], .done b, .nil _⟩
    · intro h
      obtain ⟨es, hplan, hcarries⟩ := h
      obtain ⟨rfl, rfl⟩ := runs_done_iff.1 hplan
      obtain ⟨rfl, rfl⟩ := carries_nil_iff.1 hcarries
      exact .done _
  | call c next ih =>
    change ((p.answer c m).bind fun s => (next s.1).answer p.answer s.2).Runs ys (a, m') ↔ _
    rw [runs_bind_iff]
    constructor
    · intro h
      obtain ⟨front, back, ⟨r, n⟩, rfl, hfront, hback⟩ := h
      obtain ⟨es, hplan, hcarries⟩ := (ih r).1 hback
      exact ⟨⟨c, r⟩ :: es, runs_call_iff.2 ⟨r, es, rfl, hplan⟩, .cons hfront hcarries⟩
    · intro h
      obtain ⟨es, hplan, hcarries⟩ := h
      obtain ⟨r, rest, rfl, hrest⟩ := runs_call_iff.1 hplan
      obtain ⟨front, back, n, rfl, hfront, hback⟩ := carries_cons_iff.1 hcarries
      exact ⟨front, back, (r, n), rfl, hfront, (ih r).2 ⟨rest, hrest, hback⟩⟩

/-- What a worker exchanges when it carries out a plan, and what comes of it. -/
theorem runs_perform_iff {plan : RulesPlan α} {a : α} : (p.perform plan).Runs ys a ↔
    ∃ es m', plan.Runs es a ∧ p.Carries es Memory.empty ys m' := by
  unfold perform
  rw [runs_bind_iff]
  constructor
  · intro h
    obtain ⟨front, back, ⟨b, m'⟩, rfl, hfront, hdone⟩ := h
    obtain ⟨rfl, rfl⟩ := runs_done_iff.1 hdone
    obtain ⟨es, hplan, hcarries⟩ := runs_answer_iff.1 hfront
    rw [List.append_nil]
    exact ⟨es, m', hplan, hcarries⟩
  · intro h
    obtain ⟨es, m', hplan, hcarries⟩ := h
    exact ⟨ys, [], (a, m'), (List.append_nil ys).symm, runs_answer_iff.2 ⟨es, hplan, hcarries⟩,
      .done _⟩

/-- A plan whose first call is carried out by exchanges alone. -/
theorem perform_call {c : Call} {w : WirePlan c.Reply} (hw : p.answer c = MemoryPlan.ofWire w)
    (next : c.Reply → RulesPlan α) :
    p.perform (Plan.call (P := Call.signature) c next) = w.bind fun r => p.perform (next r) := by
  change (((p.answer c Memory.empty).bind fun s => (next s.1).answer p.answer s.2).bind
    fun s => Plan.done s.1) = _
  rw [hw]
  unfold MemoryPlan.ofWire
  rw [Plan.bind_assoc, Plan.bind_assoc]
  rfl

/-! ## Parties with a database -/

theorem stored_of_isPersistent (hp : p.isPersistent = true) (table : WirePlan α)
    (memory : MemoryPlan α) : p.stored table memory = MemoryPlan.ofWire table := by
  unfold stored
  rw [if_pos hp]

theorem answer_findRule (hp : p.isPersistent = true) (id : RuleId) :
    p.answer (.findRule id) = MemoryPlan.ofWire (Table.findRule id) :=
  stored_of_isPersistent hp _ _

theorem answer_updateRule (hp : p.isPersistent = true) (r : Rule) :
    p.answer (.updateRule r) = MemoryPlan.ofWire (Table.updateRule r) :=
  stored_of_isPersistent hp _ _

theorem answer_listRules (hp : p.isPersistent = true) :
    p.answer .listRules = MemoryPlan.ofWire Table.listRules := stored_of_isPersistent hp _ _

end Parties

end Worker

end PeerRules
