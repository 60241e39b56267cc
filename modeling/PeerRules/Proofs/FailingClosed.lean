import PeerRules.Proofs.Persistence
import PeerRules.Proofs.Turns

/-!
# Rules from before

A row may have been written when there were other operators and other actions. It is loaded all the
same, and what is not known in it does no harm: a comparison that is not known fails, so that its
clause fails, whatever else the clause asks and whatever the other clauses are, and the rule meets
no peer. An action that is not known gives no order; that it was due is in the audit log, once for
every peer that meets the conditions.

* `Conditions.meets_of_unknown`: a comparison that is not known lets no peer through.
* `Run.runs_of_unmet`: a rule that meets no peer asks for the peers at most.
* `Run.runs_unsupported`: a run with an action that is not known only writes to the audit log.
* `Run.unknown_parts_harmless`: both, said of the documents in the row.
-/
namespace PeerRules

open Json Dispatch

/-! ## Operators that are not known -/

namespace Condition

theorem Operator.ofName?_eq_none_iff {name : String} :
    ofName? name = Option.none ↔ ∀ o : Operator, o.name ≠ name := by
  unfold ofName?
  rw [List.find?_eq_none]
  constructor
  · intro h o
    simpa using h o (mem_all o)
  · intro h o _
    simpa using h o

/-- A clause with a comparison that is not known fails, also at a peer that lacks the attribute. -/
theorem Clause.holds_of_unknown {f : Clause} {list : List Comparison} {name : String}
    {operand : Value} (hspec : f.spec = .comparisons list) (hmem : .unknown name operand ∈ list)
    (p : Peer) : f.holds p = false := by
  unfold Clause.holds
  cases p.attributeAt f.path with
  | none => rfl
  | some v =>
    have hall : list.all (Comparison.holds v) = false :=
      List.all_eq_false.2 ⟨_, hmem, by simp [Comparison.holds]⟩
    simp [hspec, Spec.holds, hall]

end Condition

namespace Conditions

open Condition

/-- The document has an operator object with an operator that nobody knows. -/
def HasUnknown (v : Value) : Prop :=
  ∃ members path operators name operand, v = .object members ∧
    (path, .object operators) ∈ members ∧ (name, operand) ∈ operators ∧
    ∀ o : Operator, o.name ≠ name

theorem unknown_of_ofValue {v : Value} {c : Conditions} (h : ofValue v = .ok c)
    (hv : HasUnknown v) : ∃ f ∈ c.clauses, ∃ list name operand, f.spec = .comparisons list ∧
      Comparison.unknown name operand ∈ list := by
  obtain ⟨members, path, operators, name, operand, rfl, hclause, hmember, hunknown⟩ := hv
  have hc : c = ⟨members.map fun m => ⟨m.1, Spec.ofValue m.2⟩⟩ := (Except.ok.inj h).symm
  subst hc
  refine ⟨⟨path, Spec.ofValue (.object operators)⟩, List.mem_map.2 ⟨_, hclause, rfl⟩,
    operators.map Comparison.ofMember, name, operand, rfl, List.mem_map.2 ⟨_, hmember, ?_⟩⟩
  have hnone : Operator.ofName? name = Option.none := Operator.ofName?_eq_none_iff.2 hunknown
  simp [Comparison.ofMember, hnone]

theorem meets_of_unknown {v : Value} {c : Conditions} (h : ofValue v = .ok c)
    (hv : HasUnknown v) (p : Peer) : c.meets p = false := by
  obtain ⟨f, hf, list, name, operand, hspec, hmem⟩ := unknown_of_ofValue h hv
  have hfails : f.holds p = false := Clause.holds_of_unknown hspec hmem p
  unfold meets
  rw [List.all_eq_false]
  exact ⟨f, hf, by simp [hfails]⟩

end Conditions

/-! ## Actions that are not known -/

namespace Action

/-- The document names an action that nobody knows, whatever else it has. -/
def NamesUnknown (v : Value) (name : String) : Prop :=
  ∃ members, v = .object members ∧ Members.find? "action" members = some (.string name) ∧
    name ≠ "ban" ∧ name ≠ "disconnect"

theorem ofValue_eq_unsupported_iff {v : Value} {name : String} :
    ofValue v = .ok (.unsupported name) ↔ NamesUnknown v name := by
  constructor
  · intro h
    unfold ofValue at h
    split at h
    · next members =>
      split at h
      · next n hn =>
        unfold ofName at h
        split at h
        · cases hb : parseBanTime (Members.find? "banTime" members) with
          | error f => rw [hb] at h; cases h
          | ok seconds => rw [hb] at h; cases h
        · split at h
          · cases h
          · next hban hdisconnect =>
            cases h
            exact ⟨members, rfl, hn, hban, hdisconnect⟩
      · cases h
    · cases h
  · rintro ⟨members, rfl, hname, hban, hdisconnect⟩
    simp [ofValue, hname, ofName, hban, hdisconnect]

end Action

theorem Dispatch.toNode_unsupported (limitMs : Nat) (p : Peer) (name : String) :
    toNode limitMs p (.unsupported name) = .done (.ok (.failed ("Unknown action: " ++ name))) := rfl

/-! ## Runs -/

namespace Run

variable {dispatcher : Dispatcher} {r : Rule} {es : List (Exchange Call.signature)}
  {result : Except Fault Summary} {limitMs : Nat}

/-- The peers cannot be listed, which is all that the run calls, and it fails with that. -/
def FailsAtListing (es : List (Exchange Call.signature)) (result : Except Fault Summary) : Prop :=
  ∃ f, es = [listing (.error f)] ∧ result = .error f

/-- The three ways of a run: the rule is not active, the peers cannot be listed, or every peer that
meets the conditions has its turn. -/
theorem runs_plan_cases (h : (plan dispatcher r).Runs es result) :
    (r.isActive = false ∧ es = [] ∧ result = .ok (skipped r)) ∨
    FailsAtListing es result ∨
    ∃ peers ts, ts.map Turn.peer = targets r peers ∧
      (∀ t ∈ ts, (dispatcher t.peer r.action).Runs t.work t.dispatched) ∧
      es = script r peers ts ∧ result = .ok (tally r ts) := by
  cases ha : r.isActive with
  | false =>
    rw [inactive_makes_no_call ha] at h
    have hdone : es = [] ∧ Except.ok (skipped r) = result := Plan.runs_done_iff.1 h
    exact .inl ⟨rfl, hdone.1, hdone.2.symm⟩
  | true => exact .inr ((runs_plan_iff ha).1 h)

theorem targets_of_unmet (hmeets : ∀ p, r.conditions.meets p = false) (peers : List Peer) :
    targets r peers = [] := by
  simp [targets, hmeets]

/-- A rule that meets no peer asks for the peers at most: nothing is applied and nothing written,
whoever would apply its action. -/
theorem runs_of_unmet (hmeets : ∀ p, r.conditions.meets p = false)
    (h : (plan dispatcher r).Runs es result) :
    (∀ e ∈ portCalls es, e.call = .listPeers) ∧
      (FailsAtListing es result ∨
        ∃ s, result = .ok s ∧ s.matched = 0 ∧ s.executed = 0) := by
  rcases runs_plan_cases h with ⟨-, hes, hr⟩ | ⟨f, hes, hr⟩ | ⟨peers, ts, hp, -, hes, hr⟩
  · subst hes
    exact ⟨fun e he => absurd he (by simp [portCalls]), .inr ⟨_, hr, rfl, rfl⟩⟩
  · subst hes
    refine ⟨fun e he => ?_, .inl ⟨f, rfl, hr⟩⟩
    have he' : e = listing (.error f) := List.mem_singleton.1 he
    rw [he']
    rfl
  · have hts : ts = [] := by
      rw [targets_of_unmet hmeets] at hp
      exact List.map_eq_nil_iff.1 hp
    subst hts
    refine ⟨fun e he => ?_, .inr ⟨_, hr, rfl, rfl⟩⟩
    rw [hes, portCalls_script (by simp)] at he
    have he' : e = listing (.ok peers) := by simpa using he
    rw [he']
    rfl

/-- Applying an action that is not known calls nothing. -/
theorem turn_unsupported {name : String} (ha : r.action = .unsupported name) {t : Turn}
    (h : (toNode limitMs t.peer r.action).Runs t.work t.dispatched) :
    t.work = [] ∧ t.dispatched = .ok (.failed ("Unknown action: " ++ name)) := by
  rw [ha, toNode_unsupported] at h
  obtain ⟨hwork, hdispatched⟩ := Plan.runs_done_iff.1 h
  exact ⟨hwork, hdispatched.symm⟩

/-- Of turns in which applying the action calls nothing, the ports see the appending of the
entries. -/
theorem portCalls_idle {ts : List Turn} (hw : ∀ t ∈ ts, t.work = []) :
    portCalls (ts.flatMap (Turn.exchanges r)) = ts.map (Turn.appending r) := by
  induction ts with
  | nil => rfl
  | cons t ts ih =>
    obtain ⟨hwork, hrest⟩ := List.forall_mem_cons.1 hw
    have hwarning : portCalls (t.warning r) = [] := by
      unfold Turn.warning
      cases t.appended <;> rfl
    have hturn : portCalls (t.exchanges r) = t.appending r :: portCalls (t.warning r) := by
      unfold Turn.exchanges
      rw [hwork]
      rfl
    rw [List.flatMap_cons, portCalls_append, hturn, hwarning, ih hrest]
    rfl

/-- Of a run whose turns call nothing to apply the action, the ports see the listing of the peers
and the appending of the entries. -/
theorem portCalls_script_idle {peers : List Peer} {ts : List Turn} (hw : ∀ t ∈ ts, t.work = []) :
    portCalls (script r peers ts) = listing (.ok peers) :: ts.map (Turn.appending r) := by
  have hrest : portCalls (warnings r peers ++
      (ts.flatMap (Turn.exchanges r) ++ [finished r peers ts])) = ts.map (Turn.appending r) := by
    rw [portCalls_append, portCalls_append, portCalls_warnings, portCalls_idle hw]
    exact List.append_nil _
  exact congrArg (listing (.ok peers) :: ·) hrest

/-- The entry about a peer to which an action was due that is not known. -/
def refusedEntry (r : Rule) (name : String) (t : Turn) : Audit.NewEntry where
  ruleId := r.id
  triggeredAt := t.moment
  peerSnapshot := .object t.peer.attributes
  actionTaken := name
  result := "Unknown action: " ++ name

/-- A run with an action that is not known only asks for the peers and writes to the audit log, once
for every peer that meets the conditions. -/
theorem runs_unsupported {name : String} (ha : r.action = .unsupported name)
    (h : (plan (toNode limitMs) r).Runs es result) :
    (r.isActive = false ∧ es = [] ∧ result = .ok (skipped r)) ∨
    FailsAtListing es result ∨
    ∃ (peers : List Peer) (ts : List Turn) (s : Summary), ts.map Turn.peer = targets r peers ∧
      portCalls es = listing (.ok peers) ::
        ts.map (fun t => ⟨.append (refusedEntry r name t), t.appended⟩) ∧
      result = .ok s ∧ s.matched = (targets r peers).length ∧ s.executed = 0 := by
  rcases runs_plan_cases h with hoff | hfail | ⟨peers, ts, hp, hd, hes, hr⟩
  · exact .inl hoff
  · exact .inr (.inl hfail)
  · have hturns : ∀ t ∈ ts, t.work = [] ∧
        t.dispatched = .ok (.failed ("Unknown action: " ++ name)) :=
      fun t ht => turn_unsupported ha (hd t ht)
    have hentry : ∀ t ∈ ts, t.appending r =
        ⟨.append (refusedEntry r name t), t.appended⟩ := by
      intro t ht
      have htext : t.text = "Unknown action: " ++ name := by
        unfold Turn.text
        rw [(hturns t ht).2]
        rfl
      have hname : r.action.name = name := by rw [ha]; rfl
      unfold Turn.appending Turn.entry refusedEntry
      rw [htext, hname]
    have hports : portCalls es = listing (.ok peers) ::
        ts.map (fun t => ⟨.append (refusedEntry r name t), t.appended⟩) := by
      rw [hes, portCalls_script_idle fun t ht => (hturns t ht).1, List.map_congr_left hentry]
    have hmatched : (tally r ts).matched = (targets r peers).length := by
      rw [tally_matched, ← hp, List.length_map]
    have hexecuted : (tally r ts).executed = 0 := by
      rw [tally_executed, List.countP_eq_zero]
      intro t ht
      simp [Turn.success, (hturns t ht).2, Outcome.failed]
    exact .inr (.inr ⟨peers, ts, tally r ts, hp, hports, hr, hmatched, hexecuted⟩)

/-- **What is not known in a row does no harm.** Take the rule that is loaded from a row.

* If its conditions have an operator that is not known, in whatever clause and beside whatever else,
  it meets no peer of any listing, and a run asks for the peers at most: no action is applied and
  nothing is written to the audit log.
* If its action is not known, a run that gives its orders to the node gives none: it lists the peers
  and appends one entry for every peer that meets the conditions, in order, with the name of the
  action and a text that says that it is not known, and no action counts as executed.

In both cases a run fails only because the peers cannot be listed. -/
theorem unknown_parts_harmless {row : Table.RuleRow} {r : Rule} (h : row.rule = .ok r) :
    (Conditions.HasUnknown row.conditions →
      (∀ peers, targets r peers = []) ∧
      ∀ (dispatcher : Dispatcher) es result, (plan dispatcher r).Runs es result →
        (∀ e ∈ portCalls es, e.call = .listPeers) ∧
        (FailsAtListing es result ∨
          ∃ s, result = .ok s ∧ s.matched = 0 ∧ s.executed = 0)) ∧
    ∀ name, Action.NamesUnknown row.actions name →
      ∀ limitMs es result, (plan (toNode limitMs) r).Runs es result →
        (r.isActive = false ∧ es = [] ∧ result = .ok (skipped r)) ∨
        FailsAtListing es result ∨
        ∃ (peers : List Peer) (ts : List Turn) (s : Summary), ts.map Turn.peer = targets r peers ∧
          portCalls es = listing (.ok peers) ::
            ts.map (fun t => ⟨.append (refusedEntry r name t), t.appended⟩) ∧
          result = .ok s ∧ s.matched = (targets r peers).length ∧ s.executed = 0 := by
  obtain ⟨c, a, n, hc, haction, -, hr⟩ := Table.RuleRow.rule_eq_ok_iff.1 h
  refine ⟨fun hunknown => ?_, fun name hname limitMs es result hruns => ?_⟩
  · have hmeets : ∀ p, r.conditions.meets p = false := by
      rw [hr]
      exact Conditions.meets_of_unknown hc hunknown
    exact ⟨targets_of_unmet hmeets, fun dispatcher es result hruns => runs_of_unmet hmeets hruns⟩
  · have ha : r.action = .unsupported name := by
      rw [Action.ofValue_eq_unsupported_iff.2 hname] at haction
      rw [hr]
      exact (Except.ok.inj haction).symm
    exact runs_unsupported ha hruns

/-- A row whose action is not known any more; its operator is. -/
def quarantineRow : Table.RuleRow :=
  { Table.oldRow with
    conditions := .object [("subver", .object [("startsWith", .string "/old")])] }

def quarantineRule : Rule :=
  { Table.oldRule with
    conditions := ⟨[⟨"subver", .comparisons [.known .startsWith (.string "/old")]⟩]⟩ }

def oldPeer : Peer := ⟨[("id", .string "4"), ("subver", .string "/old:1/")]⟩

/-- The turn of the peer; the entry does not arrive. -/
def quarantineTurn : Turn :=
  ⟨oldPeer, ⟨1⟩, [], .ok (.failed "Unknown action: quarantine"), .error (.internal "full")⟩

theorem unknown_parts_harmless_oldRow :
    Table.oldRow.rule = .ok Table.oldRule ∧ Conditions.HasUnknown Table.oldRow.conditions ∧
      targets Table.oldRule [oldPeer] = [] ∧
      quarantineRow.rule = .ok quarantineRule ∧
      Action.NamesUnknown quarantineRow.actions "quarantine" ∧
      targets quarantineRule [oldPeer] = [oldPeer] ∧
      (plan (toNode 5000) quarantineRule).Runs (script quarantineRule [oldPeer] [quarantineTurn])
        (.ok (tally quarantineRule [quarantineTurn])) ∧
      (tally quarantineRule [quarantineTurn]).executed = 0 := by
  have hold : Table.oldRow.rule = .ok Table.oldRule := by rfl
  have hunknown : Conditions.HasUnknown Table.oldRow.conditions :=
    ⟨_, "pingtime", [("between", .array [.ofNat 1, .ofNat 2])], "between", _, rfl,
      List.mem_cons_self, List.mem_cons_self, by intro o; cases o <;> decide⟩
  have hrow : quarantineRow.rule = .ok quarantineRule := by rfl
  have hname : Action.NamesUnknown quarantineRow.actions "quarantine" :=
    ⟨_, rfl, rfl, by decide, by decide⟩
  have htargets : targets quarantineRule [oldPeer] = [oldPeer] := by rfl
  have hruns : (plan (toNode 5000) quarantineRule).Runs
      (script quarantineRule [oldPeer] [quarantineTurn])
      (.ok (tally quarantineRule [quarantineTurn])) := by
    refine (runs_plan_iff rfl).2 (.inr ⟨[oldPeer], [quarantineTurn], htargets.symm, ?_, rfl, rfl⟩)
    intro t ht
    rw [List.mem_singleton.1 ht]
    exact .done _
  have hfirst := ((unknown_parts_harmless hold).1 hunknown).1 [oldPeer]
  refine ⟨hold, hunknown, hfirst, hrow, hname, htargets, hruns, ?_⟩
  rcases (unknown_parts_harmless hrow).2 "quarantine" hname 5000 _ _ hruns with
    ⟨hoff, -⟩ | ⟨f, -, hr⟩ | ⟨peers, ts, s, -, -, hr, -, hexecuted⟩
  · cases hoff
  · cases hr
  · cases hr
    exact hexecuted

end Run

end PeerRules
