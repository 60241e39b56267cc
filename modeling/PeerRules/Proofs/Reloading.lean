import PeerRules.Proofs.Persistence

/-!
# What is accepted and what is loaded

An action is checked in two places. Before it is written, `Action.validate` asks for its name; when
it is loaded, `Action.ofValue` asks for the time of a ban, too, which must be at least one second.
An action that comes from a document has been loaded and meets both. One that is built by hand has
met the first check alone, and between the two checks lies a single action, a ban for no time: it
is accepted, it is written, and its row is taken for corrupt ever after.

* `Action.loads_iff`: which actions are loaded from their stored form.
* `Table.loadedBack_iff`: which rules are loaded from the rows that they are written into.
* `Table.accepted_loaded_iff`: among the actions and the rules that are accepted.
* `Table.zero_ban_accepted`: the action in the gap, and a rule with it.
-/
namespace PeerRules

open Json

namespace Action

/-- A ban for no time, which is not the same as a ban for the usual time. -/
def zeroBan : Action := .ban (some 0)

def zeroBanFault : Fault :=
  .validation "ban action banTime must be a positive integer number of seconds, got 0"

theorem ofValue_zeroBan : ofValue zeroBan.toValue = .error zeroBanFault := by
  have hload : ofValue zeroBan.toValue = .error (.validation
      ("ban action banTime must be a positive integer number of seconds, got "
        ++ (Value.ofNat 0).text)) := rfl
  have htext : (Value.ofNat 0).text = "0" := by decide +kernel
  rw [hload, htext]
  rfl

theorem storable_iff_of_validate {a : Action} (h : a.validate = .ok ()) :
    a.Storable ↔ a ≠ zeroBan := by
  cases a with
  | ban time =>
    cases time with
    | none => simp [Storable, zeroBan]
    | some seconds =>
      simp [Storable, zeroBan, Nat.pos_iff_ne_zero, ← UInt64.toNat_inj]
  | disconnect => simp [Storable, zeroBan]
  | unsupported n => cases h

/-- What is loaded from the stored form need not be the action: one that is not known might be
called like one that is. But nothing is refused, other than a ban for no time. -/
theorem loads_iff (a : Action) : (∃ b, ofValue a.toValue = .ok b) ↔ a ≠ zeroBan := by
  constructor
  · rintro ⟨b, hb⟩ rfl
    cases hb.symm.trans ofValue_zeroBan
  · intro hzero
    cases a with
    | unsupported n =>
      by_cases hban : n = "ban"
      · subst hban
        exact ⟨.ban none, rfl⟩
      · by_cases hdisconnect : n = "disconnect"
        · subst hdisconnect
          exact ⟨.disconnect, rfl⟩
        · exact ⟨_, ofValue_toValue_unsupported hban hdisconnect⟩
    | ban | disconnect =>
      exact ⟨_, (ofValue_toValue_iff _).2 ((storable_iff_of_validate rfl).2 hzero)⟩

end Action

namespace Table

variable {r : Rule}

/-! ## Rows -/

/-- Every row that the rule is written into is loaded, whatever times the database gives it. -/
def LoadedBack (r : Rule) : Prop :=
  ∀ s, Writes r s → ∀ createdAt updatedAt, ∃ row loaded,
    (s.cells createdAt updatedAt).row = .ok row ∧ row.rule = .ok loaded

/-- Every row that the rule is written into is taken for corrupt, for its action. -/
def TakenForCorrupt (r : Rule) : Prop :=
  ∀ s, Writes r s → ∀ createdAt updatedAt, ∃ row,
    (s.cells createdAt updatedAt).row = .ok row ∧
      row.record.decoded = .error (corrupt "actions" r.id Action.zeroBanFault)

theorem row_of_writes {s : Statement} (h : Writes r s) (createdAt updatedAt : Instant) :
    (s.cells createdAt updatedAt).row = .ok (RuleRow.ofRule r createdAt updatedAt) := by
  rw [Statement.cells_of_writes h, row_of_columns]

theorem writes_insertRule (r : Rule) : Writes r (.insertRule r) := by
  have hruns : (insertRule r).Runs
      [⟨.ruleRows (.insertRule r), (.ok [] : Except Refusal (List RuleCells))⟩]
      (.error (failedToRule "insert rule" r.id noRow)) := .call _ (.done _)
  exact .insertion hruns List.mem_cons_self

/-- The conditions and the name of a rule are loaded from every row that it is written into, so it
is the action that decides. -/
theorem rule_ofRule_isOk_iff (r : Rule) (createdAt updatedAt : Instant) :
    (∃ loaded, (RuleRow.ofRule r createdAt updatedAt).rule = .ok loaded) ↔
      r.action ≠ Action.zeroBan := by
  rw [← Action.loads_iff]
  constructor
  · rintro ⟨loaded, h⟩
    obtain ⟨c, a, name, -, ha, -⟩ := RuleRow.rule_eq_ok_iff.1 h
    exact ⟨a, ha⟩
  · rintro ⟨a, ha⟩
    have hname : Name.ofText r.name.text = .ok r.name := (Name.ofText_eq_ok_iff _ _).2 rfl
    exact ⟨_, RuleRow.rule_eq_ok_iff.2 ⟨_, a, r.name, rfl, ha, hname, rfl⟩⟩

theorem rule_ofRule_zeroBan (h : r.action = Action.zeroBan) (createdAt updatedAt : Instant) :
    (RuleRow.ofRule r createdAt updatedAt).rule =
      .error (corrupt "actions" r.id Action.zeroBanFault) := by
  have haction : Action.ofValue (RuleRow.ofRule r createdAt updatedAt).actions =
      .error Action.zeroBanFault := (congrArg (Action.ofValue ·.toValue) h).trans
        Action.ofValue_zeroBan
  rw [RuleRow.rule, haction]
  rfl

/-- **What is loaded back.** A rule is loaded from every row that it is written into, unless its
action is a ban for no time. -/
theorem loadedBack_iff (r : Rule) : LoadedBack r ↔ r.action ≠ Action.zeroBan := by
  constructor
  · intro h
    obtain ⟨row, loaded, hrow, hloaded⟩ := h _ (writes_insertRule r) ⟨0⟩ ⟨0⟩
    cases (row_of_writes (writes_insertRule r) ⟨0⟩ ⟨0⟩).symm.trans hrow
    exact (rule_ofRule_isOk_iff r ⟨0⟩ ⟨0⟩).1 ⟨loaded, hloaded⟩
  · intro h s hs createdAt updatedAt
    obtain ⟨loaded, hloaded⟩ := (rule_ofRule_isOk_iff r createdAt updatedAt).2 h
    exact ⟨_, loaded, row_of_writes hs createdAt updatedAt, hloaded⟩

theorem takenForCorrupt_of_zeroBan (h : r.action = Action.zeroBan) : TakenForCorrupt r :=
  fun _ hs createdAt updatedAt =>
    ⟨_, row_of_writes hs createdAt updatedAt, rule_ofRule_zeroBan h createdAt updatedAt⟩

/-- The same of a rule whose action is known. -/
theorem loaded_by_action {a : Action} (h : r.action = a) :
    (LoadedBack r ↔ a ≠ Action.zeroBan) ∧ (a = Action.zeroBan → TakenForCorrupt r) := by
  subst h
  exact ⟨loadedBack_iff r, takenForCorrupt_of_zeroBan⟩

/-! ## What is accepted -/

/-- **Accepted and loaded again.** An action that is accepted is loaded again as it was, unless it
is a ban for no time. A rule that is accepted with an action, given when it is made, or given or kept
when it is updated, is loaded from every row that it is written into, unless the action is that one;
then every such row is taken for corrupt. -/
theorem accepted_loaded_iff (a : Action) :
    (a.validate = .ok () → (Action.ofValue a.toValue = .ok a ↔ a ≠ Action.zeroBan)) ∧
    (∀ id now (d : Rule.Draft) r, d.action = a → Rule.make id now d = .ok r →
      (LoadedBack r ↔ a ≠ Action.zeroBan) ∧ (a = Action.zeroBan → TakenForCorrupt r)) ∧
    ∀ (old : Rule) (u : Rule.Update) now r, u.action.getD old.action = a →
      old.apply u now = .ok r →
        (LoadedBack r ↔ a ≠ Action.zeroBan) ∧ (a = Action.zeroBan → TakenForCorrupt r) := by
  refine ⟨fun ha => ?_, fun id now d r hd hr => ?_, fun old u now r hu hr => ?_⟩
  · rw [Action.ofValue_toValue_iff, Action.storable_iff_of_validate ha]
  · obtain ⟨-, -, name, -, rfl⟩ := Rule.Submission.make_eq_ok_iff.1 hr
    exact loaded_by_action hd
  · obtain ⟨-, -, name, -, rfl⟩ := Rule.Amendment.apply_eq_ok_iff.1 hr
    exact loaded_by_action hu

/-! ### Rules by hand -/

/-- A rule for every peer, before its name has been looked at. -/
def draftOf (a : Action) : Rule.Draft := ⟨"Slow", none, Conditions.none, a, true⟩

def ruleOfDraft (a : Action) : Rule where
  id := .ofNat 6
  name := ⟨"Slow", by decide +kernel⟩
  description := none
  conditions := Conditions.none
  action := a
  isActive := true
  createdAt := ⟨0⟩
  updatedAt := ⟨0⟩

def updateTo (a : Action) : Rule.Update := ⟨none, none, none, some a, none⟩

theorem make_draftOf_ban (time : Option UInt64) :
    Rule.make (.ofNat 6) ⟨0⟩ (draftOf (.ban time)) = .ok (ruleOfDraft (.ban time)) :=
  Rule.Submission.make_eq_ok_iff.2 ⟨rfl, rfl, (ruleOfDraft (.ban time)).name, rfl, rfl⟩

theorem apply_updateTo_ban (a : Action) (time : Option UInt64) :
    (ruleOfDraft a).apply (updateTo (.ban time)) ⟨0⟩ = .ok (ruleOfDraft (.ban time)) :=
  Rule.Amendment.apply_eq_ok_iff.2 ⟨rfl, rfl, (ruleOfDraft a).name, rfl, rfl⟩

theorem accepted_loaded_iff_hour :
    Action.validate (.ban (some 3600)) = .ok () ∧
      Action.ofValue (Action.toValue (.ban (some 3600))) = .ok (.ban (some 3600)) ∧
      Rule.make (.ofNat 6) ⟨0⟩ (draftOf (.ban (some 3600))) =
        .ok (ruleOfDraft (.ban (some 3600))) ∧
      (ruleOfDraft .disconnect).apply (updateTo (.ban (some 3600))) ⟨0⟩ =
        .ok (ruleOfDraft (.ban (some 3600))) ∧
      LoadedBack (ruleOfDraft (.ban (some 3600))) ∧
      Rule.make (.ofNat 6) ⟨0⟩ (draftOf Action.zeroBan) = .ok (ruleOfDraft Action.zeroBan) ∧
      TakenForCorrupt (ruleOfDraft Action.zeroBan) := by
  have hhour : Action.ban (some 3600) ≠ Action.zeroBan := by decide
  have hmake := make_draftOf_ban (some 3600)
  have hupdate := apply_updateTo_ban .disconnect (some 3600)
  have hzero := make_draftOf_ban (some 0)
  -- one that meets both checks, and the one that meets the first alone
  obtain ⟨haction, -, hupdated⟩ := accepted_loaded_iff (.ban (some 3600))
  obtain ⟨-, hmade, -⟩ := accepted_loaded_iff Action.zeroBan
  exact ⟨rfl, (haction rfl).2 hhour, hmake, hupdate, (hupdated _ _ _ _ rfl hupdate).1.2 hhour,
    hzero, (hmade _ _ _ _ rfl hzero).2 rfl⟩

/-- A ban for no time is accepted, by itself, in a rule that is made and in one that is updated,
and is not loaded again. -/
theorem zero_ban_accepted :
    (¬∀ a : Action, a.validate = .ok () → Action.ofValue a.toValue = .ok a) ∧
    (¬∀ id now d r, Rule.make id now d = .ok r → LoadedBack r) ∧
    ¬∀ (old : Rule) u now r, old.apply u now = .ok r → LoadedBack r := by
  have hlost : ¬LoadedBack (ruleOfDraft Action.zeroBan) := fun h => (loadedBack_iff _).1 h rfl
  refine ⟨fun h => ?_, fun h => ?_, fun h => ?_⟩
  · cases Action.ofValue_zeroBan.symm.trans (h Action.zeroBan rfl)
  · exact hlost (h _ _ _ _ (make_draftOf_ban (some 0)))
  · exact hlost (h _ _ _ _ (apply_updateTo_ban .disconnect (some 0)))

end Table

end PeerRules
