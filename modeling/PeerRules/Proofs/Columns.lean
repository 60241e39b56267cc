import PeerRules.Proofs.Amending
import PeerRules.Proofs.Performing
import PeerRules.Proofs.Persistence

/-!
# What an amendment leaves in the columns

An amendment reads a row and writes all of its columns again. A part that it does not name goes
through loading and writing, and comes out as it went in only if it was in the form in which it is
written (`RuleColumns.Settled`). A name and the active flag always are. A description is when it has
no blanks at its ends, conditions are when they are not `null`, and an action is when its document
has nothing but its name and, for a ban, a time: all else in it is lost.

* `Rule.normalize_eq_self_iff`, `Conditions.toValue_eq_iff`, `Action.toValue_eq_iff`: which
  descriptions, conditions and actions come out as they went in.
* `Statement.cell?_updateRule`: what an update puts into a column.
* `Service.amend_statements`: the one statement that follows the reading of a row.
* `Service.unnamed_columns_kept_iff`: which columns it leaves as they were.
-/
namespace PeerRules

open Json

/-! ## What comes out as it went in -/

/-- A text comes out of trimming as it is when it begins and ends with a character that is not
blank. -/
theorem Text.trimmed?_eq_self_iff {text : String} : trimmed? text = some text ↔
    Rule.Submission.BeginsWithText text.toList ∧
      Rule.Submission.BeginsWithText text.toList.reverse := by
  unfold trimmed?
  constructor
  · intro h
    split at h
    · cases h
    · next hblank =>
      have hsaid : Rule.Submission.Says text.toList :=
        (Rule.Submission.says_iff text).2 (by simpa using hblank)
      have htrim : trimList text.toList = text.toList := by
        have hlist := congrArg String.toList (Option.some.inj h)
        simpa [trim] using hlist
      obtain ⟨-, -, -, -, -, hfirst, hlast⟩ := Rule.Submission.trimList_parts hsaid
      rw [htrim] at hfirst hlast
      exact ⟨hfirst, hlast⟩
  · intro h
    obtain ⟨hfirst, hlast⟩ := h
    have hsaid : allBlank text = false := by
      obtain ⟨c, hc, hb⟩ := hfirst
      exact (Rule.Submission.says_iff text).1 ⟨c, List.mem_of_head? hc, hb⟩
    have htrim : trim text = text := by
      unfold trim
      rw [Rule.trimList_of_beginsWithText hfirst hlast, String.ofList_toList]
    rw [hsaid, htrim]
    rfl

/-- A description is in normal form when there is none, or it has no blanks at its ends. -/
theorem Rule.normalize_eq_self_iff {d : Option String} : normalize d = d ↔
    ∀ text, d = some text → Submission.BeginsWithText text.toList ∧
      Submission.BeginsWithText text.toList.reverse := by
  cases d with
  | none => exact iff_of_true rfl (fun text h => by cases h)
  | some text =>
    simp only [Option.some.injEq, forall_eq']
    exact Text.trimmed?_eq_self_iff

theorem Conditions.toValue_eq_iff {v : Value} {c : Conditions} (h : ofValue v = .ok c) :
    c.toValue = v ↔ v ≠ .null := by
  rw [Rule.Submission.toValue_ofValue_eq h]
  cases v with
  | null => exact iff_of_false (fun hv => by cases hv) (fun hv => hv rfl)
  | bool | number | string | array | object => exact iff_of_true rfl (fun hv => by cases hv)

namespace Action

inductive Bare : Value → Prop where
  | named (name : String) : Bare (.object [("action", .string name)])
  | timed (time : Value) (h : time ≠ .null) :
    Bare (.object [("action", .string "ban"), ("banTime", time)])

theorem bare_toValue (a : Action) : Bare a.toValue := by
  cases a with
  | ban time =>
    cases time with
    | none => exact .named "ban"
    | some seconds => exact .timed (.ofNat seconds.toNat) (fun h => by cases h)
  | disconnect => exact .named "disconnect"
  | unsupported name => exact .named name

/-- The time that is loaded with a ban is written as it was given, unless it was given as `null`. -/
theorem ofNat_of_parseBanTime {time : Value} {seconds : Option UInt64} (hnull : time ≠ .null)
    (h : parseBanTime (some time) = .ok seconds) :
    ∃ n, seconds = some n ∧ time = .ofNat n.toNat := by
  cases seconds with
  | none =>
    rcases Rule.Submission.parseBanTime_none_iff.1 h with hnone | hsome
    · cases hnone
    · exact absurd (Option.some.inj hsome) hnull
  | some n =>
    obtain ⟨htime, -⟩ := Rule.Submission.parseBanTime_some_iff.1 h
    exact ⟨n, rfl, Option.some.inj htime⟩

theorem toValue_eq_iff {v : Value} {a : Action} (h : ofValue v = .ok a) :
    a.toValue = v ↔ Bare v := by
  constructor
  · intro hv
    rw [← hv]
    exact bare_toValue a
  · intro hbare
    cases hbare with
    | named name =>
      simp only [ofValue, Members.find?, if_true, ofName] at h
      split at h
      · next hban =>
        subst hban
        cases h
        rfl
      · split at h
        · next hdisconnect =>
          subst hdisconnect
          cases h
          rfl
        · cases h
          rfl
    | timed time hnull =>
      have hload : (parseBanTime (some time)).map Action.ban = .ok a := by
        simpa [ofValue, Members.find?, ofName] using h
      cases htime : parseBanTime (some time) with
      | error f =>
        rw [htime] at hload
        cases hload
      | ok seconds =>
        rw [htime] at hload
        cases hload
        obtain ⟨n, rfl, rfl⟩ := ofNat_of_parseBanTime hnull htime
        rfl

end Action

/-! ## Columns -/

def Rule.Part.column : Rule.Part → String
  | .name => "name"
  | .description => "description"
  | .conditions => "conditions"
  | .actions => "actions"
  | .isActive => "is_active"

namespace Table

open Rule

/-- What the column of a part holds, as it stands at a place of a statement. -/
def RuleColumns.param (c : RuleColumns) : Part → Param
  | .name => .text c.name
  | .description => .ofText? c.description
  | .conditions => .document c.conditions
  | .actions => .document c.actions
  | .isActive => .flag c.isActive

/-- The column of a part holds it in the form in which it is written. -/
def RuleColumns.Settled (c : RuleColumns) : Part → Prop
  | .name | .isActive => True
  | .description => ∀ text, c.description = some text →
    Submission.BeginsWithText text.toList ∧ Submission.BeginsWithText text.toList.reverse
  | .conditions => c.conditions ≠ .null
  | .actions => Action.Bare c.actions

/-- The statement puts into the column of a part what the columns held. -/
def Statement.Keeps (s : Statement) (c : RuleColumns) (part : Part) : Prop :=
  s.cell? part.column = some (c.param part)

theorem Param.ofText?_inj {d e : Option String} : Param.ofText? d = .ofText? e ↔ d = e := by
  constructor
  · intro h
    have htext := congrArg Param.text? h
    rwa [Param.text?_ofText?, Param.text?_ofText?] at htext
  · intro h
    rw [h]

/-- An update puts the parts of the rule into their columns. -/
theorem Statement.cell?_updateRule (r : Rule) (part : Part) :
    (updateRule r).cell? part.column = some ((RuleColumns.ofRule r).param part) := by
  obtain ⟨-, hname, hdescription, hconditions, hactions, hactive⟩ := inOrder_updateRule r
  unfold cell?
  cases part with
  | name => rw [Part.column, hname]; rfl
  | description => rw [Part.column, hdescription]; rfl
  | conditions => rw [Part.column, hconditions]; rfl
  | actions => rw [Part.column, hactions]; rfl
  | isActive => rw [Part.column, hactive]; rfl

/-- What is loaded from a row and written again goes into a column as it was exactly when it was in
the form in which it is written. -/
theorem RuleRow.param_loaded_iff {row : RuleRow} {r : Rule} (h : row.rule = .ok r) (part : Part) :
    (RuleColumns.ofRule r).param part = row.param part ↔ row.Settled part := by
  obtain ⟨c, a, name, hc, ha, hname, rfl⟩ := RuleRow.rule_eq_ok_iff.1 h
  cases part with
  | name =>
    have htext : name.text = row.name := (Name.ofText_eq_ok_iff _ _).1 hname
    exact iff_of_true (congrArg Param.text htext) trivial
  | description => exact Param.ofText?_inj.trans normalize_eq_self_iff
  | conditions =>
    rw [RuleColumns.Settled, ← Conditions.toValue_eq_iff hc]
    exact ⟨Param.document.inj, congrArg Param.document⟩
  | actions =>
    rw [RuleColumns.Settled, ← Action.toValue_eq_iff ha]
    exact ⟨Param.document.inj, congrArg Param.document⟩
  | isActive => exact iff_of_true rfl trivial

/-- Rules that are alike in a part have the same in its column. -/
theorem RuleColumns.param_congr {r s : Rule} {part : Part} (h : r.Alike s part) :
    (ofRule r).param part = (ofRule s).param part := by
  cases part with
  | name => exact congrArg (fun n : Name => Param.text n.text) h
  | description => exact congrArg Param.ofText? h
  | conditions => exact congrArg (fun c : Conditions => Param.document c.toValue) h
  | actions => exact congrArg (fun a : Action => Param.document a.toValue) h
  | isActive => exact congrArg Param.flag h

/-- What is found where the database gives a row. -/
theorem findRule_runs {id : RuleId} {es : List (Exchange Wire.Call.signature)}
    {found : Except Fault (Option Rule)} (h : (findRule id).Runs es found) :
    ∃ reply, es = [⟨.ruleRows (.findRule id), reply⟩] ∧
      ∀ row more, reply = .ok (RuleRow.cells row :: more) → found = row.rule.map some := by
  obtain ⟨reply, rest, rfl, hrest⟩ := Plan.runs_call_iff.1 h
  rcases reply with e | _ | ⟨c, more⟩ <;> obtain ⟨rfl, rfl⟩ := Plan.runs_done_iff.1 hrest
  · exact ⟨_, rfl, fun row more hreply => by cases hreply⟩
  · exact ⟨_, rfl, fun row more hreply => by cases hreply⟩
  · refine ⟨_, rfl, fun row more hreply => ?_⟩
    cases hreply
    rfl

end Table

def Wire.Call.statement? : Wire.Call → Option Table.Statement
  | .ruleRows s | .entryRows s | .numbers s | .change s => some s
  | _ => none

def Wire.statements (es : List (Exchange Call.signature)) : List Table.Statement :=
  es.filterMap fun e => e.call.statement?

/-! ## What an amendment writes -/

namespace Rule.Amendment

/-- Whether an amendment is accepted does not depend on the time. -/
theorem change_at {a : Amendment} {old r : Rule} {now : Instant} (h : a.change old now = .ok r)
    (later : Instant) : a.change old later = .ok { r with updatedAt := later } := by
  obtain ⟨hid, hcreated, -, hrest⟩ := change_eq_ok_iff.1 h
  exact change_eq_ok_iff.2 ⟨hid, hcreated, rfl, hrest⟩

end Rule.Amendment

namespace Service

open Table Worker Wire

variable {p : Parties} {row : RuleRow} {r : Rule} {a : Rule.Amendment} {more : List RuleCells}
  {rest : List (Exchange Wire.Call.signature)} {result : Except Fault Rule}

/-- Where the rule has been read and the amendment is accepted, what it makes of the rule is handed
in. -/
theorem handedIn_of_accepted {id : RuleId} {es : List (Exchange Call.signature)}
    (h : AmendCourse id a (⟨.findRule id, .ok (some r)⟩ :: es) result)
    (ha : ∃ now made, a.change r now = .ok made) :
    ∃ made moment reply, a.change r moment = .ok made ∧
      es = ⟨.now, moment⟩ :: ⟨.updateRule made, reply⟩ :: telling reply := by
  obtain ⟨now, taken, hchange⟩ := ha
  cases h with
  | @unloaded f seen hu =>
    have herror : a.change r now = .error f := by
      unfold Rule.Amendment.change
      rw [hu]
      rfl
    rw [herror] at hchange
    cases hchange
  | refused seen moment hu hm =>
    have hlater := Rule.Amendment.change_at hchange moment
    rw [Rule.Amendment.change_of_update hu, hm] at hlater
    cases hlater
  | @handedIn u made seen moment hu hm =>
    exact ⟨made, moment, result, (Rule.Amendment.change_of_update hu r moment).trans hm, rfl⟩

/-- What is told when a write has been answered is no statement. -/
theorem statements_of_telling {reply : Except Fault Rule} {m m' : Memory}
    (h : p.Carries (telling reply) m rest m') : statements rest = [] := by
  cases reply with
  | error f =>
    obtain ⟨rfl, -⟩ := Parties.carries_nil_iff.1 h
    rfl
  | ok stored =>
    obtain ⟨front, back, rfl, hlog, hback⟩ := (Parties.carries_cons_ofWire_iff rfl).1 h
    obtain rfl := Plan.runs_ask_iff.1 hlog
    obtain ⟨rfl, -⟩ := Parties.carries_nil_iff.1 hback
    rfl

/-- **The statement of an amendment.** When the database has given the row of a rule and the
amendment is accepted on that rule, the database is given exactly one more statement: the update
with what the amendment makes of the rule. -/
theorem amend_statements (hp : p.isPersistent = true) (hrow : row.rule = .ok r)
    (ha : ∃ now made, a.change r now = .ok made)
    (h : (p.perform (amend row.id a)).Runs
      (⟨.ruleRows (.findRule row.id), .ok (row.cells :: more)⟩ :: rest) result) :
    ∃ made moment, a.change r moment = .ok made ∧ statements rest = [.updateRule made] := by
  obtain ⟨es, m', hruns, hcarries⟩ := Parties.runs_perform_iff.1 h
  have hcourse := amend_course hruns
  obtain ⟨found, es', rfl⟩ : ∃ found es', es = ⟨.findRule row.id, found⟩ :: es' := by
    cases hcourse <;> exact ⟨_, _, rfl⟩
  obtain ⟨front, back, hall, hfind, hthen⟩ :=
    (Parties.carries_cons_ofWire_iff (Parties.answer_findRule hp row.id)).1 hcarries
  obtain ⟨reply, rfl, hfound⟩ := findRule_runs hfind
  obtain ⟨hfirst, rfl⟩ := List.cons.inj hall
  cases hfirst
  have hread : found = .ok (some r) := by
    rw [hfound row more rfl, hrow]
    rfl
  subst hread
  obtain ⟨made, moment, reply, hchange, rfl⟩ := handedIn_of_accepted hcourse ha
  obtain ⟨front, others, rfl, hnow, hupdate⟩ := (Parties.carries_cons_ofWire_iff rfl).1 hthen
  obtain rfl := Plan.runs_ask_iff.1 hnow
  obtain ⟨front, last, rfl, hwrite, htell⟩ :=
    (Parties.carries_cons_ofWire_iff (Parties.answer_updateRule hp made)).1 hupdate
  obtain ⟨wire, rfl⟩ := updateRule_runs hwrite
  refine ⟨made, moment, hchange, ?_⟩
  have htold := statements_of_telling htell
  unfold statements at htold ⊢
  rw [List.filterMap_append, List.filterMap_append, htold]
  rfl

/-- **What an amendment leaves in the columns.** When the database has given the row of a rule and
the amendment is accepted on that rule, the database is given exactly one more statement. It puts
into the column of a part that the amendment does not name exactly what the row held there if and
only if the row held it in the form in which it is written. -/
theorem unnamed_columns_kept_iff (hp : p.isPersistent = true) (hrow : row.rule = .ok r)
    (ha : ∃ now made, a.change r now = .ok made)
    (h : (p.perform (amend row.id a)).Runs
      (⟨.ruleRows (.findRule row.id), .ok (row.cells :: more)⟩ :: rest) result) :
    ∃ s, statements rest = [s] ∧
      ∀ part, a.names part = false → (s.Keeps row.toRuleColumns part ↔ row.Settled part) := by
  obtain ⟨made, moment, hchange, hs⟩ := amend_statements hp hrow ha h
  refine ⟨.updateRule made, hs, fun part hpart => ?_⟩
  have halike : made.Alike r part :=
    (Rule.Amendment.makes_of_change hchange).leaves part hpart
  unfold Statement.Keeps
  rw [Statement.cell?_updateRule, RuleColumns.param_congr halike, Option.some.injEq]
  exact RuleRow.param_loaded_iff hrow part

/-- The parties of a worker with a database. -/
def withTables : Parties := ⟨⟨"http://127.0.0.1:8332", none⟩, 10000, true, none⟩

theorem unnamed_columns_kept_iff_oldRow :
    withTables.isPersistent = true ∧ oldRow.rule = .ok oldRule ∧
      (∃ now made, (Rule.Amendment.activation false).change oldRule now = .ok made) ∧
      ∃ s rest, (withTables.perform (amend oldRow.id (.activation false))).Runs
          (⟨.ruleRows (.findRule oldRow.id), .ok [oldRow.cells]⟩ :: rest)
          (.error oldRow.id.notStored) ∧
        statements rest = [s] ∧ s.Keeps oldRow.toRuleColumns .name ∧
        s.Keeps oldRow.toRuleColumns .conditions ∧ ¬ s.Keeps oldRow.toRuleColumns .description := by
  have hrow : oldRow.rule = .ok oldRule := by rfl
  have ha : ∃ now made, (Rule.Amendment.activation false).change oldRule now = .ok made :=
    ⟨⟨9⟩, oldRuleOff, by rfl⟩
  have hruns : (withTables.perform (amend oldRow.id (.activation false))).Runs
      [⟨.ruleRows (.findRule oldRow.id), .ok [oldRow.cells]⟩, ⟨.now, ⟨9⟩⟩,
        ⟨.ruleRows (.updateRule oldRuleOff), .ok []⟩] (.error oldRow.id.notStored) :=
    .call _ <| .call _ <| .call _ <| .done _
  obtain ⟨s, hs, hkeeps⟩ := unnamed_columns_kept_iff rfl hrow ha hruns
  refine ⟨rfl, hrow, ha, s, _, hruns, hs, (hkeeps .name rfl).2 trivial,
    (hkeeps .conditions rfl).2 (fun h => by cases h), fun hdescription => ?_⟩
  obtain ⟨⟨c, hc, hb⟩, -⟩ := (hkeeps .description rfl).1 hdescription _ rfl
  cases hc
  exact absurd hb (by decide)

/-! ### A member that is lost -/

/-- A row whose action is not known any more and has a member beside its name. -/
def zonedRow : RuleRow where
  id := .ofNat 5
  name := "Zoned"
  description := none
  conditions := .object [("inbound", .bool true)]
  actions := .object [("action", .string "quarantine"), ("zone", .string "b")]
  isActive := true
  createdAt := ⟨1000⟩
  updatedAt := ⟨1000⟩

def zonedRuleOff : Rule where
  id := .ofNat 5
  name := ⟨"Zoned", by decide⟩
  description := none
  conditions := ⟨[⟨"inbound", .equals (.bool true)⟩]⟩
  action := .unsupported "quarantine"
  isActive := false
  createdAt := ⟨1000⟩
  updatedAt := ⟨2000⟩

/-- An amendment that switches a rule off can take something from its action. -/
theorem unnamed_column_changed : ¬ ∀ (p : Parties) (row : RuleRow) (r : Rule) (a : Rule.Amendment)
    (more : List RuleCells) (rest : List (Exchange Wire.Call.signature))
    (result : Except Fault Rule), p.isPersistent = true → row.rule = .ok r →
      (p.perform (amend row.id a)).Runs
        (⟨.ruleRows (.findRule row.id), .ok (row.cells :: more)⟩ :: rest) result →
      ∀ s ∈ statements rest, ∀ part, a.names part = false → s.Keeps row.toRuleColumns part := by
  intro h
  have hruns : (withTables.perform (amend zonedRow.id (.activation false))).Runs
      [⟨.ruleRows (.findRule zonedRow.id), .ok [zonedRow.cells]⟩, ⟨.now, ⟨2000⟩⟩,
        ⟨.ruleRows (.updateRule zonedRuleOff), .ok [{ zonedRow with isActive := false }.cells]⟩,
        ⟨.log (.ruleUpdated zonedRow.id), ()⟩] (.ok { zonedRuleOff with updatedAt := ⟨1000⟩ }) :=
    .call _ <| .call _ <| .call _ <| .call _ <| .done _
  have hkept := h withTables zonedRow { zonedRuleOff with isActive := true, updatedAt := ⟨1000⟩ }
    (.activation false) [] _ _ rfl rfl hruns (.updateRule zonedRuleOff) List.mem_cons_self
    .actions rfl
  unfold Statement.Keeps at hkept
  rw [Statement.cell?_updateRule] at hkept
  cases hkept

end Service

end PeerRules
