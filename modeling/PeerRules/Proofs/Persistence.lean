import PeerRules.Proofs.Patches
import PeerRules.Proofs.StoredForms
import PeerRules.Table.Client

/-!
# Rules in the database

A rule is written as columns and read back from a row. Reading trims the description once more and
loads the conditions and the action from their documents, so not everything that could be written
would come back as it was. `Storable` says what does, and whatever the service writes is storable:
rules that were created, rules that were amended, and rules that were loaded from a row, with
operators and an action that nobody knows any more.

What is written in which column is told by the text of a statement: `placed` reads there which
numbered place belongs to which column.

* `Rule.normalize_normalize`: a description that is in normal form stays as it is.
* `Table.rule_ofRule_iff`: what is read back as it was written is what is storable.
* `Service.storable_of_arises`: whatever the service writes is storable.
* `Table.Statement.cells_of_writes`: what the statement of a write puts into the columns.
* `Table.written_read_back`: what is written is read back, at any time.
-/
namespace PeerRules

open Json

/-! ## Descriptions -/

namespace Rule

open Submission

theorem dropWhile_of_beginsWithText {cs : List Char} (h : BeginsWithText cs) :
    cs.dropWhile Text.isBlank = cs := by
  obtain ⟨c, hc, hb⟩ := h
  cases cs with
  | nil => cases hc
  | cons d cs =>
    obtain rfl : d = c := Option.some.inj hc
    exact List.dropWhile_cons_of_neg (by simp [hb])

theorem trimList_of_beginsWithText {cs : List Char} (hfirst : BeginsWithText cs)
    (hlast : BeginsWithText cs.reverse) : Text.trimList cs = cs := by
  rw [Text.trimList, dropWhile_of_beginsWithText hfirst, dropWhile_of_beginsWithText hlast,
    List.reverse_reverse]

theorem trimmed?_trimmed? {s t : String} (h : Text.trimmed? s = some t) :
    Text.trimmed? t = some t := by
  unfold Text.trimmed? at h
  split at h
  · cases h
  · next hs =>
    cases h
    have hsays : Says s.toList := (says_iff s).2 (by simpa using hs)
    obtain ⟨front, back, -, -, -, hfirst, hlast⟩ := trimList_parts hsays
    have htrim : Text.trim (Text.trim s) = Text.trim s := by
      simp [Text.trim, trimList_of_beginsWithText hfirst hlast]
    have hleft : Text.allBlank (Text.trim s) = false := by
      obtain ⟨c, hc, hb⟩ := hfirst
      rw [← says_iff]
      exact ⟨c, by simpa [Text.trim] using List.mem_of_head? hc, hb⟩
    rw [Text.trimmed?, hleft, htrim]
    rfl

theorem normalize_normalize (d : Option String) : normalize (normalize d) = normalize d := by
  cases d with
  | none => rfl
  | some s =>
    change (Text.trimmed? s).bind Text.trimmed? = Text.trimmed? s
    cases h : Text.trimmed? s with
    | none => rfl
    | some t => exact trimmed?_trimmed? h

/-! ## What can be stored -/

/-- The rule is read back as it was written. -/
structure Storable (r : Rule) : Prop where
  description : normalize r.description = r.description
  conditions : r.conditions.Storable
  action : r.action.Storable

theorem Storable.stamped {r : Rule} (h : r.Storable) (createdAt updatedAt : Instant) :
    (r.stamped createdAt updatedAt).Storable :=
  ⟨h.description, h.conditions, h.action⟩

end Rule

namespace Table

theorem mapError_eq_ok_iff {ε δ α : Type} {f : ε → δ} {x : Except ε α} {a : α} :
    x.mapError f = .ok a ↔ x = .ok a := by
  cases x with
  | error e => exact iff_of_false nofun nofun
  | ok b =>
    constructor <;> intro h <;> cases h <;> rfl

/-- What is loaded from a row. -/
theorem RuleRow.rule_eq_ok_iff {row : RuleRow} {r : Rule} : row.rule = .ok r ↔
    ∃ c a name, Conditions.ofValue row.conditions = .ok c ∧ Action.ofValue row.actions = .ok a ∧
      Name.ofText row.name = .ok name ∧ r = ⟨row.id, name, Rule.normalize row.description, c, a,
        row.isActive, row.createdAt, row.updatedAt⟩ := by
  simp only [rule, Rule.restore, bind_eq_ok_iff, mapError_eq_ok_iff, pure, Except.pure,
    Except.ok.injEq, @eq_comm _ _ r, exists_and_left]

def RuleRow.ofRule (r : Rule) (createdAt updatedAt : Instant) : RuleRow :=
  { RuleColumns.ofRule r with createdAt, updatedAt }

theorem rule_ofRule_iff {r : Rule} {createdAt updatedAt : Instant} :
    (RuleRow.ofRule r createdAt updatedAt).rule = .ok (r.stamped createdAt updatedAt) ↔
      r.Storable := by
  rw [RuleRow.rule_eq_ok_iff]
  constructor
  · rintro ⟨c, a, name, hc, ha, -, hr⟩
    obtain rfl : r.conditions = c := congrArg Rule.conditions hr
    obtain rfl : r.action = a := congrArg Rule.action hr
    have hd : r.description = Rule.normalize r.description := congrArg Rule.description hr
    exact ⟨hd.symm, (Conditions.ofValue_toValue_iff _).1 hc, (Action.ofValue_toValue_iff _).1 ha⟩
  · intro h
    have hd : Rule.normalize (RuleRow.ofRule r createdAt updatedAt).description = r.description :=
      h.description
    refine ⟨r.conditions, r.action, r.name, (Conditions.ofValue_toValue_iff _).2 h.conditions,
      (Action.ofValue_toValue_iff _).2 h.action, (Name.ofText_eq_ok_iff _ _).2 rfl, ?_⟩
    rw [hd]
    rfl

theorem storable_of_row {row : RuleRow} {r : Rule} (h : row.rule = .ok r) : r.Storable := by
  obtain ⟨c, a, name, hc, ha, -, rfl⟩ := RuleRow.rule_eq_ok_iff.1 h
  exact ⟨Rule.normalize_normalize _, Conditions.storable_of_ofValue hc,
    Action.storable_of_ofValue ha⟩

end Table

/-! ## Where rules come from -/

namespace Rule

variable {s : Submission} {a : Amendment} {old r : Rule} {id : RuleId} {now : Instant}

theorem storable_of_submission (h : s.rule id now = .ok r) : r.Storable := by
  obtain ⟨c, a, hc, -, ha, -, name, -, rfl⟩ := Submission.rule_eq_ok_iff.1 h
  exact ⟨normalize_normalize _, Conditions.storable_of_ofValue hc, Action.storable_of_ofValue ha⟩

theorem Amendment.newPart_keeps {α : Type} {load : Value → Except Fault α}
    {check : α → Except Fault Unit} {given : Option Value} {old new : α} {K : α → Prop}
    (h : NewPart load check given old new) (hold : K old) (hload : ∀ v x, load v = .ok x → K x) :
    K new := by
  cases given with
  | none =>
    obtain rfl : new = old := h
    exact hold
  | some v => exact hload v new h.1

theorem storable_of_amendment (hold : old.Storable) (h : a.change old now = .ok r) :
    r.Storable := by
  obtain ⟨-, -, -, -, hdescription, hconditions, haction, -⟩ := Amendment.change_eq_ok_iff.1 h
  refine ⟨?_, ?_, ?_⟩
  · rw [hdescription]
    cases a.description with
    | none => exact hold.description
    | some d => exact normalize_normalize d
  · exact Amendment.newPart_keeps hconditions hold.conditions fun _ _ =>
      Conditions.storable_of_ofValue
  · exact Amendment.newPart_keeps haction hold.action fun _ _ => Action.storable_of_ofValue

end Rule

namespace Service

/-- The rules that there can be: what a creation or an amendment hands to a store, what a row holds,
and each of them with the times that a store gives it. -/
inductive Arises : Rule → Prop where
  | created {s : Rule.Submission} {es : List (Exchange Call.signature)}
      {result reply : Except Fault Rule} {r : Rule} (hruns : (create s).Runs es result)
      (hr : ⟨.insertRule r, reply⟩ ∈ es) : Arises r
  | amended {id : RuleId} {a : Rule.Amendment} {es : List (Exchange Call.signature)}
      {result reply : Except Fault Rule} {r : Rule} (hruns : (amend id a).Runs es result)
      (hseen : ∀ seen, reading id seen ∈ es → Arises seen)
      (hr : ⟨.updateRule r, reply⟩ ∈ es) : Arises r
  | loaded {row : Table.RuleRow} {r : Rule} (h : row.rule = .ok r) : Arises r
  | stamped {r : Rule} (createdAt updatedAt : Instant) (h : Arises r) :
      Arises (r.stamped createdAt updatedAt)

theorem Course.inserted {s : Rule.Submission} {es : List (Exchange Call.signature)}
    {result reply : Except Fault Rule} {r : Rule} (h : Course s es result)
    (hr : ⟨.insertRule r, reply⟩ ∈ es) : ∃ now id, s.rule id now = .ok r := by
  cases h with
  | unread => cases hr
  | refused =>
    simp only [List.mem_cons, List.not_mem_nil, or_false] at hr
    rcases hr with hr | hr <;> cases hr
  | handedIn now id hrule =>
    simp only [List.mem_cons] at hr
    rcases hr with hr | hr | hr | hr
    · cases hr
    · cases hr
    · cases hr
      exact ⟨now, id, hrule⟩
    · cases result with
      | error f => cases hr
      | ok stored => cases List.mem_singleton.1 hr

theorem AmendCourse.updated {id : RuleId} {a : Rule.Amendment}
    {es : List (Exchange Call.signature)} {result reply : Except Fault Rule} {r : Rule}
    (h : AmendCourse id a es result) (hr : ⟨.updateRule r, reply⟩ ∈ es) :
    ∃ seen now, reading id seen ∈ es ∧ a.change seen now = .ok r := by
  cases h with
  | unread => cases List.mem_singleton.1 hr
  | absent => cases List.mem_singleton.1 hr
  | unloaded => cases List.mem_singleton.1 hr
  | refused =>
    simp only [List.mem_cons, List.not_mem_nil, or_false] at hr
    rcases hr with hr | hr <;> cases hr
  | @handedIn u made seen now hu hm =>
    simp only [List.mem_cons] at hr
    rcases hr with hr | hr | hr | hr
    · cases hr
    · cases hr
    · cases hr
      have hchange := (Rule.Amendment.change_of_update hu seen now).trans hm
      exact ⟨seen, now, List.mem_cons_self, hchange⟩
    · cases result with
      | error f => cases hr
      | ok stored => cases List.mem_singleton.1 hr

/-- Whatever there can be is read back as it was written. -/
theorem storable_of_arises {r : Rule} (h : Arises r) : r.Storable := by
  induction h with
  | created hruns hr =>
    obtain ⟨now, id, hrule⟩ := (create_course hruns).inserted hr
    exact Rule.storable_of_submission hrule
  | amended hruns _ hr ih =>
    obtain ⟨seen, now, hread, hchange⟩ := (amend_course hruns).updated hr
    exact Rule.storable_of_amendment (ih seen hread) hchange
  | loaded h => exact Table.storable_of_row h
  | stamped createdAt updatedAt _ ih => exact ih.stamped createdAt updatedAt

end Service

/-! ## What a write puts into the columns -/

namespace Table

/-- What a place can hold of a kind, if it is of that kind. -/
def Param.id? : Param → Option RuleId
  | .id n => some n
  | _ => none

def Param.text? : Param → Option String
  | .text s => some s
  | _ => none

def Param.document? : Param → Option Value
  | .document v => some v
  | _ => none

def Param.flag? : Param → Option Bool
  | .flag b => some b
  | _ => none

theorem Param.text?_ofText? (s : Option String) : (Param.ofText? s).text? = s := by
  cases s <;> rfl

namespace Statement

/-- A text as bytes. The texts of statements are written in one byte a character. -/
def bytes (s : String) : List UInt8 := s.toUTF8.data.toList

/-- The words of a statement: what stands between blanks, commas and brackets. -/
def words (sql : String) : List (List UInt8) :=
  ((bytes sql).splitOnP (· ∈ bytes " ,()")).filter (· ≠ [])

/-- The number of a place, which is written in digits behind a dollar sign. -/
def place? : List UInt8 → Option Nat
  | 0x24 :: ds => some (ds.foldl (fun n d => n * 10 + (d.toNat - 0x30)) 0)
  | _ => none

/-- The words in front of another, and those behind it. -/
def parted (word : String) (ws : List (List UInt8)) : List (List UInt8) × List (List UInt8) :=
  (ws.takeWhile (· ≠ bytes word), (ws.dropWhile (· ≠ bytes word)).tail)

def assignments : List (List UInt8) → List (List UInt8 × Nat)
  | column :: [0x3D] :: word :: rest =>
    match place? word with
    | some n => (column, n) :: assignments rest
    | none => assignments rest
  | _ :: rest => assignments rest
  | [] => []

/-- The columns of a write with their places. An insertion lists the columns and then the places, an
update assigns one to the other. -/
def placed (sql : String) : List (List UInt8 × Nat) :=
  let (front, back) := parted "VALUES" (words sql)
  ((parted "peer_rules" front).2.zip (back.filterMap place?)) ++ assignments front

def placeOf? (columns : List (List UInt8 × Nat)) (column : String) : Option Nat :=
  (columns.find? (·.1 = bytes column)).map (·.2)

def cell? (s : Statement) (column : String) : Option Param :=
  (placeOf? (placed s.sql) column).bind fun n => s.params[n - 1]?

def cells (s : Statement) (createdAt updatedAt : Instant) : RuleCells where
  id := (s.cell? "id").bind Param.id?
  name := (s.cell? "name").bind Param.text?
  description := (s.cell? "description").bind Param.text?
  conditions := (s.cell? "conditions").bind Param.document?
  actions := (s.cell? "actions").bind Param.document?
  isActive := (s.cell? "is_active").bind Param.flag?
  createdAt := some createdAt
  updatedAt := some updatedAt

/-- The columns of a rule have their places in the order in which their values are given. -/
structure InOrder (columns : List (List UInt8 × Nat)) : Prop where
  id : placeOf? columns "id" = some 1
  name : placeOf? columns "name" = some 2
  description : placeOf? columns "description" = some 3
  conditions : placeOf? columns "conditions" = some 4
  actions : placeOf? columns "actions" = some 5
  isActive : placeOf? columns "is_active" = some 6

theorem placed_insertRule (r : Rule) : placed (insertRule r).sql =
    [(bytes "id", 1), (bytes "name", 2), (bytes "description", 3), (bytes "conditions", 4),
      (bytes "actions", 5), (bytes "is_active", 6)] := by
  dsimp only [insertRule]
  decide +kernel

theorem placed_updateRule (r : Rule) : placed (updateRule r).sql =
    [(bytes "name", 2), (bytes "description", 3), (bytes "conditions", 4), (bytes "actions", 5),
      (bytes "is_active", 6), (bytes "id", 1)] := by
  dsimp only [updateRule]
  decide +kernel

theorem inOrder_insertRule (r : Rule) : InOrder (placed (insertRule r).sql) := by
  rw [placed_insertRule]
  constructor <;> decide +kernel

theorem inOrder_updateRule (r : Rule) : InOrder (placed (updateRule r).sql) := by
  rw [placed_updateRule]
  constructor <;> decide +kernel

theorem cells_of_inOrder {s : Statement} {r : Rule} (h : InOrder (placed s.sql))
    (hp : s.params = (RuleColumns.ofRule r).params) (createdAt updatedAt : Instant) :
    s.cells createdAt updatedAt = (RuleRow.ofRule r createdAt updatedAt).cells := by
  obtain ⟨hid, hname, hdescription, hconditions, hactions, hactive⟩ := h
  have hd : (Param.ofText? r.description).text? = r.description := Param.text?_ofText? _
  simp only [cells, cell?, hid, hname, hdescription, hconditions, hactions, hactive, hp,
    RuleColumns.params, Option.bind_some]
  exact congrArg (fun d => { (RuleRow.ofRule r createdAt updatedAt).cells with description := d })
    hd

end Statement

inductive Writes (r : Rule) (s : Statement) : Prop where
  | insertion {es : List (Exchange Wire.Call.signature)} {result : Except Fault Rule}
      {reply : Except Refusal (List RuleCells)} (h : (insertRule r).Runs es result)
      (hs : ⟨.ruleRows s, reply⟩ ∈ es) : Writes r s
  | update {es : List (Exchange Wire.Call.signature)} {result : Except Fault Rule}
      {reply : Except Refusal (List RuleCells)} (h : (updateRule r).Runs es result)
      (hs : ⟨.ruleRows s, reply⟩ ∈ es) : Writes r s

/-- A plan of one call that is done when it has the reply. -/
theorem runs_single {P : Signature} {α : Type} {c : P.Call} {f : P.Reply c → Plan P α}
    (hf : ∀ reply, ∃ b, f reply = .done b) {es : List (Exchange P)} {a : α}
    (h : ((Plan.ask c).bind f).Runs es a) : ∃ reply, es = [⟨c, reply⟩] := by
  obtain ⟨xs, ys, reply, rfl, hask, hrest⟩ := Plan.runs_bind_iff.1 h
  obtain rfl := Plan.runs_ask_iff.1 hask
  obtain ⟨b, hb⟩ := hf reply
  rw [hb] at hrest
  obtain ⟨rfl, rfl⟩ := Plan.runs_done_iff.1 hrest
  exact ⟨reply, rfl⟩

theorem insertRule_runs {r : Rule} {es : List (Exchange Wire.Call.signature)}
    {result : Except Fault Rule} (h : (insertRule r).Runs es result) :
    ∃ reply, es = [⟨.ruleRows (.insertRule r), reply⟩] := by
  refine @runs_single Wire.Call.signature _ (Wire.Call.ruleRows (.insertRule r)) _ ?_ _ _ h
  rintro (e | cs)
  · dsimp only
    split <;> exact ⟨_, rfl⟩
  · exact ⟨_, rfl⟩

theorem updateRule_runs {r : Rule} {es : List (Exchange Wire.Call.signature)}
    {result : Except Fault Rule} (h : (updateRule r).Runs es result) :
    ∃ reply, es = [⟨.ruleRows (.updateRule r), reply⟩] := by
  refine @runs_single Wire.Call.signature _ (Wire.Call.ruleRows (.updateRule r)) _ ?_ _ _ h
  rintro (e | _ | _) <;> exact ⟨_, rfl⟩

/-- The rule is put into the columns of a row. -/
theorem Statement.cells_of_writes {r : Rule} {s : Statement} (h : Writes r s)
    (createdAt updatedAt : Instant) :
    s.cells createdAt updatedAt = (RuleRow.ofRule r createdAt updatedAt).cells := by
  cases h with
  | insertion h hs =>
    obtain ⟨reply, rfl⟩ := insertRule_runs h
    cases List.mem_singleton.1 hs
    exact cells_of_inOrder (inOrder_insertRule r) rfl createdAt updatedAt
  | update h hs =>
    obtain ⟨reply, rfl⟩ := updateRule_runs h
    cases List.mem_singleton.1 hs
    exact cells_of_inOrder (inOrder_updateRule r) rfl createdAt updatedAt

/-- **What is written is read back.** Whatever rule the service can write, and however it is
written, the columns of the row that it is written into make a row, whatever times the database
gives it, and what is loaded from that row is the rule with these times. -/
theorem written_read_back {r : Rule} {s : Statement} (hr : Service.Arises r) (hs : Writes r s)
    (createdAt updatedAt : Instant) :
    (∃ row, (s.cells createdAt updatedAt).row = .ok row ∧
      row.rule = .ok (r.stamped createdAt updatedAt) ∧
      row.record = .ofRule (r.stamped createdAt updatedAt)) ∧
    ∀ fault, ruleOf fault (s.cells createdAt updatedAt) = .ok (r.stamped createdAt updatedAt) := by
  have hcells := Statement.cells_of_writes hs createdAt updatedAt
  have hrow : (s.cells createdAt updatedAt).row = .ok (RuleRow.ofRule r createdAt updatedAt) := by
    rw [hcells, row_of_columns]
  have hrule : (RuleRow.ofRule r createdAt updatedAt).rule = .ok (r.stamped createdAt updatedAt) :=
    rule_ofRule_iff.2 (Service.storable_of_arises hr)
  refine ⟨⟨_, hrow, hrule, ?_⟩, fun fault => ?_⟩
  · rw [RuleRow.record, hrule]
    rfl
  · rw [ruleOf, hrow]
    exact hrule

/-! ### A rule from before -/

/-- A row with an operator and an action that are not known, and with blanks around its
description. -/
def oldRow : RuleRow where
  id := .ofNat 5
  name := " Old "
  description := some " kept for reference "
  conditions := .object [("pingtime", .object [("between", .array [.ofNat 1, .ofNat 2])])]
  actions := .object [("action", .string "quarantine"), ("banTime", .string "soon")]
  isActive := true
  createdAt := ⟨0⟩
  updatedAt := ⟨0⟩

def oldRule : Rule where
  id := .ofNat 5
  name := ⟨" Old ", by decide⟩
  description := some "kept for reference"
  conditions := ⟨[⟨"pingtime", .comparisons [.unknown "between" (.array [.ofNat 1, .ofNat 2])]⟩]⟩
  action := .unsupported "quarantine"
  isActive := true
  createdAt := ⟨0⟩
  updatedAt := ⟨0⟩

def oldRuleOff : Rule := { oldRule with isActive := false, updatedAt := ⟨9⟩ }

theorem oldRuleOff_arises : Service.Arises oldRuleOff := by
  have hrow : oldRow.rule = .ok oldRule := by rfl
  have hruns : (Service.setActive (.ofNat 5) false).Runs
      [Service.reading (.ofNat 5) oldRule, ⟨.now, ⟨9⟩⟩, Service.writing oldRuleOff oldRuleOff,
        ⟨.log (.ruleUpdated (.ofNat 5)), ()⟩] (.ok oldRuleOff) :=
    .call _ <| .call _ <| .call _ <| .call _ <| .done _
  refine .amended hruns (fun seen hseen => ?_)
    (List.mem_cons_of_mem _ (List.mem_cons_of_mem _ List.mem_cons_self))
  simp only [List.mem_cons, List.not_mem_nil, or_false] at hseen
  rcases hseen with h | h | h | h <;> cases h
  exact .loaded hrow

theorem written_read_back_oldRuleOff :
    Service.Arises oldRuleOff ∧ Writes oldRuleOff (.updateRule oldRuleOff) ∧
      ∀ createdAt updatedAt,
        ∃ row, ((Statement.updateRule oldRuleOff).cells createdAt updatedAt).row = .ok row ∧
          row.rule = .ok (oldRuleOff.stamped createdAt updatedAt) := by
  have hruns : (updateRule oldRuleOff).Runs
      [⟨.ruleRows (.updateRule oldRuleOff), (.ok [] : Except Refusal (List RuleCells))⟩]
      (.error oldRuleOff.id.notStored) := .call _ (.done _)
  have hwrites : Writes oldRuleOff (.updateRule oldRuleOff) := .update hruns List.mem_cons_self
  refine ⟨oldRuleOff_arises, hwrites, fun createdAt updatedAt => ?_⟩
  obtain ⟨⟨row, hrow, hrule, -⟩, -⟩ :=
    written_read_back oldRuleOff_arises hwrites createdAt updatedAt
  exact ⟨row, hrow, hrule⟩

end Table

end PeerRules
