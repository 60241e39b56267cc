import PeerRules.Proofs.Calls
import PeerRules.Proofs.Courses
import PeerRules.Proofs.Turns
import PeerRules.Service
import PeerRules.Store
import PeerRules.Sweep
import PeerRules.Table.Row

/-!
# A batch is its rules, one at a time

A batch lists the records and then gives each its share: the calls of the run of that one rule, and
what they came to. A `Share` is one record's, and fits when it is a run of that rule alone; a record
that cannot be loaded has no calls. Any shares that fit make a batch, so what one record comes to
leaves the others as they are.

* `runs_plan_iff`: the calls of a batch and its reports, by induction over the records.
* `Sweep.runs_guarded_iff`: renewals come between the calls of the batch and change none of them.
* `isolated`: the guarded batch, the tick and the run of one rule agree on every record.
-/
namespace PeerRules

open Plan

/-! ## Runs of a sweep -/

namespace Sweep

variable {α β : Type} {es : List (Exchange Call.signature)}

/-- The sweep makes exactly these calls, in this order, and comes to the result. -/
inductive Runs : Sweep α → List (Exchange Call.signature) → α → Prop where
  | done (a : α) : Runs (.done a) [] a
  | step {w v : Sweep α} {xs ys : List (Exchange Call.signature)} {a : α} (hs : Step w xs v)
      (h : Runs v ys a) : Runs w (xs ++ ys) a

/-- The same calls, with renewals of the permit while a reply is waited for. -/
inductive WithRenewals (p : Permit) :
    List (Exchange Call.signature) → List (Exchange Call.signature) → Prop where
  | nil : WithRenewals p [] []
  | own {e : Exchange Call.signature} {xs ys : List (Exchange Call.signature)}
      (h : WithRenewals p xs ys) : WithRenewals p (e :: xs) (e :: ys)
  | renewal {e : Exchange Call.signature} {xs ys : List (Exchange Call.signature)}
      (r : Except Fault Bool) (h : WithRenewals p (e :: xs) ys) :
      WithRenewals p (e :: xs) (⟨.renew p, r⟩ :: ys)

theorem Runs.cons {w v : Sweep α} {e : Exchange Call.signature} {a : α} (hs : Step w [e] v)
    (h : Runs v es a) : Runs w (e :: es) a := .step hs h

theorem runs_done_iff {a b : α} : (done a).Runs es b ↔ es = [] ∧ a = b := by
  constructor
  · intro h
    cases h with
    | done => exact ⟨rfl, rfl⟩
    | step hs => cases hs
  · rintro ⟨rfl, rfl⟩
    exact .done a

theorem runs_call_iff {c : Call} {next : c.Reply → Sweep α} {b : α} :
    (call c next).Runs es b ↔ ∃ r rest, es = ⟨c, r⟩ :: rest ∧ (next r).Runs rest b := by
  constructor
  · intro h
    cases h with
    | step hs h =>
      cases hs with
      | call c next r => exact ⟨r, _, rfl, h⟩
  · rintro ⟨r, rest, rfl, h⟩
    exact .cons (.call c next r) h

/-- A batch under a permit makes its own calls, with renewals between them; what a renewal answers
changes none of them. -/
theorem runs_guarded_iff {p : Permit} {work : RulesPlan Batch.Result}
    {next : Batch.Result → Sweep α} {a : α} :
    (guarded p work next).Runs es a ↔ ∃ own during result rest, es = during ++ rest ∧
      WithRenewals p own during ∧ work.Runs own result ∧ (next result).Runs rest a := by
  constructor
  · intro h
    generalize hw : guarded p work next = w at h
    induction h generalizing work with
    | done => cases hw
    | step hs h ih =>
      subst hw
      cases hs with
      | batch p c rest next r =>
        obtain ⟨own, during, result, after, rfl, hwith, hown, hafter⟩ := ih rfl
        have hown := Plan.runs_call_iff.2 ⟨r, own, rfl, hown⟩
        exact ⟨⟨c, r⟩ :: own, ⟨c, r⟩ :: during, result, after, rfl, .own hwith, hown, hafter⟩
      | renewal p c rest next r =>
        obtain ⟨own, during, result, after, rfl, hwith, hown, hafter⟩ := ih rfl
        obtain ⟨reply, own, rfl, hreply⟩ := Plan.runs_call_iff.1 hown
        exact ⟨_, ⟨.renew p, r⟩ :: during, result, after, rfl, .renewal r hwith, hown, hafter⟩
      | finish p result next => exact ⟨[], [], result, _, rfl, .nil, .done result, h⟩
  · rintro ⟨own, during, result, rest, rfl, hwith, hown, hrest⟩
    induction hwith generalizing work with
    | nil =>
      cases hown
      exact .step (.finish p result next) hrest
    | own _ ih =>
      cases hown with
      | @call c further r _ _ hown => exact .cons (.batch p c further next r) (ih hown)
    | renewal r _ ih =>
      cases hown with
      | @call c further reply _ _ hown =>
        exact .cons (.renewal p c further next r) (ih (Plan.runs_call_iff.2 ⟨reply, _, rfl, hown⟩))

theorem runs_ofPlan_iff {plan : RulesPlan α} {a : α} :
    (ofPlan plan).Runs es a ↔ plan.Runs es a := by
  induction plan generalizing es with
  | done b => rw [ofPlan, runs_done_iff, Plan.runs_done_iff]
  | call c next ih =>
    refine (runs_call_iff (c := c)).trans (Iff.trans ?_ Plan.runs_call_iff.symm)
    exact exists_congr fun r => exists_congr fun rest => and_congr_right fun _ => ih r

theorem runs_bind_iff {w : Sweep α} {f : α → Sweep β} {b : β} :
    (w.bind f).Runs es b ↔ ∃ xs ys a, es = xs ++ ys ∧ w.Runs xs a ∧ (f a).Runs ys b := by
  induction w generalizing es with
  | done a =>
    constructor
    · intro h
      exact ⟨[], es, a, rfl, .done a, h⟩
    · rintro ⟨xs, ys, a', rfl, hw, hf⟩
      obtain ⟨rfl, rfl⟩ := runs_done_iff.1 hw
      exact hf
  | call c next ih =>
    constructor
    · intro h
      obtain ⟨r, rest, rfl, hrest⟩ := runs_call_iff.1 h
      obtain ⟨xs, ys, a, rfl, hw, hf⟩ := (ih r).1 hrest
      exact ⟨⟨c, r⟩ :: xs, ys, a, rfl, runs_call_iff.2 ⟨r, xs, rfl, hw⟩, hf⟩
    · rintro ⟨xs, ys, a, rfl, hw, hf⟩
      obtain ⟨r, rest, rfl, hr⟩ := runs_call_iff.1 hw
      exact runs_call_iff.2 ⟨r, rest ++ ys, rfl, (ih r).2 ⟨rest, ys, a, rfl, hr, hf⟩⟩
  | guarded p work next ih =>
    constructor
    · intro h
      obtain ⟨own, during, result, rest, rfl, hwith, hown, hrest⟩ := runs_guarded_iff.1 h
      obtain ⟨xs, ys, a, rfl, hw, hf⟩ := (ih result).1 hrest
      exact ⟨during ++ xs, ys, a, (List.append_assoc ..).symm,
        runs_guarded_iff.2 ⟨own, during, result, xs, rfl, hwith, hown, hw⟩, hf⟩
    · rintro ⟨xs, ys, a, rfl, hw, hf⟩
      obtain ⟨own, during, result, rest, rfl, hwith, hown, hrest⟩ := runs_guarded_iff.1 hw
      refine runs_guarded_iff.2
        ⟨own, during, result, rest ++ ys, List.append_assoc .., hwith, hown, ?_⟩
      exact (ih result).2 ⟨rest, ys, a, rfl, hrest, hf⟩

end Sweep

/-! ## Shares -/

/-- What is known of a record of a rule that was loaded is what the rule says. -/
def Record.Named (record : Record) : Prop :=
  ∀ rule, record.decoded = .ok rule → rule.id = record.ruleId ∧ rule.name.text = record.ruleName

theorem Store.named_of_active {s : Store} {record : Record} (h : record ∈ s.active) :
    record.Named := by
  obtain ⟨r, -, rfl⟩ := List.mem_map.1 h
  intro rule hrule
  cases hrule
  exact ⟨rfl, rfl⟩

theorem Rule.identity_of_restore {id : RuleId} {d : Rule.Draft} {createdAt updatedAt : Instant}
    {r : Rule} (h : Rule.restore id d createdAt updatedAt = .ok r) :
    r.id = id ∧ r.name.text = d.name := by
  simp only [Rule.restore, Bind.bind, Except.bind] at h
  split at h
  · cases h
  · next name hname =>
    cases h
    exact ⟨rfl, (Name.ofText_eq_ok_iff _ _).1 hname⟩

theorem Table.named_of_row (row : Table.RuleRow) : row.record.Named := by
  intro r hr
  simp only [Table.RuleRow.record, Table.RuleRow.rule, Bind.bind, Except.bind] at hr
  split at hr
  · cases hr
  · split at hr
    · cases hr
    · exact Rule.identity_of_restore hr

namespace Batch

open Dispatch

/-- One record's part of a batch: the calls of its run, and what they came to. -/
structure Share where
  record : Record
  calls : List (Exchange Call.signature)
  result : Except Fault Run.Summary

namespace Share

def Fits (dispatcher : Dispatcher) (sh : Share) : Prop :=
  match sh.record.decoded with
  | .error f => sh.calls = [] ∧ sh.result = .error f
  | .ok rule => (Run.plan dispatcher rule).Runs sh.calls sh.result

/-- The rule that was run, or that could not be loaded: its identifier and its name. -/
def identity (sh : Share) : RuleId × String :=
  match sh.record.decoded with
  | .error _ => (sh.record.ruleId, sh.record.ruleName)
  | .ok rule => (rule.id, rule.name.text)

def report (sh : Share) : Report := ⟨sh.identity.1, sh.identity.2, sh.result⟩

def warning (sh : Share) : List (Exchange Call.signature) :=
  match sh.result with
  | .ok _ => []
  | .error f => [⟨.log (.ruleFailed sh.identity.1 sh.identity.2 f), ()⟩]

def exchanges (sh : Share) : List (Exchange Call.signature) := sh.calls ++ sh.warning

variable {dispatcher : Dispatcher} {sh : Share} {rule : Rule} {f : Fault}

theorem fits_unloaded (h : sh.record.decoded = .error f) :
    sh.Fits dispatcher ↔ sh.calls = [] ∧ sh.result = .error f := by
  rw [Fits, h]

theorem fits_loaded (h : sh.record.decoded = .ok rule) :
    sh.Fits dispatcher ↔ (Run.plan dispatcher rule).Runs sh.calls sh.result := by
  rw [Fits, h]

theorem identity_unloaded (h : sh.record.decoded = .error f) :
    sh.identity = (sh.record.ruleId, sh.record.ruleName) := by
  rw [identity, h]

theorem identity_loaded (h : sh.record.decoded = .ok rule) :
    sh.identity = (rule.id, rule.name.text) := by
  rw [identity, h]

/-- A record that cannot be loaded has no calls but the event about it. -/
theorem of_unloaded (h : sh.record.decoded = .error f) (hfits : sh.Fits dispatcher) :
    sh.exchanges = [⟨.log (.ruleFailed sh.record.ruleId sh.record.ruleName f), ()⟩] ∧
      sh.report = ⟨sh.record.ruleId, sh.record.ruleName, .error f⟩ := by
  obtain ⟨hcalls, hresult⟩ := (fits_unloaded h).1 hfits
  unfold exchanges warning report
  rw [hcalls, hresult, identity_unloaded h]
  exact ⟨rfl, rfl⟩

end Share

variable {dispatcher : Dispatcher} {es : List (Exchange Call.signature)}

theorem runs_failed_iff {id : RuleId} {name : String} {f : Fault} {r : Report} :
    (failed id name f).Runs es r ↔
      es = [⟨.log (.ruleFailed id name f), ()⟩] ∧ r = ⟨id, name, .error f⟩ := by
  constructor
  · intro h
    obtain ⟨⟨⟩, rest, rfl, hrest⟩ := Plan.runs_call_iff.1 h
    obtain ⟨rfl, rfl⟩ := Plan.runs_done_iff.1 hrest
    exact ⟨rfl, rfl⟩
  · rintro ⟨rfl, rfl⟩
    exact Plan.runs_call_iff.2 ⟨(), [], rfl, .done _⟩

/-- What is left for a rule that was loaded when its run is over. -/
def afterRun (rule : Rule) : Except Fault Run.Summary → RulesPlan Report
  | .ok s => .done ⟨rule.id, rule.name.text, .ok s⟩
  | .error f => failed rule.id rule.name.text f

theorem runs_afterRun_iff {rule : Rule} (sh : Share) {r : Report}
    (hrule : sh.record.decoded = .ok rule) :
    (afterRun rule sh.result).Runs es r ↔ es = sh.warning ∧ r = sh.report := by
  unfold Share.warning Share.report
  rw [Share.identity_loaded hrule]
  cases sh.result with
  | ok s =>
    rw [afterRun, runs_done_iff]
    exact and_congr_right fun _ => eq_comm
  | error f => exact runs_failed_iff

theorem report_eq {record : Record} {rule : Rule} (hrule : record.decoded = .ok rule) :
    report dispatcher record = (Run.plan dispatcher rule).bind (afterRun rule) := by
  unfold report
  rw [hrule]
  refine congrArg (Plan.bind (Run.plan dispatcher rule)) (funext fun result => ?_)
  cases result <;> rfl

theorem runs_report_iff {record : Record} {r : Report} :
    (report dispatcher record).Runs es r ↔
      ∃ sh : Share, sh.record = record ∧ sh.Fits dispatcher ∧ es = sh.exchanges ∧
        r = sh.report := by
  cases hd : record.decoded with
  | error f =>
    have hreport : report dispatcher record = failed record.ruleId record.ruleName f := by
      rw [report, hd]
    rw [hreport, runs_failed_iff]
    constructor
    · rintro ⟨rfl, rfl⟩
      have hfits : Share.Fits dispatcher ⟨record, [], .error f⟩ :=
        (Share.fits_unloaded hd).2 ⟨rfl, rfl⟩
      obtain ⟨hes, hr⟩ := Share.of_unloaded hd hfits
      exact ⟨⟨record, [], .error f⟩, rfl, hfits, hes.symm, hr.symm⟩
    · rintro ⟨sh, rfl, hfits, rfl, rfl⟩
      exact Share.of_unloaded hd hfits
  | ok rule =>
    rw [report_eq hd, Plan.runs_bind_iff]
    constructor
    · rintro ⟨calls, rest, result, rfl, hrun, hrest⟩
      obtain ⟨rfl, rfl⟩ := (runs_afterRun_iff ⟨record, calls, result⟩ hd).1 hrest
      exact ⟨⟨record, calls, result⟩, rfl, (Share.fits_loaded hd).2 hrun, rfl, rfl⟩
    · rintro ⟨sh, rfl, hfits, rfl, rfl⟩
      exact ⟨sh.calls, sh.warning, sh.result, rfl, (Share.fits_loaded hd).1 hfits,
        (runs_afterRun_iff sh hd).2 ⟨rfl, rfl⟩⟩

/-- Every record has its share, in order; the induction is over the records, and what one comes to
does not change what is called for the next. -/
theorem runs_reports_iff {records : List Record} {rs : List Report} :
    (reports dispatcher records).Runs es rs ↔
      ∃ shares : List Share, shares.map Share.record = records ∧
        (∀ sh ∈ shares, sh.Fits dispatcher) ∧ es = shares.flatMap Share.exchanges ∧
        rs = shares.map Share.report := by
  induction records generalizing es rs with
  | nil =>
    constructor
    · intro h
      obtain ⟨rfl, rfl⟩ := Plan.runs_done_iff.1 h
      exact ⟨[], rfl, by simp, rfl, rfl⟩
    · rintro ⟨shares, hr, -, rfl, rfl⟩
      obtain rfl := List.map_eq_nil_iff.1 hr
      exact .done _
  | cons record rest ih =>
    constructor
    · intro h
      obtain ⟨xs, es₁, r, rfl, hr, h₁⟩ := Plan.runs_bind_iff.1 h
      obtain ⟨ys, es₂, rs₁, rfl, hrs, h₂⟩ := Plan.runs_bind_iff.1 h₁
      obtain ⟨rfl, rfl⟩ := Plan.runs_done_iff.1 h₂
      obtain ⟨sh, rfl, hfits, rfl, rfl⟩ := runs_report_iff.1 hr
      obtain ⟨shares, rfl, hall, rfl, rfl⟩ := ih.1 hrs
      exact ⟨sh :: shares, rfl, List.forall_mem_cons.2 ⟨hfits, hall⟩, by simp, rfl⟩
    · rintro ⟨_ | ⟨sh, shares⟩, hr, hfits, rfl, rfl⟩
      · cases hr
      · obtain ⟨rfl, rfl⟩ := List.cons.inj hr
        obtain ⟨hfits, hall⟩ := List.forall_mem_cons.1 hfits
        refine Plan.runs_bind_iff.2 ⟨sh.exchanges, shares.flatMap Share.exchanges, sh.report, rfl,
          runs_report_iff.2 ⟨sh, rfl, hfits, rfl, rfl⟩, ?_⟩
        exact Plan.runs_bind_iff.2 ⟨shares.flatMap Share.exchanges, [], shares.map Share.report,
          by simp, ih.2 ⟨shares, rfl, hall, rfl, rfl⟩, .done _⟩

inductive Course (dispatcher : Dispatcher) :
    List (Exchange Call.signature) → Batch.Result → Prop where
  | unlisted (f : Fault) : Course dispatcher [⟨.listActive, .error f⟩] (.error f)
  | listed (shares : List Share) (h : ∀ sh ∈ shares, sh.Fits dispatcher) :
      Course dispatcher
        (⟨.listActive, .ok (shares.map Share.record)⟩ :: shares.flatMap Share.exchanges)
        (.ok (shares.map Share.report))

/-- What is left of a batch when the records are listed. -/
def afterListing (dispatcher : Dispatcher) : Except Fault (List Record) → RulesPlan Result
  | .error f => .done (.error f)
  | .ok records => (reports dispatcher records).bind fun rs => .done (.ok rs)

theorem plan_eq (dispatcher : Dispatcher) :
    plan dispatcher = .call .listActive (afterListing dispatcher) := by
  refine congrArg (Plan.call (P := Call.signature) Call.listActive) (funext fun reply => ?_)
  cases reply <;> rfl

theorem runs_plan_iff {result : Result} :
    (plan dispatcher).Runs es result ↔ Course dispatcher es result := by
  rw [plan_eq]
  constructor
  · intro h
    obtain ⟨reply, rest, rfl, hrest⟩ := Plan.runs_call_iff.1 h
    match reply, hrest with
    | .error f, hrest =>
      obtain ⟨rfl, rfl⟩ := Plan.runs_done_iff.1 hrest
      exact .unlisted f
    | .ok records, hrest =>
      obtain ⟨xs, ys, rs, rfl, hrs, hdone⟩ := Plan.runs_bind_iff.1 hrest
      obtain ⟨rfl, rfl⟩ := Plan.runs_done_iff.1 hdone
      obtain ⟨shares, rfl, hall, rfl, rfl⟩ := runs_reports_iff.1 hrs
      rw [List.append_nil]
      exact .listed shares hall
  · rintro (f | ⟨shares, hall⟩)
    · exact Plan.runs_call_iff.2 ⟨.error f, [], rfl, .done _⟩
    · refine Plan.runs_call_iff.2 ⟨.ok (shares.map Share.record), _, rfl, ?_⟩
      exact Plan.runs_bind_iff.2 ⟨_, [], shares.map Share.report, (List.append_nil _).symm,
        runs_reports_iff.2 ⟨shares, rfl, hall, rfl, rfl⟩, .done _⟩

end Batch

/-! ## The ways into a batch -/

namespace Sweep

open Run Batch

variable {dispatcher : Dispatch.Dispatcher} {p : Permit} {es : List (Exchange Call.signature)}

theorem portCalls_of_giveBack (h : (giveBack p).Runs es ()) :
    ∃ r, portCalls es = [⟨.release p, r⟩] := by
  obtain ⟨xs, ys, r, rfl, hask, hrest⟩ := Plan.runs_bind_iff.1 h
  obtain rfl := Plan.runs_ask_iff.1 hask
  cases r with
  | ok u =>
    obtain ⟨rfl, -⟩ := Plan.runs_done_iff.1 hrest
    exact ⟨_, rfl⟩
  | error f =>
    obtain rfl := Plan.runs_ask_iff.1 hrest
    exact ⟨_, rfl⟩

theorem runs_under_iff {result : Batch.Result} :
    (under dispatcher p).Runs es result ↔ ∃ own during left, es = during ++ left ∧
      WithRenewals p own during ∧ Course dispatcher own result ∧ (giveBack p).Runs left () := by
  refine runs_guarded_iff.trans ?_
  constructor
  · rintro ⟨own, during, result, rest, rfl, hwith, hown, hrest⟩
    obtain ⟨left, tail, u, rfl, hleft, hdone⟩ := runs_bind_iff.1 hrest
    obtain ⟨rfl, rfl⟩ := runs_done_iff.1 hdone
    exact ⟨own, during, left, by rw [List.append_nil], hwith, Batch.runs_plan_iff.1 hown,
      runs_ofPlan_iff.1 hleft⟩
  · rintro ⟨own, during, left, rfl, hwith, hown, hleft⟩
    refine ⟨own, during, result, left, rfl, hwith, Batch.runs_plan_iff.2 hown, ?_⟩
    exact runs_bind_iff.2 ⟨left, [], (), (List.append_nil _).symm, runs_ofPlan_iff.2 hleft, .done _⟩

/-- A caller that is let in runs the batch under its permit. -/
theorem runs_runAll_iff {result : Batch.Result} :
    (runAll dispatcher).Runs (⟨.acquire scope, .ok (some p)⟩ :: es) result ↔
      (under dispatcher p).Runs es result := by
  constructor
  · intro h
    obtain ⟨r, rest, heq, hrest⟩ := runs_call_iff.1 h
    cases heq
    exact hrest
  · intro h
    exact runs_call_iff.2 ⟨.ok (some p), es, rfl, h⟩

/-- What is left of a tick that is let in. -/
def afterEntry (dispatcher : Dispatch.Dispatcher) (startedAt : Instant) (p : Permit) :
    Sweep (Option Tick) :=
  (under dispatcher p).bind fun result =>
    (ofPlan (conclude startedAt result)).bind fun t => .done (some t)

/-- So does a tick; what it tells comes of the result. -/
theorem runs_tick_iff {startedAt : Instant} {t? : Option Tick} :
    (tick dispatcher).Runs (⟨.now, startedAt⟩ :: ⟨.acquire scope, .ok (some p)⟩ :: es) t? ↔
      ∃ guarded ending result t, es = guarded ++ ending ∧
        (under dispatcher p).Runs guarded result ∧ (conclude startedAt result).Runs ending t ∧
        t? = some t := by
  constructor
  · intro h
    obtain ⟨r, rest, heq, hrest⟩ := runs_call_iff.1 h
    cases heq
    obtain ⟨r, rest, heq, hrest⟩ := runs_call_iff.1 hrest
    cases heq
    have hentered : (afterEntry dispatcher startedAt p).Runs es t? := hrest
    obtain ⟨guarded, rest, result, rfl, hunder, hconclude⟩ := runs_bind_iff.1 hentered
    obtain ⟨ending, tail, t, rfl, hending, hdone⟩ := runs_bind_iff.1 hconclude
    obtain ⟨rfl, rfl⟩ := runs_done_iff.1 hdone
    exact ⟨guarded, ending, result, t, by rw [List.append_nil], hunder,
      runs_ofPlan_iff.1 hending, rfl⟩
  · rintro ⟨guarded, ending, result, t, rfl, hunder, hending, rfl⟩
    have hentered : (afterEntry dispatcher startedAt p).Runs (guarded ++ ending) (some t) :=
      runs_bind_iff.2 ⟨guarded, ending, result, rfl, hunder, runs_bind_iff.2
        ⟨ending, [], t, (List.append_nil _).symm, runs_ofPlan_iff.2 hending, .done _⟩⟩
    exact runs_call_iff.2 ⟨startedAt, _, rfl, runs_call_iff.2 ⟨.ok (some p), _, rfl, hentered⟩⟩

/-- A tick counts the reports that are failures, and all others as executed. -/
theorem counts_of_conclude {startedAt : Instant} {rs : List Report} {t : Tick}
    (h : (conclude startedAt (.ok rs)).Runs es t) :
    t.failed = rs.countP (·.isFailure) ∧ t.executed + t.failed = rs.length ∧ t.error = none := by
  obtain ⟨xs, ys, finishedAt, rfl, hnow, hrest⟩ := Plan.runs_bind_iff.1 h
  obtain ⟨zs, tail, u, rfl, hlog, hdone⟩ := Plan.runs_bind_iff.1 hrest
  obtain ⟨rfl, rfl⟩ := Plan.runs_done_iff.1 hdone
  exact ⟨rfl, Nat.sub_add_cancel List.countP_le_length, rfl⟩

end Sweep

namespace Batch

open Run

variable {dispatcher : Dispatch.Dispatcher}

/-- Running one stored rule makes the calls of its share, and comes to the same. -/
theorem runs_withRule_iff {sh : Share} {rule : Rule} (hd : sh.record.decoded = .ok rule)
    (id : RuleId) :
    (Service.withRule id (Run.plan dispatcher)).Runs
        (⟨.findRule id, .ok (some rule)⟩ :: sh.calls) sh.result ↔ sh.Fits dispatcher := by
  rw [Share.fits_loaded hd]
  constructor
  · intro h
    obtain ⟨r, rest, heq, hrest⟩ := Plan.runs_call_iff.1 h
    cases heq
    exact hrest
  · intro h
    exact Plan.runs_call_iff.2 ⟨.ok (some rule), sh.calls, rfl, h⟩

theorem portCalls_shares (shares : List Share) :
    portCalls (shares.flatMap Share.exchanges) = shares.flatMap fun sh => portCalls sh.calls := by
  induction shares with
  | nil => rfl
  | cons sh shares ih =>
    have hwarning : portCalls sh.warning = [] := by
      unfold Share.warning
      cases sh.result <;> rfl
    rw [List.flatMap_cons, List.flatMap_cons, portCalls_append, ih, Share.exchanges,
      portCalls_append, hwarning, List.append_nil]

/-- A report says what is known of the record, and what its own run came to. -/
theorem Share.report_eq {sh : Share} (h : sh.record.Named) :
    sh.report = ⟨sh.record.ruleId, sh.record.ruleName, sh.result⟩ := by
  unfold report
  cases hd : sh.record.decoded with
  | error f => rw [identity_unloaded hd]
  | ok rule => rw [identity_loaded hd, (h rule hd).1, (h rule hd).2]

/-- Only a record that cannot be loaded, or whose own listing of peers fails, comes to a fault. -/
theorem Share.fault_cause {sh : Share} {f : Fault} (h : sh.Fits dispatcher)
    (hf : sh.result = .error f) :
    (sh.record.decoded = .error f ∧ sh.calls = []) ∨
      ∃ rule, sh.record.decoded = .ok rule ∧ sh.calls = [listing (.error f)] := by
  cases hd : sh.record.decoded with
  | error g =>
    obtain ⟨hcalls, hg⟩ := (fits_unloaded hd).1 h
    rw [hf] at hg
    cases hg
    exact .inl ⟨rfl, hcalls⟩
  | ok rule =>
    have hrun := (fits_loaded hd).1 h
    rw [hf] at hrun
    cases ha : rule.isActive with
    | false =>
      rw [inactive_makes_no_call ha] at hrun
      cases (Plan.runs_done_iff.1 hrun).2
    | true =>
      rcases (Run.runs_plan_iff ha).1 hrun with ⟨g, hcalls, hg⟩ | ⟨peers, ts, -, -, -, hok⟩
      · cases hg
        exact .inr ⟨rule, rfl, hcalls⟩
      · cases hok

/-- The call is answered by rote. -/
def ByRote (reply : (c : Call) → c.Reply) (e : Exchange Call.signature) : Prop :=
  e.reply = reply e.call

/-- The party that answers by rote. -/
def rote (reply : (c : Call) → c.Reply) : Party Call.signature Unit where
  Answers := fun _ c r _ => ByRote reply ⟨c, r⟩
  Drifts := fun _ _ => False

theorem rote_answers (reply : (c : Call) → c.Reply) (u : Unit) (c : Call.signature.Call) :
    ∃ r v, (rote reply).Answers u c r v ∧ ByRote reply ⟨c, r⟩ :=
  ⟨reply c, u, rfl, rfl⟩

/-- However the calls are answered, every record has its share. -/
theorem exists_shares (dispatcher : Dispatch.Dispatcher) (reply : (c : Call) → c.Reply)
    (records : List Record) : ∃ shares : List Share, shares.map Share.record = records ∧
      ∀ sh ∈ shares, sh.Fits dispatcher ∧ ∀ e ∈ sh.calls, ByRote reply e := by
  induction records with
  | nil => exact ⟨[], rfl, by simp⟩
  | cons record rest ih =>
    obtain ⟨shares, hrest, hall⟩ := ih
    cases hd : record.decoded with
    | error f =>
      refine ⟨⟨record, [], .error f⟩ :: shares, by simp [hrest], List.forall_mem_cons.2 ⟨?_, hall⟩⟩
      exact ⟨(Share.fits_unloaded hd).2 ⟨rfl, rfl⟩, by simp⟩
    | ok rule =>
      obtain ⟨calls, result, -, hrun, -, hcalls⟩ :=
        Party.exists_served (rote_answers reply) (Run.plan dispatcher rule) ()
      exact ⟨⟨record, calls, result⟩ :: shares, by simp [hrest],
        List.forall_mem_cons.2 ⟨⟨(Share.fits_loaded hd).2 hrun, hcalls⟩, hall⟩⟩

/-- **A batch is its rules, one at a time.** A guarded batch lists the records and gives each its
share, in order, and any shares that fit can come together; there always are some. Its permit is
renewed in between and released at the end. No port is called but by the runs of the rules, and
every record, as the stores list it, has a report with its name and with what its own run came to.
A caller who waits and the timer run the same batch, and the timer counts its failures; one rule
that is run by itself has the share that it has in a batch. -/
theorem isolated (dispatcher : Dispatch.Dispatcher) :
    (∀ p es result, (Sweep.under dispatcher p).Runs es result ↔ ∃ own during left,
      es = during ++ left ∧ Sweep.WithRenewals p own during ∧ Course dispatcher own result ∧
      (Sweep.giveBack p).Runs left ()) ∧
    (∀ reply records, ∃ shares : List Share, shares.map Share.record = records ∧
      ∀ sh ∈ shares, sh.Fits dispatcher ∧ ∀ e ∈ sh.calls, ByRote reply e) ∧
    (∀ p left, (Sweep.giveBack p).Runs left () → ∃ r, portCalls left = [⟨.release p, r⟩]) ∧
    (∀ shares : List Share,
      portCalls (shares.flatMap Share.exchanges) = shares.flatMap fun sh => portCalls sh.calls) ∧
    (∀ (s : Store), ∀ record ∈ s.active, record.Named) ∧
    (∀ row : Table.RuleRow, row.record.Named) ∧
    (∀ sh : Share, sh.Fits dispatcher →
      (sh.record.Named → sh.report = ⟨sh.record.ruleId, sh.record.ruleName, sh.result⟩) ∧
      ∀ f, sh.result = .error f →
        (sh.report.summary? = none ∧ sh.report.error? = some f.message) ∧
        ((sh.record.decoded = .error f ∧ sh.calls = []) ∨
          ∃ rule, sh.record.decoded = .ok rule ∧ sh.calls = [listing (.error f)])) ∧
    (∀ p es result,
      (Sweep.runAll dispatcher).Runs (⟨.acquire Sweep.scope, .ok (some p)⟩ :: es) result ↔
        (Sweep.under dispatcher p).Runs es result) ∧
    (∀ (p : Permit) (startedAt : Instant) (es : List (Exchange Call.signature))
        (t? : Option Sweep.Tick),
      (Sweep.tick dispatcher).Runs
          (⟨.now, startedAt⟩ :: ⟨.acquire Sweep.scope, .ok (some p)⟩ :: es) t? ↔
        ∃ guarded ending result t, es = guarded ++ ending ∧
          (Sweep.under dispatcher p).Runs guarded result ∧
          (Sweep.conclude startedAt result).Runs ending t ∧ t? = some t) ∧
    (∀ startedAt rs ending t, (Sweep.conclude startedAt (.ok rs)).Runs ending t →
      t.failed = rs.countP (·.isFailure) ∧ t.executed + t.failed = rs.length ∧ t.error = none) ∧
    ∀ (sh : Share) (rule : Rule) (id : RuleId), sh.record.decoded = .ok rule →
      ((Service.withRule id (Run.plan dispatcher)).Runs
        (⟨.findRule id, .ok (some rule)⟩ :: sh.calls) sh.result ↔ sh.Fits dispatcher) := by
  refine ⟨fun p es result => Sweep.runs_under_iff, exists_shares dispatcher,
    fun p left => Sweep.portCalls_of_giveBack,
    portCalls_shares, fun s record => Store.named_of_active, Table.named_of_row,
    fun sh h => ⟨Share.report_eq, fun f hf => ⟨?_, Share.fault_cause h hf⟩⟩,
    fun p es result => Sweep.runs_runAll_iff, fun p startedAt es t? => Sweep.runs_tick_iff,
    fun startedAt rs ending t => Sweep.counts_of_conclude,
    fun sh rule id hd => runs_withRule_iff hd id⟩
  unfold Report.summary? Report.error? Share.report
  rw [hf]
  exact ⟨rfl, rfl⟩

/-! ## A batch in which rules fail -/

/-- A record that cannot be loaded, one whose listing of peers fails, and one that is run. -/
def mixedShares : List Share :=
  [⟨⟨.ofNat 3, "Old", .error (.internal "corrupt")⟩, [], .error (.internal "corrupt")⟩,
    ⟨.ofRule inboundRule, [listing (.error (.internal "down"))], .error (.internal "down")⟩,
    ⟨.ofRule inboundRule, script inboundRule [outboundPeer] [], .ok (tally inboundRule [])⟩]

def mixedPermit : Permit := ⟨Sweep.scope, "token"⟩

def mixedListing : Exchange Call.signature := ⟨.listActive, .ok (mixedShares.map Share.record)⟩

theorem isolated_mixed :
    (∀ sh ∈ mixedShares, sh.Fits RulesPlan.dispatch) ∧
      (Sweep.under RulesPlan.dispatch mixedPermit).Runs
        (mixedListing :: ⟨.renew mixedPermit, .ok true⟩ ::
          (mixedShares.flatMap Share.exchanges ++ [⟨.release mixedPermit, .ok ()⟩]))
        (.ok (mixedShares.map Share.report)) := by
  have hfits : ∀ sh ∈ mixedShares, sh.Fits RulesPlan.dispatch := by
    simp only [mixedShares, List.mem_cons, List.not_mem_nil, or_false]
    rintro sh (rfl | rfl | rfl)
    · exact ⟨rfl, rfl⟩
    · exact (Run.runs_plan_iff rfl).2 (.inl ⟨_, rfl, rfl⟩)
    · exact (Run.runs_plan_iff rfl).2 (.inr ⟨[outboundPeer], [], rfl, by simp, rfl, rfl⟩)
  have hwith : ∀ xs, Sweep.WithRenewals mixedPermit xs xs := by
    intro xs
    induction xs with
    | nil => exact .nil
    | cons e xs ih => exact .own ih
  refine ⟨hfits, ((isolated RulesPlan.dispatch).1 mixedPermit _ _).2
    ⟨_, _, [⟨.release mixedPermit, .ok ()⟩], rfl, .own (.renewal (.ok true) (hwith _)),
      .listed mixedShares hfits, Plan.runs_call_iff.2 ⟨.ok (), [], rfl, .done _⟩⟩⟩

end Batch

end PeerRules
