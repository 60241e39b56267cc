import PeerRules.Batch

/-!
# Which calls a plan can make

A plan stays within a kind of calls if it makes no other, whatever the replies. What a plan is made
of decides: a run stays within any kind that has the calls of a run and those of its dispatcher.

* `Plan.Within.bind`: two plans in sequence.
* `Plan.runs_ask_iff`: what a single call calls.
* `Run.plan_within`, `Batch.plan_within`: runs and batches.
-/
namespace PeerRules

namespace Plan

variable {P : Signature} {α β : Type} {kind : P.Call → Prop}

/-- Whatever the replies, every call of the plan is of the kind. -/
inductive Within (kind : P.Call → Prop) : Plan P α → Prop where
  | done (a : α) : Within kind (.done a)
  | call {c : P.Call} {next : P.Reply c → Plan P α} (hc : kind c)
      (h : ∀ r, Within kind (next r)) : Within kind (.call c next)

theorem Within.ask {c : P.Call} (hc : kind c) : Within kind (ask c) := .call hc fun r => .done r

theorem Within.bind {p : Plan P α} {f : α → Plan P β} (hp : Within kind p)
    (hf : ∀ a, Within kind (f a)) : Within kind (p.bind f) := by
  induction hp with
  | done a => exact hf a
  | call hc _ ih => exact .call hc ih

theorem Within.mono {kind' : P.Call → Prop} {p : Plan P α} (h : Within kind p)
    (hk : ∀ c, kind c → kind' c) : Within kind' p := by
  induction h with
  | done a => exact .done a
  | call hc _ ih => exact .call (hk _ hc) ih

theorem runs_ask_iff {c : P.Call} {r : P.Reply c} {es : List (Exchange P)} :
    (ask c).Runs es r ↔ es = [⟨c, r⟩] := by
  constructor
  · intro h
    obtain ⟨reply, rest, rfl, hdone⟩ := runs_call_iff.1 h
    obtain ⟨rfl, rfl⟩ := runs_done_iff.1 hdone
    rfl
  · rintro rfl
    exact .call r (.done r)

end Plan

open Plan

/-- The calls that every run makes, whatever applies its actions. -/
structure Run.Kind (kind : Call → Prop) : Prop where
  listPeers : kind .listPeers
  append : ∀ e, kind (.append e)
  log : ∀ e, kind (.log e)
  now : kind .now

variable {kind : Call → Prop} {dispatcher : Dispatch.Dispatcher}

theorem Dispatch.toNode_within (hl : ∀ e, kind (.log e)) (hc : ∀ o limit, kind (.control o limit))
    (limitMs : Nat) (p : Peer) (a : Action) :
    Within (P := Call.signature) kind (toNode limitMs p a) := by
  unfold toNode plan planBy
  cases order p a with
  | error reason => exact .done _
  | ok o =>
    refine .bind (.bind (.ask (hl _)) fun _ => ?_) fun _ => .done _
    exact .bind (.ask (hc o (deadline limitMs))) fun _ => .done _

namespace Run

theorem warn_within (hk : Kind kind) (r : Rule) (peers : List Peer) :
    Within (P := Call.signature) kind (warn r peers) := by
  induction peers with
  | nil => exact .done _
  | cons p rest ih =>
    unfold warn
    cases r.conditions.unknownReached? p with
    | none => exact ih
    | some u => exact .bind (.ask (hk.log _)) fun _ => ih

theorem applyTo_within (hk : Kind kind) (r : Rule) (p : Peer)
    (hd : Within (P := Call.signature) kind (dispatcher p r.action)) :
    Within (P := Call.signature) kind (applyTo dispatcher r p) := by
  refine .bind (.ask hk.now) fun moment => .bind hd fun dispatched => ?_
  refine .bind (.ask (hk.append _)) fun appended => ?_
  cases appended with
  | ok e => exact .done _
  | error f => exact .bind (.ask (hk.log _)) fun _ => .done _

theorem applyAll_within (hk : Kind kind) (r : Rule) (peers : List Peer)
    (hd : ∀ p, Within (P := Call.signature) kind (dispatcher p r.action)) :
    Within (P := Call.signature) kind (applyAll dispatcher r peers) := by
  induction peers with
  | nil => exact .done _
  | cons p rest ih => exact .bind (applyTo_within hk r p (hd p)) fun _ => .bind ih fun _ => .done _

theorem plan_within (hk : Kind kind) (r : Rule)
    (hd : ∀ p, Within (P := Call.signature) kind (dispatcher p r.action)) :
    Within (P := Call.signature) kind (plan dispatcher r) := by
  unfold plan
  split
  · refine .bind (.ask hk.listPeers) fun listed => ?_
    cases listed with
    | error f => exact .done _
    | ok peers =>
      refine .bind (warn_within hk r peers) fun _ => ?_
      refine .bind (applyAll_within hk r (targets r peers) hd) fun outcomes => ?_
      exact .bind (.ask (hk.log _)) fun _ => .done _
  · exact .done _

end Run

namespace Batch

theorem failed_within (hl : ∀ e, kind (.log e)) (id : RuleId) (name : String) (f : Fault) :
    Within (P := Call.signature) kind (failed id name f) := .bind (.ask (hl _)) fun _ => .done _

theorem report_within (hk : Run.Kind kind) (record : Record)
    (hd : ∀ p a, Within (P := Call.signature) kind (dispatcher p a)) :
    Within (P := Call.signature) kind (report dispatcher record) := by
  unfold report
  cases record.decoded with
  | error f => exact failed_within hk.log _ _ f
  | ok rule =>
    refine .bind (Run.plan_within hk rule fun p => hd p rule.action) fun result => ?_
    cases result with
    | ok s => exact .done _
    | error f => exact failed_within hk.log _ _ f

theorem reports_within (hk : Run.Kind kind) (records : List Record)
    (hd : ∀ p a, Within (P := Call.signature) kind (dispatcher p a)) :
    Within (P := Call.signature) kind (reports dispatcher records) := by
  induction records with
  | nil => exact .done _
  | cons record rest ih =>
    exact .bind (report_within hk record hd) fun _ => .bind ih fun _ => .done _

theorem plan_within (hk : Run.Kind kind) (hl : kind .listActive)
    (hd : ∀ p a, Within (P := Call.signature) kind (dispatcher p a)) :
    Within (P := Call.signature) kind (plan dispatcher) := by
  refine .bind (.ask hl) fun listed => ?_
  cases listed with
  | error f => exact .done _
  | ok records => exact .bind (reports_within hk records hd) fun _ => .done _

end Batch

end PeerRules
