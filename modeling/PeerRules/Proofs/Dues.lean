import PeerRules.Proofs.SingleFlight
import PeerRules.Proofs.Turns
import PeerRules.Schedule

/-!
# What a tick owes

What calls leave undone is read off them: the permits that were got and not given back, and the
orders that the node was given and no entry was appended for (`dues`).

A tick owes nothing before it has its permit and nothing after it has given that back. In between it
owes the permit and, from an order up to the entry about it, that order; the entry is what it asks
for next then. So whatever is due says where the tick is (`Owes`), and every step keeps it so.

* `Plan.Orderly.step`: the order that waits for its entry is the one that is due.
* `Batch.plan_orderly`: a batch gives no order before there is an entry about the one before.
* `Sweep.Owes.step`: what a tick owes, after a step of it.
* `Sweep.Owes.clear_iff`: a tick owes nothing just while it holds no permit.
-/
namespace PeerRules

open Plan Dispatch

/-! ## What is due -/

/-- Whether an entry is about an order: it names what was ordered, and has the attributes of the
peer that the order was about. -/
def Audit.NewEntry.isAbout (entry : Audit.NewEntry) (o : Control) : Bool :=
  match Peer.ofValue entry.peerSnapshot, o with
  | .ok p, .ban address _ => entry.actionTaken == "ban" && p.address? == some address
  | .ok p, .disconnect id => entry.actionTaken == "disconnect" && p.id? == some id
  | .error _, _ => false

/-- What calls leave to be done. -/
structure Dues where
  /-- The permits that were got and not given back. -/
  permits : List Permit
  /-- The orders that the node was given and no entry about them was appended for, oldest first. -/
  orders : List Control
  deriving DecidableEq

namespace Dues

def clear : Dues := ⟨[], []⟩

/-- What is due after one more call. A permit counts as given back whatever came of that, and an
order as recorded whether or not the entry arrived. -/
def after (d : Dues) : Exchange Call.signature → Dues
  | ⟨.acquire _, .ok (some p)⟩ => { d with permits := d.permits ++ [p] }
  | ⟨.release p, _⟩ => { d with permits := d.permits.erase p }
  | ⟨.control o _, _⟩ => { d with orders := d.orders ++ [o] }
  | ⟨.append entry, _⟩ => { d with orders := d.orders.eraseP entry.isAbout }
  | _ => d

end Dues

def dues (es : List (Exchange Call.signature)) : Dues := es.foldl Dues.after .clear

theorem dues_append (xs ys : List (Exchange Call.signature)) :
    dues (xs ++ ys) = ys.foldl Dues.after (dues xs) := List.foldl_append

namespace Call

def isAboutOrders : Call → Bool
  | .control _ _ | .append _ => true
  | _ => false

theorem isAboutOrders_of_isAside {c : Call} (h : c.isAside = true) : c.isAboutOrders = false := by
  cases c <;> first | rfl | cases h

end Call

theorem Dues.after_other {c : Call} (hp : c.isAboutPermits = false) (ho : c.isAboutOrders = false)
    (d : Dues) (r : c.Reply) : d.after ⟨c, r⟩ = d := by
  cases c <;> first | rfl | (cases ho; done) | cases hp

/-! ## An order is recorded next -/

namespace Plan

variable {α β : Type}

/-- Right after each order an entry about it is appended. The index is the order that waits for its
entry. -/
inductive Orderly : Option Control → RulesPlan α → Prop where
  | done (a : α) : Orderly none (.done a)
  | control {o : Control} {limit : Nat} {next : Option (Except Fault Outcome) → RulesPlan α}
      (h : ∀ r, Orderly (some o) (next r)) : Orderly none (.call (.control o limit) next)
  | append {waiting : Option Control} {entry : Audit.NewEntry}
      {next : Except Fault Audit.Entry → RulesPlan α}
      (habout : ∀ o, waiting = some o → entry.isAbout o = true) (h : ∀ r, Orderly none (next r)) :
      Orderly waiting (.call (.append entry) next)
  | other {c : Call} {next : c.Reply → RulesPlan α} (hc : c.isAboutOrders = false)
      (h : ∀ r, Orderly none (next r)) : Orderly none (.call c next)

variable {waiting : Option Control}

theorem Orderly.bind {p : RulesPlan α} {f : α → RulesPlan β} (hp : Orderly waiting p)
    (hf : ∀ a, Orderly none (f a)) : Orderly waiting (p.bind f) := by
  induction hp with
  | done a => exact hf a
  | control _ ih => exact .control ih
  | append habout _ ih => exact .append habout ih
  | other hc _ ih => exact .other hc ih

theorem Orderly.log (e : Log.Event) : Orderly none (RulesPlan.log e) :=
  .other rfl fun _ => .done _

/-- The order that waits is the one that is due. -/
theorem Orderly.step {c : Call} {next : c.Reply → RulesPlan α} (hp : Orderly waiting (.call c next))
    (hc : c.isAboutPermits = false) (permits : List Permit) (r : c.Reply) :
    ∃ later, Orderly later (next r) ∧
      Dues.after ⟨permits, waiting.toList⟩ ⟨c, r⟩ = ⟨permits, later.toList⟩ := by
  cases hp with
  | @control o _ _ h => exact ⟨some o, h r, rfl⟩
  | @append _ entry _ habout h =>
    have hnone : waiting.toList.eraseP entry.isAbout = [] := by
      cases waiting with
      | none => rfl
      | some o => simp [habout o rfl]
    exact ⟨none, h r, congrArg (Dues.mk permits) hnone⟩
  | other ho h => exact ⟨none, h r, Dues.after_other hc ho _ r⟩

end Plan

namespace Run

theorem toNode_bind (limitMs : Nat) (p : Peer) (a : Action) {α : Type}
    (f : Except Fault Outcome → RulesPlan α) :
    (toNode limitMs p a).bind f = match order p a with
      | .error reason => f (.ok (.failed reason))
      | .ok o => .call (.log (announcement o)) fun _ =>
        .call (.control o (deadline limitMs)) fun reply =>
          f (.ok (outcome (deadline limitMs) reply)) := by
  unfold toNode Dispatch.plan planBy
  cases order p a <;> rfl

variable {limitMs : Nat} {r : Rule}

theorem afterAppend_orderly (p : Peer) (v : Bool × String) (appended : Except Fault Audit.Entry) :
    Orderly none (afterAppend r p v appended) := by
  cases appended with
  | ok e => exact .done _
  | error f => exact .other rfl fun _ => .done _

theorem isAbout_entryFor {p : Peer} {o : Control} (h : order p r.action = .ok o) (moment : Instant)
    (text : String) : (entryFor r p moment text).isAbout o = true := by
  unfold order at h
  cases ha : r.action with
  | ban seconds =>
    cases hp : p.address? with
    | none => simp [ha, hp] at h
    | some address =>
      simp only [ha, hp] at h
      cases h
      simp [Audit.NewEntry.isAbout, entryFor, Peer.ofValue, Peer.snapshot, ha, hp, Action.name]
  | disconnect =>
    cases hp : p.id? with
    | none => simp [ha, hp] at h
    | some id =>
      simp only [ha, hp] at h
      cases h
      simp [Audit.NewEntry.isAbout, entryFor, Peer.ofValue, Peer.snapshot, ha, hp, Action.name]
  | unsupported name => simp [ha] at h

theorem applyTo_orderly (p : Peer) : Orderly none (applyTo (toNode limitMs) r p) := by
  rw [applyTo_eq]
  refine .other rfl fun moment => ?_
  rw [toNode_bind]
  cases ho : order p r.action with
  | error reason => exact .append nofun fun appended => afterAppend_orderly p _ appended
  | ok o =>
    refine .other rfl fun _ => .control fun reply => .append ?_ fun appended =>
      afterAppend_orderly p _ appended
    rintro _ ⟨⟩
    exact isAbout_entryFor ho moment _

theorem applyAll_orderly (peers : List Peer) :
    Orderly none (applyAll (toNode limitMs) r peers) := by
  induction peers with
  | nil => exact .done _
  | cons p rest ih => exact (applyTo_orderly p).bind fun _ => ih.bind fun _ => .done _

theorem warn_orderly (peers : List Peer) : Orderly none (warn r peers) := by
  induction peers with
  | nil => exact .done _
  | cons p rest ih =>
    unfold warn
    cases r.conditions.unknownReached? p with
    | none => exact ih
    | some u => exact .other rfl fun _ => ih

theorem plan_orderly (r : Rule) : Orderly none (plan (toNode limitMs) r) := by
  cases ha : r.isActive with
  | false =>
    rw [inactive_makes_no_call ha]
    exact .done _
  | true =>
    rw [plan_eq _ ha]
    refine .other rfl fun reply => ?_
    cases reply with
    | error f => exact .done _
    | ok peers =>
      exact (warn_orderly peers).bind fun _ => (applyAll_orderly _).bind fun _ =>
        .other rfl fun _ => .done _

end Run

namespace Batch

variable {limitMs : Nat}

theorem report_orderly (record : Record) : Orderly none (report (toNode limitMs) record) := by
  unfold report
  cases record.decoded with
  | error f => exact (Orderly.log _).bind fun _ => .done _
  | ok rule =>
    refine (Run.plan_orderly rule).bind fun result => ?_
    cases result with
    | ok s => exact .done _
    | error f => exact (Orderly.log _).bind fun _ => .done _

theorem reports_orderly (records : List Record) :
    Orderly none (reports (toNode limitMs) records) := by
  induction records with
  | nil => exact .done _
  | cons record rest ih => exact (report_orderly record).bind fun _ => ih.bind fun _ => .done _

theorem plan_orderly : Orderly none (plan (toNode limitMs)) := by
  refine .other rfl fun reply => ?_
  cases reply with
  | error f => exact .done _
  | ok records => exact (reports_orderly records).bind fun _ => .done _

end Batch

/-! ## What a tick owes -/

namespace Sweep

variable {α β : Type} {w v : Sweep α} {d : Dues} {es : List (Exchange Call.signature)}

/-- An entry is appended right after each order, and orders are given by batches only. The index is
the order that waits for its entry. -/
inductive Orderly : Option Control → Sweep α → Prop where
  | done (a : α) : Orderly none (.done a)
  | call {c : Call} {next : c.Reply → Sweep α} (hc : c.isAboutOrders = false)
      (h : ∀ r, Orderly none (next r)) : Orderly none (.call c next)
  | guarded {waiting : Option Control} {p : Permit} {work : RulesPlan Batch.Result}
      {next : Batch.Result → Sweep α} (hw : Plan.Orderly waiting work)
      (h : ∀ r, Orderly none (next r)) : Orderly waiting (.guarded p work next)

theorem Orderly.bind {waiting : Option Control} {f : α → Sweep β} (hw : Orderly waiting w)
    (hf : ∀ a, Orderly none (f a)) : Orderly waiting (w.bind f) := by
  induction hw with
  | done a => exact hf a
  | call hc _ ih => exact .call hc ih
  | guarded hw _ ih => exact .guarded hw ih

theorem under_orderly (limitMs : Nat) (p : Permit) :
    Orderly none (under (toNode limitMs) p) := by
  refine .guarded Batch.plan_orderly fun result => .call rfl fun released => ?_
  cases released with
  | ok => exact .done _
  | error f => exact .call rfl fun _ => .done _

theorem conclude_orderly (startedAt : Instant) (result : Batch.Result) :
    Orderly none (ofPlan (conclude startedAt result)) := by
  cases result with
  | ok rs => exact .call rfl fun _ => .call rfl fun _ => .done _
  | error f => exact .call rfl fun _ => .call rfl fun _ => .call rfl fun _ => .done _

theorem tick_orderly (limitMs : Nat) : Orderly none (tick (toNode limitMs)) := by
  refine .call rfl fun startedAt => .call rfl fun reply => ?_
  match reply with
  | .error f => exact .call rfl fun _ => .call rfl fun _ => .done _
  | .ok none => exact .call rfl fun _ => .done _
  | .ok (some p) =>
    exact (under_orderly limitMs p).bind fun result =>
      (conclude_orderly startedAt result).bind fun _ => .done _

/-- The permit that a sweep holds: its batch runs under it, or it gives it back next. -/
def permit? : Sweep α → Option Permit
  | .guarded p _ _ => some p
  | .call (.release p) _ => some p
  | _ => none

/-- What the sweep's batch does next is to append an entry about an order. -/
def Records (w : Sweep α) (o : Control) : Prop :=
  ∃ p entry rest next, w = .guarded p (.call (.append entry) rest) next ∧ entry.isAbout o = true

/-- What a sweep owes. -/
inductive Owes : Sweep α → Dues → Prop where
  /-- Nothing, before it has a permit. -/
  | before {w : Sweep α} {R : α → Prop} (h : Asking R w) (ho : Orderly none w) : Owes w .clear
  /-- The permit that it has, and the order that waits for its entry. -/
  | inside {w : Sweep α} {p : Permit} {waiting : Option Control} (h : Holding p w)
      (ho : Orderly waiting w) : Owes w ⟨[p], waiting.toList⟩
  /-- Nothing, once it has given the permit back or was refused. -/
  | after {w : Sweep α} {R : α → Prop} (h : Telling R w) : Owes w .clear

theorem Owes.permit {p : Permit} (h : Holding p w) (ho : Orderly none w) : Owes w ⟨[p], []⟩ :=
  .inside h ho

theorem Owes.step (h : Owes w d) (hs : Step w es v) : Owes v (es.foldl Dues.after d) := by
  cases h with
  | before h ho =>
    cases ho with
    | done => cases hs
    | guarded => cases h
    | call _ ho =>
      cases hs with
      | call c next reply =>
        cases h with
        | clock hn => exact .before (hn reply) (ho reply)
        | acquire herror hnone hsome =>
          match reply with
          | .error f => exact .after (herror f)
          | .ok none => exact .after hnone
          | .ok (some p) => exact .permit (hsome p) (ho _)
  | @inside p waiting h ho =>
    cases h with
    | batch hb hn hr =>
      cases ho with
      | guarded hw ho =>
        cases hs with
        | batch p c rest next reply =>
          cases hb with
          | call hc hb =>
            obtain ⟨later, hlater, hd⟩ := hw.step hc [p] reply
            have howes := Owes.inside (.batch (hb reply) hn hr) (.guarded hlater ho)
            rw [← hd] at howes
            exact howes
        | renewal p c rest next reply => exact .inside (.batch hb hn hr) (.guarded hw ho)
        | finish p result next =>
          cases hw
          exact .permit (hn result) (ho result)
    | leaving hn =>
      cases ho with
      | call _ ho =>
        cases hs with
        | call c next reply =>
          have hd : Dues.after ⟨[p], []⟩ ⟨.release p, reply⟩ = .clear := by
            simp [Dues.after, Dues.clear]
          have howes := Owes.after (hn reply)
          rw [← hd] at howes
          exact howes
  | after h =>
    cases h with
    | done => cases hs
    | call hc hn =>
      cases hs with
      | call c next reply =>
        have howes := Owes.after (hn reply)
        rw [← Dues.after_other (Call.isAboutPermits_of_isAside hc)
          (Call.isAboutOrders_of_isAside hc) .clear reply] at howes
        exact howes

theorem Owes.permits_eq (h : Owes w d) : d.permits = w.permit?.toList := by
  cases h with
  | before h => cases h <;> rfl
  | inside h => cases h <;> rfl
  | after h =>
    cases h with
    | done => rfl
    | @call c _ hc => cases c <;> first | rfl | cases hc

theorem Owes.records (h : Owes w d) {o : Control} (ho : o ∈ d.orders) : Records w o := by
  cases h with
  | before => cases ho
  | inside h horderly =>
    obtain rfl := Option.mem_toList.1 ho
    cases horderly with
    | guarded hw =>
      cases hw with
      | append habout => exact ⟨_, _, _, _, rfl, habout o rfl⟩
  | after => cases ho

theorem Owes.clear_iff (h : Owes w d) : d = .clear ↔ w.permit? = none := by
  have hp := h.permits_eq
  constructor
  · rintro rfl
    exact Option.toList_eq_nil_iff.1 hp.symm
  · intro hnone
    cases h with
    | inside => simp [hnone] at hp
    | _ => rfl

end Sweep

theorem Scheduler.tick_owes (limitMs : Nat) : Sweep.Owes (tick (toNode limitMs)) .clear := by
  refine .before (R := (· = none)) ((Sweep.tick_asking limitMs).bind ?_ fun t => ?_) ?_
  · rintro _ rfl
    exact .done rfl
  · cases t.bind (·.error) with
    | none => exact .done trivial
    | some e => exact .call rfl fun _ => .done trivial
  · refine (Sweep.tick_orderly limitMs).bind fun t => ?_
    cases t.bind (·.error) with
    | none => exact .done _
    | some e => exact .call rfl fun _ => .done _

end PeerRules
