import Mathlib.Data.List.Induction
import PeerRules.Proofs.Amending
import PeerRules.Proofs.Dues
import PeerRules.Proofs.Histories
import PeerRules.Proofs.Shutdown

/-!
# Orders for the rules that were listed

A batch lists the active rules once, and then runs them from that listing. Beside it, rules are
created, amended, switched on and off and deleted in the same store. So an order to the node is for
a rule that was stored and active when the batch listed the rules; at the moment of the order it
still is unless somebody has written it since, and the entry after the order arrives unless the rule
was deleted in between.

* `Plan.Follows`, `Sweep.Follows`: what is still to be ordered is for rules of the listing.
* `Sweep.Follows.step`, `Sweep.Follows.steps`: kept by every step of a sweep, and by every run.
* `Sweep.Follows.waiting_steps`: the entry after an order is about the order and its rule.
* `Store.find?_of_serves`, `Store.contains_of_serves`: what nobody writes stays.
* `Crew.orders_for_listed`: the orders of a batch among callers who keep rules.
-/
namespace PeerRules

open Plan Dispatch

/-- The rule makes the order about a peer that meets its conditions. -/
def Rule.Demands (r : Rule) (o : Control) : Prop :=
  ∃ p : Peer, r.conditions.meets p = true ∧ order p r.action = .ok o

namespace Call

def isOfBatch : Call → Bool
  | .listActive | .control _ _ | .append _ => true
  | _ => false

theorem isOfBatch_of_isAside {c : Call} (h : c.isAside = true) : c.isOfBatch = false := by
  cases c <;> first | rfl | cases h

end Call

/-! ## Orders of a plan -/

namespace Plan

variable {α β : Type} {records : List Record} {waiting : Option (Rule × Control)}

/-- Every order is for a rule of the records, and the entry right after it is about that order and
that rule. The index is the order that waits for its entry, with its rule. -/
inductive Follows (records : List Record) : Option (Rule × Control) → RulesPlan α → Prop where
  | done (a : α) : Follows records none (.done a)
  | control {record : Record} {rule : Rule} {o : Control} {limit : Nat}
      {next : Option (Except Fault Outcome) → RulesPlan α} (hin : record ∈ records)
      (hrule : record.decoded = .ok rule) (ho : rule.Demands o)
      (h : ∀ r, Follows records (some (rule, o)) (next r)) :
      Follows records none (.call (.control o limit) next)
  | append {waiting : Option (Rule × Control)} {entry : Audit.NewEntry}
      {next : Except Fault Audit.Entry → RulesPlan α}
      (habout : ∀ rule o, waiting = some (rule, o) →
        entry.ruleId = rule.id ∧ entry.isAbout o = true)
      (h : ∀ r, Follows records none (next r)) :
      Follows records waiting (.call (.append entry) next)
  | other {c : Call} {next : c.Reply → RulesPlan α} (hc : c.isOfBatch = false)
      (h : ∀ r, Follows records none (next r)) : Follows records none (.call c next)

theorem Follows.bind {p : RulesPlan α} {f : α → RulesPlan β} (hp : Follows records waiting p)
    (hf : ∀ a, Follows records none (f a)) : Follows records waiting (p.bind f) := by
  induction hp with
  | done a => exact hf a
  | control hin hrule ho _ ih => exact .control hin hrule ho ih
  | append habout _ ih => exact .append habout ih
  | other hc _ ih => exact .other hc ih

theorem Follows.log (e : Log.Event) : Follows records none (RulesPlan.log e) :=
  .other rfl fun _ => .done _

end Plan

namespace Run

variable {limitMs : Nat} {records : List Record} {record : Record} {r : Rule}

theorem afterAppend_follows (p : Peer) (v : Bool × String)
    (appended : Except Fault Audit.Entry) :
    Follows records none (afterAppend r p v appended) := by
  cases appended with
  | ok e => exact .done _
  | error f => exact .other rfl fun _ => .done _

theorem applyTo_follows (hin : record ∈ records) (hrule : record.decoded = .ok r) {p : Peer}
    (hp : r.conditions.meets p = true) :
    Follows records none (applyTo (toNode limitMs) r p) := by
  rw [applyTo_eq]
  refine .other rfl fun moment => ?_
  rw [toNode_bind]
  cases ho : order p r.action with
  | error reason =>
    exact .append (fun _ _ h => by cases h) fun appended => afterAppend_follows p _ appended
  | ok o =>
    refine .other rfl fun _ => .control hin hrule ⟨p, hp, ho⟩ fun reply => .append ?_
      fun appended => afterAppend_follows p _ appended
    intro rule o' hwaiting
    cases hwaiting
    exact ⟨rfl, isAbout_entryFor ho moment _⟩

theorem applyAll_follows (hin : record ∈ records) (hrule : record.decoded = .ok r)
    {peers : List Peer} (hpeers : ∀ p ∈ peers, r.conditions.meets p = true) :
    Follows records none (applyAll (toNode limitMs) r peers) := by
  induction peers with
  | nil => exact .done _
  | cons p rest ih =>
    obtain ⟨hp, hrest⟩ := List.forall_mem_cons.1 hpeers
    exact (applyTo_follows hin hrule hp).bind fun _ => (ih hrest).bind fun _ => .done _

theorem warn_follows (peers : List Peer) : Follows records none (warn r peers) := by
  induction peers with
  | nil => exact .done _
  | cons p rest ih =>
    unfold warn
    cases r.conditions.unknownReached? p with
    | none => exact ih
    | some u => exact .other rfl fun _ => ih

theorem plan_follows (hin : record ∈ records) (hrule : record.decoded = .ok r) :
    Follows records none (plan (toNode limitMs) r) := by
  cases ha : r.isActive with
  | false =>
    rw [inactive_makes_no_call ha]
    exact .done _
  | true =>
    rw [plan_eq _ ha]
    refine .other rfl fun reply => ?_
    cases reply with
    | error f => exact .done _
    | ok peers =>
      have hpeers : ∀ p ∈ targets r peers, r.conditions.meets p = true :=
        fun p hp => (List.mem_filter.1 hp).2
      exact (warn_follows peers).bind fun _ => (applyAll_follows hin hrule hpeers).bind fun _ =>
        .other rfl fun _ => .done _

end Run

namespace Batch

variable {limitMs : Nat} {records : List Record}

theorem report_follows {record : Record} (hin : record ∈ records) :
    Follows records none (report (toNode limitMs) record) := by
  unfold report
  cases hrule : record.decoded with
  | error f => exact (Follows.log _).bind fun _ => .done _
  | ok rule =>
    refine (Run.plan_follows hin hrule).bind fun result => ?_
    cases result with
    | ok s => exact .done _
    | error f => exact (Follows.log _).bind fun _ => .done _

theorem reports_follows {some : List Record} (hsome : ∀ record ∈ some, record ∈ records) :
    Follows records none (reports (toNode limitMs) some) := by
  induction some with
  | nil => exact .done _
  | cons record rest ih =>
    obtain ⟨hin, hrest⟩ := List.forall_mem_cons.1 hsome
    exact (report_follows hin).bind fun _ => (ih hrest).bind fun _ => .done _

end Batch

/-! ## Orders of a sweep -/

/-- The last listing of the active rules, after one more call. -/
def heard (listing : Option (List Record)) : Exchange Call.signature → Option (List Record)
  | ⟨.listActive, reply⟩ => reply.toOption
  | _ => listing

theorem heard_of_ne {c : Call} (hc : c ≠ .listActive) (listing : Option (List Record))
    (r : c.Reply) : heard listing ⟨c, r⟩ = listing := by
  cases c <;> first | rfl | exact absurd rfl hc

theorem heard_other {c : Call} (hc : c.isOfBatch = false) (listing : Option (List Record))
    (r : c.Reply) : heard listing ⟨c, r⟩ = listing := by
  refine heard_of_ne (fun h => ?_) listing r
  rw [h] at hc
  cases hc

def lastListing (es : List (Exchange Call.signature)) : Option (List Record) :=
  es.foldl heard none

/-- Where a listing is the last one. -/
theorem split_of_lastListing {es : List (Exchange Call.signature)} {records : List Record}
    (h : lastListing es = some records) : ∃ before since,
      es = before ++ ⟨.listActive, .ok records⟩ :: since ∧ ∀ e ∈ since, e.call ≠ .listActive := by
  induction es using List.reverseRecOn with
  | nil => cases h
  | append_singleton es e ih =>
    unfold lastListing at h
    rw [List.foldl_append] at h
    obtain ⟨c, reply⟩ := e
    by_cases hc : c = .listActive
    · subst hc
      change reply.toOption = some records at h
      cases reply with
      | error f => cases h
      | ok found =>
        cases h
        exact ⟨es, [], rfl, fun e he => by cases he⟩
    · change heard (lastListing es) ⟨c, reply⟩ = some records at h
      have hlast : lastListing es = some records := (heard_of_ne hc _ reply).symm.trans h
      obtain ⟨before, since, rfl, hsince⟩ := ih hlast
      refine ⟨before, since ++ [⟨c, reply⟩], by simp, fun e he => ?_⟩
      rcases List.mem_append.1 he with hold | hnew
      · exact hsince e hold
      · rw [List.mem_singleton.1 hnew]
        exact hc

namespace Sweep

variable {α β : Type} {w v : Sweep α} {listing : Option (List Record)}
  {waiting : Option (Rule × Control)} {es : List (Exchange Call.signature)} {rule : Rule}
  {o : Control}

/-- Every order is for a rule of the listing, if there has been one, and orders are given by batches
only. -/
inductive Follows : Option (List Record) → Option (Rule × Control) → Sweep α → Prop where
  | done {listing : Option (List Record)} (a : α) : Follows listing none (.done a)
  | call {listing : Option (List Record)} {c : Call} {next : c.Reply → Sweep α}
      (hc : c.isOfBatch = false) (h : ∀ r, Follows listing none (next r)) :
      Follows listing none (.call c next)
  /-- The batch lists the rules next. -/
  | unlisted {p : Permit} {rest : Except Fault (List Record) → RulesPlan Batch.Result}
      {next : Batch.Result → Sweep α}
      (hok : ∀ records, Plan.Follows records none (rest (.ok records)))
      (herror : ∀ f, ∃ result, rest (.error f) = .done result)
      (h : ∀ listing r, Follows listing none (next r)) :
      Follows none none (.guarded p (.call .listActive rest) next)
  /-- The batch could not list the rules. -/
  | failed {p : Permit} {result : Batch.Result} {next : Batch.Result → Sweep α}
      (h : ∀ listing r, Follows listing none (next r)) :
      Follows none none (.guarded p (.done result) next)
  /-- The batch has listed the rules. -/
  | listed {records : List Record} {waiting : Option (Rule × Control)} {p : Permit}
      {work : RulesPlan Batch.Result} {next : Batch.Result → Sweep α}
      (hw : Plan.Follows records waiting work) (h : ∀ listing r, Follows listing none (next r)) :
      Follows (some records) waiting (.guarded p work next)

theorem Follows.bind {f : α → Sweep β} (hw : Follows listing waiting w)
    (hf : ∀ listing a, Follows listing none (f a)) : Follows listing waiting (w.bind f) := by
  induction hw with
  | done a => exact hf _ a
  | call hc _ ih => exact .call hc ih
  | unlisted hok herror _ ih => exact .unlisted hok herror ih
  | failed _ ih => exact .failed ih
  | listed hw _ ih => exact .listed hw ih

/-- A sweep that has only asides left gives no order. -/
theorem Telling.follows {R : α → Prop} (h : Telling R w) : Follows listing none w := by
  induction h with
  | done h => exact .done _
  | call hc _ ih => exact .call (Call.isOfBatch_of_isAside hc) ih

theorem giveBack_follows (p : Permit) (result : Batch.Result) :
    Follows listing none ((ofPlan (giveBack p)).bind fun _ => .done result) := by
  refine .call rfl fun released => ?_
  cases released with
  | ok => exact .done _
  | error f => exact .call rfl fun _ => .done _

theorem under_follows (limitMs : Nat) (p : Permit) :
    Follows none none (under (toNode limitMs) p) := by
  unfold under
  rw [Batch.plan_eq]
  refine .unlisted (fun records => ?_) (fun f => ⟨_, rfl⟩) fun _ result => giveBack_follows p result
  exact (Batch.reports_follows fun _ hin => hin).bind fun _ => .done _

theorem runAll_follows (limitMs : Nat) : Follows none none (runAll (toNode limitMs)) := by
  refine .call rfl fun reply => ?_
  match reply with
  | .error f => exact .done _
  | .ok none => exact .done _
  | .ok (some p) => exact under_follows limitMs p

theorem tick_follows (limitMs : Nat) : Follows none none (tick (toNode limitMs)) := by
  refine .call rfl fun startedAt => .call rfl fun reply => ?_
  match reply with
  | .error f => exact .call rfl fun _ => .call rfl fun _ => .done _
  | .ok none => exact .call rfl fun _ => .done _
  | .ok (some p) =>
    exact (under_follows limitMs p).bind fun _ result =>
      (conclude_telling startedAt result).follows.bind fun _ _ => .done _

/-- A step leaves only orders for rules of the listing. -/
theorem Follows.step (h : Follows listing waiting w) (hs : Step w es v) :
    ∃ later, Follows (es.foldl heard listing) later v := by
  cases h with
  | done => cases hs
  | call hc h =>
    cases hs with
    | call c next r =>
      refine ⟨none, ?_⟩
      rw [List.foldl_cons, heard_other hc]
      exact h r
  | unlisted hok herror h =>
    cases hs with
    | batch p c rest next reply =>
      cases reply with
      | error f =>
        obtain ⟨result, hresult⟩ := herror f
        refine ⟨none, ?_⟩
        rw [hresult]
        exact .failed h
      | ok records => exact ⟨none, .listed (hok records) h⟩
    | renewal p c rest next r => exact ⟨none, .unlisted hok herror h⟩
  | failed h =>
    cases hs with
    | finish => exact ⟨none, h _ _⟩
  | @listed records _ _ _ _ hw h =>
    cases hs with
    | batch p c rest next reply =>
      cases hw with
      | control hin hrule ho hnext => exact ⟨_, .listed (hnext reply) h⟩
      | append habout hnext => exact ⟨_, .listed (hnext reply) h⟩
      | other hc hnext =>
        refine ⟨none, ?_⟩
        rw [List.foldl_cons, heard_other hc]
        exact .listed (hnext reply) h
    | renewal p c rest next r => exact ⟨_, .listed hw h⟩
    | finish => exact ⟨none, h _ _⟩

theorem Follows.steps (h : Follows listing waiting w) (hs : Steps w es v) :
    ∃ later, Follows (es.foldl heard listing) later v := by
  induction hs generalizing listing waiting with
  | nil w => exact ⟨waiting, h⟩
  | cons hs _ ih =>
    obtain ⟨later, hlater⟩ := h.step hs
    rw [List.foldl_append]
    exact ih hlater

/-- An order is for a rule of the listing, and then waits for its entry. -/
theorem Follows.order_step {limit : Nat} {r : Option (Except Fault Outcome)}
    (h : Follows listing waiting w) (hs : Step w [⟨.control o limit, r⟩] v) :
    ∃ records record rule, listing = some records ∧ record ∈ records ∧
      record.decoded = .ok rule ∧ rule.Demands o ∧ Follows listing (some (rule, o)) v := by
  generalize hes : [(⟨.control o limit, r⟩ : Exchange Call.signature)] = es at hs
  cases h with
  | done => cases hs
  | call hc h =>
    cases hs with
    | call c next reply =>
      cases hes
      cases hc
  | unlisted =>
    cases hs with
    | batch | renewal => cases hes
  | failed =>
    cases hs with
    | finish => cases hes
  | @listed records _ _ _ _ hw h =>
    cases hs with
    | batch p c rest next reply =>
      cases hes
      cases hw with
      | control hin hrule ho hnext =>
        exact ⟨records, _, _, rfl, hin, hrule, ho, .listed (hnext r) h⟩
      | other hc => cases hc
    | renewal | finish => cases hes

/-- What comes next after an order is its entry; only renewals come in between. -/
theorem Follows.waiting_step (h : Follows listing (some (rule, o)) w) (hs : Step w es v) :
    (Follows listing (some (rule, o)) v ∧ ∀ e ∈ es, Call.isAboutOrders e.call = false) ∨
    ∃ entry r, es = [⟨.append entry, r⟩] ∧ entry.ruleId = rule.id ∧ entry.isAbout o = true := by
  cases h with
  | listed hw h =>
    cases hw with
    | append habout hnext =>
      cases hs with
      | batch p c rest next reply =>
        obtain ⟨hid, ho⟩ := habout rule o rfl
        exact .inr ⟨_, reply, rfl, hid, ho⟩
      | renewal p c rest next r =>
        exact .inl ⟨.listed (.append habout hnext) h, List.forall_mem_singleton.2 rfl⟩

/-- What has been called since an order, by a caller who has come to this sweep: the entry about the
order and its rule, with no other order or entry before it, unless that is still to come. -/
inductive Recorded (rule : Rule) (o : Control) (v : Sweep α) :
    List (Exchange Call.signature) → Prop where
  | waiting {es : List (Exchange Call.signature)} (hdone : ∀ a, v ≠ .done a)
      (hes : ∀ e ∈ es, Call.isAboutOrders e.call = false) : Recorded rule o v es
  | entered {mid rest : List (Exchange Call.signature)} {entry : Audit.NewEntry}
      {r : Except Fault Audit.Entry} (hmid : ∀ e ∈ mid, Call.isAboutOrders e.call = false)
      (hid : entry.ruleId = rule.id) (habout : entry.isAbout o = true) :
      Recorded rule o v (mid ++ ⟨.append entry, r⟩ :: rest)

theorem Recorded.behind {xs : List (Exchange Call.signature)} (h : Recorded rule o v es)
    (hxs : ∀ e ∈ xs, Call.isAboutOrders e.call = false) : Recorded rule o v (xs ++ es) := by
  cases h with
  | waiting hdone hes => exact .waiting hdone (List.forall_mem_append.2 ⟨hxs, hes⟩)
  | entered hmid hid habout =>
    rw [← List.append_assoc]
    exact .entered (List.forall_mem_append.2 ⟨hxs, hmid⟩) hid habout

/-- The run ends before the entry about an order, or there is that entry. -/
theorem Follows.waiting_steps (h : Follows listing (some (rule, o)) w) (hs : Steps w es v) :
    Recorded rule o v es := by
  induction hs with
  | nil w =>
    refine .waiting (fun a ha => ?_) fun e he => by cases he
    subst ha
    cases h
  | cons hs _ ih =>
    rcases h.waiting_step hs with ⟨hstill, hother⟩ | ⟨entry, r, rfl, hid, habout⟩
    · exact (ih hstill).behind hother
    · have hnone : ∀ e ∈ ([] : List (Exchange Call.signature)),
          Call.isAboutOrders e.call = false := fun e he => by cases he
      exact .entered hnone hid habout

/-- A step takes one call at most. -/
theorem Step.calls_le (hs : Step w es v) : es = [] ∨ ∃ e, es = [e] := by
  cases hs with
  | finish => exact .inl rfl
  | call | batch | renewal => exact .inr ⟨_, rfl⟩

/-- A run stands somewhere before each of its calls, and somewhere after. -/
theorem Steps.split {front back : List (Exchange Call.signature)} {e : Exchange Call.signature}
    (h : Steps w (front ++ e :: back) v) :
    ∃ x y, Steps w front x ∧ Step x [e] y ∧ Steps y back v := by
  generalize hes : front ++ e :: back = es at h
  induction h generalizing front with
  | nil w => cases front <;> cases hes
  | @cons u z v xs ys hs hrest ih =>
    rcases hs.calls_le with rfl | ⟨first, rfl⟩
    · obtain ⟨x, y, hx, hxy, hy⟩ := ih hes
      exact ⟨x, y, .cons hs hx, hxy, hy⟩
    · cases front with
      | nil =>
        obtain ⟨rfl, rfl⟩ := List.cons.inj hes
        exact ⟨u, z, .nil u, hs, hrest⟩
      | cons f front =>
        obtain ⟨rfl, htail⟩ := List.cons.inj hes
        obtain ⟨x, y, hx, hxy, hy⟩ := ih htail
        exact ⟨x, y, .cons hs hx, hxy, hy⟩

/-- An order of a sweep is for a rule of its last listing, and the entry after it is about both. -/
theorem Follows.order {front back : List (Exchange Call.signature)} {limit : Nat}
    {r : Option (Except Fault Outcome)} (h : Follows none none w)
    (hs : Steps w (front ++ ⟨.control o limit, r⟩ :: back) v) :
    ∃ records record rule, lastListing front = some records ∧ record ∈ records ∧
      record.decoded = .ok rule ∧ rule.Demands o ∧ Recorded rule o v back := by
  obtain ⟨x, y, hfront, horder, hback⟩ := hs.split
  obtain ⟨waiting, hx⟩ := h.steps hfront
  obtain ⟨records, record, rule, hlisting, hin, hrule, ho, hy⟩ := hx.order_step horder
  exact ⟨records, record, rule, hlisting, hin, hrule, ho, hy.waiting_steps hback⟩

end Sweep

theorem Caller.sweep_follows (c : Caller) : Sweep.Follows none none c.sweep := by
  cases c with
  | manual limitMs => exact (Sweep.runAll_follows limitMs).bind fun _ _ => .done _
  | timed limitMs => exact (Sweep.tick_follows limitMs).bind fun _ _ => .done _

/-! ## What nobody writes stays -/

namespace Store

variable {s t : Store} {es : List (Exchange Call.signature)} {id : RuleId}

/-- What every deed of a run keeps holds after the run; the induction is over the calls. -/
theorem keeps_of_serves {K : Store → Prop} (h : party.Serves s es t)
    (hK : ∀ {s d t}, d ∈ deeds es → Does s d t → K s → K t) (hs : K s) : K t := by
  induction h with
  | nil s => exact hs
  | @cons s m t c r es ha _ ih =>
    have hrest : ∀ {s d t}, d ∈ deeds es → Does s d t → K s → K t := by
      intro s d t hd hdoes
      obtain ⟨e, he, hdeed⟩ := List.mem_filterMap.1 hd
      exact hK (List.mem_filterMap.2 ⟨e, List.mem_cons_of_mem _ he, hdeed⟩) hdoes
    rcases Answers.cases_deed ha with ⟨-, rfl⟩ | ⟨d, hsome, hdoes⟩
    · exact ih hrest hs
    · exact ih hrest (hK (List.mem_filterMap.2 ⟨_, List.mem_cons_self, hsome⟩) hdoes hs)

theorem distinct_of_serves (h : party.Serves s es t) (hs : s.ids.Nodup) : t.ids.Nodup :=
  keeps_of_serves (K := fun s => s.ids.Nodup) h (fun _ hdoes hs => hdoes.distinct hs) hs

/-- A rule that nobody deletes stays. -/
theorem contains_of_serves (h : party.Serves s es t) (hd : ∀ d ∈ deeds es, d.deletes id = false)
    (hs : s.contains id = true) : t.contains id = true :=
  keeps_of_serves (K := fun s => s.contains id = true) h
    (fun hin hdoes hs => hdoes.contains hs (hd _ hin)) hs

/-- A rule that nobody writes stays as it is. -/
theorem find?_of_serves {rule : Rule} (h : party.Serves s es t)
    (hd : ∀ d ∈ deeds es, d.says? id = none) (hs : s.find? id = some rule) :
    t.find? id = some rule := by
  refine keeps_of_serves (K := fun s => s.find? id = some rule) h (fun hin hdoes hs => ?_) hs
  rw [hdoes.find?, hd _ hin]
  exact hs

/-- A rule of a listing is stored and active. -/
theorem find?_of_active (hdistinct : s.ids.Nodup) {record : Record} {rule : Rule}
    (hin : record ∈ s.active) (hrule : record.decoded = .ok rule) :
    s.find? rule.id = some rule ∧ rule.isActive = true := by
  obtain ⟨r, hr, rfl⟩ := List.mem_map.1 hin
  obtain rfl : r = rule := Except.ok.inj hrule
  obtain ⟨hmem, hactive⟩ := List.mem_filter.1 hr
  have hcontains : s.contains r.id = true := List.any_eq_true.2 ⟨r, hmem, by simp⟩
  rw [contains_eq_isSome] at hcontains
  obtain ⟨old, hold⟩ := Option.isSome_iff_exists.1 hcontains
  obtain rfl := eq_of_find? hdistinct hold hmem rfl
  exact ⟨hold, hactive⟩

/-- An entry of a rule that is stored arrives. -/
theorem append_of_contains {entry : Audit.NewEntry} {reply : Except Fault Audit.Entry}
    (h : s.Answers (.append entry) reply t) (hs : s.contains entry.ruleId = true) :
    ∃ stored, reply = .ok stored := by
  obtain ⟨now, hkept⟩ := h
  unfold append at hkept
  rw [if_pos hs] at hkept
  exact ⟨_, (Prod.mk.inj hkept).1⟩

end Store

/-! ## Callers who run rules and callers who keep them -/

/-- What a caller is busy with: running the active rules, or keeping a rule. -/
inductive Errand where
  | run (caller : Caller)
  | create (s : Rule.Submission)
  | amend (id : RuleId) (a : Rule.Amendment)
  | setActive (id : RuleId) (isActive : Bool)
  | delete (id : RuleId)

def Errand.sweep : Errand → Sweep Unit
  | .run caller => caller.sweep.bind fun _ => .done ()
  | .create s => .ofPlan ((Service.create s).bind fun _ => .done ())
  | .amend id a => .ofPlan ((Service.amend id a).bind fun _ => .done ())
  | .setActive id isActive => .ofPlan ((Service.setActive id isActive).bind fun _ => .done ())
  | .delete id => .ofPlan ((Service.delete id).bind fun _ => .done ())

namespace Crew

variable {S α : Type} {party : Party Call.signature S} {c d : Crew S α} {es : Trace} {i : Nat}

/-- What one member has called takes it from where it was to where it is. -/
theorem Runs.own_steps (h : Runs party c es d) {x : Sweep α} (hi : c.members[i]? = some x) :
    ∃ y, d.members[i]? = some y ∧ Sweep.Steps x (callsOf i es) y := by
  induction h generalizing x with
  | nil c => exact ⟨x, hi, .nil x⟩
  | @cons c m d xs ys hs _ ih =>
    rw [callsOf_append]
    rcases hs.cases_turn with ⟨k, w, v, zs, hk, hwv, -, rfl, hm⟩ | ⟨-, rfl, hm⟩
    · by_cases hki : k = i
      · subst hki
        obtain rfl : w = x := Option.some.inj (hk.symm.trans hi)
        have hv : m.members[k]? = some v := by
          rw [hm, List.getElem?_set_self']
          simp [hk]
        obtain ⟨y, hy, hsteps⟩ := ih hv
        rw [callsOf_own]
        exact ⟨y, hy, .cons hwv hsteps⟩
      · rw [callsOf_other hki]
        refine ih ?_
        rw [hm, List.getElem?_set_ne hki]
        exact hi
    · refine ih ?_
      rw [hm]
      exact hi

/-- Where a member makes a call among all calls. -/
theorem split_of_callsOf {xs ys : List (Exchange Call.signature)} {e : Exchange Call.signature}
    (h : callsOf i es = xs ++ e :: ys) :
    ∃ front back, es = front ++ (i, e) :: back ∧ callsOf i front = xs ∧ callsOf i back = ys := by
  obtain ⟨front, rest, rfl, hfront, hrest⟩ := List.filterMap_eq_append_iff.1 h
  obtain ⟨others, ⟨j, x⟩, back, rfl, hothers, hx, hback⟩ := List.filterMap_eq_cons_iff.1 hrest
  dsimp only at hx
  split at hx
  · next hj =>
    subst hj
    cases hx
    have hnone : callsOf j others = [] := List.filterMap_eq_nil_iff.2 hothers
    refine ⟨front ++ others, back, by simp, ?_, hback⟩
    rw [callsOf_append, hnone, List.append_nil]
    exact hfront
  · cases hx

/-- The member's last listing of the active rules: the rule was stored and active then, and `since`
is what has been called after it. -/
structure Listed (s : Store) (i : Nat) (front : Trace) (rule : Rule) (listed : Store)
    (since : Trace) : Prop where
  split : ∃ before, front = before ++ (i, ⟨.listActive, .ok listed.active⟩) :: since ∧
    Store.party.Serves s (before.map Prod.snd) listed
  last : ∀ e ∈ callsOf i since, e.call ≠ .listActive
  stored : listed.find? rule.id = some rule
  active : rule.isActive = true

def Undeleted (es : Trace) (rule : Rule) : Prop :=
  ∀ d ∈ Store.deeds (es.map Prod.snd), d.deletes rule.id = false

def Unwritten (es : Trace) (rule : Rule) : Prop :=
  ∀ d ∈ Store.deeds (es.map Prod.snd), d.says? rule.id = none

theorem Undeleted.append {xs ys : Trace} {rule : Rule} :
    Undeleted (xs ++ ys) rule ↔ Undeleted xs rule ∧ Undeleted ys rule := by
  unfold Undeleted Store.deeds
  rw [List.map_append, List.filterMap_append, List.forall_mem_append]

/-- The rule of a listing is stored where the listing ends, and as long as nobody deletes it. -/
theorem Listed.contains {s t listed : Store} {front since more : Trace} {rule : Rule}
    (h : Listed s i front rule listed since)
    (hs : Store.party.Serves listed (more.map Prod.snd) t) (hkept : Undeleted more rule) :
    t.contains rule.id = true := by
  refine Store.contains_of_serves hs hkept ?_
  rw [Store.contains_eq_isSome, h.stored]
  rfl

theorem callsOf_cons_own (i : Nat) (e : Exchange Call.signature) (es : Trace) :
    callsOf i ((i, e) :: es) = e :: callsOf i es := by
  simp [callsOf]

/-- What is listed are the records of the active rules, and the store stays as it is. -/
theorem serves_listing {s t : Store} {reply : Except Fault (List Record)}
    {es : List (Exchange Call.signature)}
    (h : Store.party.Serves s (⟨.listActive, reply⟩ :: es) t) :
    reply = .ok s.active ∧ Store.party.Serves s es t := by
  cases h with
  | cons ha hrest =>
    obtain ⟨hreply, rfl⟩ := ha
    exact ⟨hreply, hrest⟩

/-- An order leaves the store as it is. -/
theorem serves_order {s t : Store} {o : Control} {limit : Nat}
    {reply : Option (Except Fault Outcome)} {es : List (Exchange Call.signature)}
    (h : Store.party.Serves s (⟨.control o limit, reply⟩ :: es) t) :
    Store.party.Serves s es t := by
  cases h with
  | cons ha hrest =>
    obtain rfl := ha
    exact hrest

/-- **Orders are for rules that were listed.** Callers who run the active rules and callers who
create, amend, switch and delete rules share a store in which no identifier is stored twice, and go
on in any order. Every order of a caller who runs the rules is made by a rule that was stored and
active when that caller last listed the rules. At the moment of the order the rule is stored unless
somebody has deleted it since that listing, and is as it was listed, active, unless somebody has
written it since. The caller records the order next, for that rule; the entry arrives unless
somebody has deleted the rule between the listing and the entry. -/
theorem orders_for_listed {errands : List Errand} {s : Store} {d : Crew Store Unit} {es : Trace}
    (hdistinct : s.ids.Nodup) (h : Runs Store.party ⟨s, errands.map Errand.sweep⟩ es d) {i : Nat}
    {caller : Caller} (hi : errands[i]? = some (.run caller)) {front back : Trace} {o : Control}
    {limit : Nat} {reply : Option (Except Fault Outcome)}
    (hes : es = front ++ (i, ⟨.control o limit, reply⟩) :: back) :
    ∃ rule listed since atOrder, Listed s i front rule listed since ∧ rule.Demands o ∧
      Store.party.Serves s (front.map Prod.snd) atOrder ∧
      (Undeleted since rule → atOrder.contains rule.id = true) ∧
      (Unwritten since rule → atOrder.find? rule.id = some rule) ∧
      (((∀ a, d.members[i]? ≠ some (.done a)) ∧
          ∀ e ∈ callsOf i back, Call.isAboutOrders e.call = false) ∨
        ∃ mid entry answer rest, back = mid ++ (i, ⟨.append entry, answer⟩) :: rest ∧
          (∀ e ∈ callsOf i mid, Call.isAboutOrders e.call = false) ∧
          entry.ruleId = rule.id ∧ entry.isAbout o = true ∧
          (Undeleted (since ++ mid) rule → ∃ stored, answer = .ok stored)) := by
  subst hes
  have hmember : (errands.map Errand.sweep)[i]? = some (Errand.run caller).sweep := by
    rw [List.getElem?_map, hi]
    rfl
  obtain ⟨w, hw, hsteps⟩ := h.own_steps hmember
  have hfollows : Sweep.Follows none none (Errand.run caller).sweep :=
    caller.sweep_follows.bind fun _ _ => .done _
  rw [callsOf_append, callsOf_cons_own] at hsteps
  obtain ⟨records, record, rule, hlisting, hin, hrule, ho, hnext⟩ := hfollows.order hsteps
  obtain ⟨before', since', hsplit, hlast⟩ := split_of_lastListing hlisting
  obtain ⟨before, since, rfl, -, rfl⟩ := split_of_callsOf hsplit
  -- The store answers all calls in their order, so there is a store at each of these calls.
  have hall := h.serves fun _ _ hdrift => hdrift
  rw [List.map_append, Party.serves_append] at hall
  obtain ⟨atOrder, hfront, hrest⟩ := hall
  have hparts := hfront
  rw [List.map_append, Party.serves_append] at hparts
  obtain ⟨listed, hbefore, hafter⟩ := hparts
  obtain ⟨hrecords, hsince⟩ := serves_listing hafter
  obtain rfl : records = listed.active := Except.ok.inj hrecords
  have hback : Store.party.Serves atOrder (back.map Prod.snd) d.state := serves_order hrest
  obtain ⟨hstored, hactive⟩ :=
    Store.find?_of_active (Store.distinct_of_serves hbefore hdistinct) hin hrule
  have hlisted : Listed s i (before ++ (i, ⟨.listActive, .ok listed.active⟩) :: since) rule listed
      since := ⟨⟨before, rfl, hbefore⟩, hlast, hstored, hactive⟩
  refine ⟨rule, listed, since, atOrder, hlisted, ho, hfront, hlisted.contains hsince,
    fun hkept => Store.find?_of_serves hsince hkept hstored, ?_⟩
  generalize hcalls : callsOf i back = calls at hnext
  cases hnext with
  | waiting hdone hnone =>
    subst hcalls
    refine .inl ⟨fun a ha => ?_, hnone⟩
    rw [hw] at ha
    exact hdone a (Option.some.inj ha)
  | @entered _ _ entry answer hmid hid habout =>
    obtain ⟨mid, rest, rfl, rfl, -⟩ := split_of_callsOf hcalls
    refine .inr ⟨mid, entry, answer, rest, rfl, hmid, hid, habout, fun hkept => ?_⟩
    rw [List.map_append, Party.serves_append] at hback
    obtain ⟨atEntry, hbetween, hentry⟩ := hback
    have hcontains : atEntry.contains rule.id = true := by
      refine hlisted.contains ?_ hkept
      rw [List.map_append]
      exact Party.serves_append.2 ⟨atOrder, hsince, hbetween⟩
    cases hentry with
    | cons ha _ => exact Store.append_of_contains ha (by rw [hid]; exact hcontains)

/-! ### A rule that is written while it runs -/

def everyone : Rule where
  id := .ofNat 6
  name := ⟨"Anyone", by decide⟩
  description := none
  conditions := .none
  action := .disconnect
  isActive := true
  createdAt := ⟨0⟩
  updatedAt := ⟨0⟩

def everyoneOff : Rule := { everyone with isActive := false, updatedAt := ⟨4⟩ }

def stray : Peer := ⟨[("id", .string "1")]⟩

def strayEntry : Audit.NewEntry := ⟨everyone.id, ⟨5⟩, stray.snapshot, "disconnect", "Disconnected"⟩

/-- The first caller lists the rule and the peer. -/
def upToPeers : Trace :=
  [(0, ⟨.acquire Sweep.scope, .ok (some ⟨Sweep.scope, "a"⟩)⟩),
    (0, ⟨.listActive, .ok [.ofRule everyone]⟩), (0, ⟨.listPeers, .ok [stray]⟩)]

/-- The first caller gets ready for the peer's turn. -/
def beforeOrder : Trace := [(0, ⟨.now, ⟨5⟩⟩), (0, ⟨.log (.disconnecting "1"), ()⟩)]

/-- The first caller disconnects the peer, and records that. -/
def orderAndEntry (answer : Except Fault Audit.Entry) : Trace :=
  [(0, ⟨.control (.disconnect "1") 5000, some (.ok (.succeeded "Disconnected"))⟩),
    (0, ⟨.append strayEntry, answer⟩)]

/-- The second caller switches the rule off. -/
def switchedOff : Trace :=
  [(1, ⟨.findRule everyone.id, .ok (some everyone)⟩), (1, ⟨.now, ⟨3⟩⟩),
    (1, ⟨.updateRule { everyoneOff with updatedAt := ⟨3⟩ }, .ok everyoneOff⟩)]

def deletedNow : Trace := [(1, ⟨.deleteRule everyone.id, .ok ()⟩)]

/-- The rule is switched off between the listing and the order. -/
theorem switchedOff_runs : ∃ d, Runs Store.party
    ⟨⟨[everyone], []⟩, [Errand.run (.manual 5000), .setActive everyone.id false].map Errand.sweep⟩
    ((upToPeers ++ switchedOff ++ beforeOrder) ++
      orderAndEntry (.ok { strayEntry with entryId := .ofNat 9 })) d :=
  ⟨_, .turn (i := 0) rfl (.call _ _ _) rfl <|
    .turn (i := 0) rfl (.batch _ _ _ _ _) ⟨rfl, rfl⟩ <|
    .turn (i := 0) rfl (.batch _ _ _ _ _) rfl <|
    .turn (i := 1) rfl (.call _ _ _) ⟨rfl, rfl⟩ <|
    .turn (i := 1) rfl (.call _ _ _) rfl <|
    .turn (i := 1) rfl (.call _ _ _) ⟨⟨4⟩, rfl⟩ <|
    .turn (i := 0) rfl (.batch _ _ _ _ _) rfl <|
    .turn (i := 0) rfl (.batch _ _ _ _ _) rfl <|
    .turn (i := 0) rfl (.batch _ _ _ _ _) rfl <|
    .turn (i := 0) rfl (.batch _ _ _ _ _) ⟨.ofNat 9, rfl⟩ <|
    .nil _⟩

theorem orders_for_listed_switchedOff :
    (Store.ids ⟨[everyone], []⟩).Nodup ∧
      [Errand.run (.manual 5000), .setActive everyone.id false][0]? = some (.run (.manual 5000)) ∧
      ∃ rule listed since atOrder,
        Listed ⟨[everyone], []⟩ 0 (upToPeers ++ switchedOff ++ beforeOrder) rule listed since ∧
        rule.Demands (.disconnect "1") ∧
        Store.party.Serves ⟨[everyone], []⟩
          ((upToPeers ++ switchedOff ++ beforeOrder).map Prod.snd) atOrder ∧
        atOrder.contains rule.id = true := by
  have hdistinct : (Store.ids ⟨[everyone], []⟩).Nodup := List.nodup_singleton _
  obtain ⟨d, hruns⟩ := switchedOff_runs
  obtain ⟨rule, listed, since, atOrder, hlisted, ho, hserves, hstored, -, -⟩ :=
    orders_for_listed hdistinct hruns rfl rfl
  refine ⟨hdistinct, rfl, rule, listed, since, atOrder, hlisted, ho, hserves, hstored ?_⟩
  -- What was called after the listing is among what was called before the order.
  have hnone : Undeleted (upToPeers ++ switchedOff ++ beforeOrder) rule := by
    intro deed hdeed
    have hdeeds : Store.deeds ((upToPeers ++ switchedOff ++ beforeOrder).map Prod.snd) =
        [.updated everyoneOff] := by rfl
    rw [hdeeds] at hdeed
    rw [List.mem_singleton.1 hdeed]
    rfl
  obtain ⟨before, hsplit, -⟩ := hlisted.split
  rw [hsplit, List.append_cons] at hnone
  exact (Undeleted.append.1 hnone).2

/-- The rule is deleted between the listing and the order. -/
theorem deletedNow_runs : ∃ d, Runs Store.party
    ⟨⟨[everyone], []⟩, [Errand.run (.manual 5000), .delete everyone.id].map Errand.sweep⟩
    ((upToPeers ++ deletedNow ++ beforeOrder) ++ orderAndEntry (.error everyone.id.notStored)) d :=
  ⟨_, .turn (i := 0) rfl (.call _ _ _) rfl <|
    .turn (i := 0) rfl (.batch _ _ _ _ _) ⟨rfl, rfl⟩ <|
    .turn (i := 0) rfl (.batch _ _ _ _ _) rfl <|
    .turn (i := 1) rfl (.call _ _ _) rfl <|
    .turn (i := 0) rfl (.batch _ _ _ _ _) rfl <|
    .turn (i := 0) rfl (.batch _ _ _ _ _) rfl <|
    .turn (i := 0) rfl (.batch _ _ _ _ _) rfl <|
    .turn (i := 0) rfl (.batch _ _ _ _ _) ⟨.ofNat 9, rfl⟩ <|
    .nil _⟩

/-- An order can be given for a rule that is not stored any more. -/
theorem order_for_deleted : ¬ ∀ (errands : List Errand) (s : Store) (d : Crew Store Unit)
    (es : Trace) (i : Nat) (caller : Caller) (front back : Trace) (o : Control) (limit : Nat)
    (reply : Option (Except Fault Outcome)) (atOrder : Store),
    s.ids.Nodup → Runs Store.party ⟨s, errands.map Errand.sweep⟩ es d →
      errands[i]? = some (.run caller) → es = front ++ (i, ⟨.control o limit, reply⟩) :: back →
      Store.party.Serves s (front.map Prod.snd) atOrder →
      ∃ rule ∈ atOrder.rules, rule.isActive = true ∧ rule.Demands o := by
  intro h
  obtain ⟨d, hruns⟩ := deletedNow_runs
  have hserves : Store.party.Serves ⟨[everyone], []⟩
      ((upToPeers ++ deletedNow ++ beforeOrder).map Prod.snd) ⟨[], []⟩ :=
    .cons rfl <| .cons ⟨rfl, rfl⟩ <| .cons rfl <| .cons rfl <| .cons rfl <| .cons rfl <| .nil _
  obtain ⟨rule, hrule, -, -⟩ := h _ ⟨[everyone], []⟩ d _ 0 _
    (upToPeers ++ deletedNow ++ beforeOrder) _ _ _ _ _ (List.nodup_singleton _) hruns rfl rfl
    hserves
  cases hrule

end Crew

end PeerRules
