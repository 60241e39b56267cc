import PeerRules.Run

/-!
# The calls of a run

A run lists the peers and then gives each peer that meets the conditions one turn. A `Turn` is what
that turn was answered with: the reading of the clock, the calls that applying the action took, what
they came to, and the reply of the audit log. Nothing is said about the replies: every pattern of
failures is a list of turns.

* `runs_applyTo_iff`: the calls of one turn.
* `runs_applyAll_iff`: the calls of all turns, by induction over the peers.
* `runs_plan_iff`: the calls of a run and its result, whoever applies the actions.
* `active_run_performs`: the same for actions that are applied by a call of their own.
-/
namespace PeerRules.Run

open Dispatch RulesPlan

/-- What one peer's turn was answered with. -/
structure Turn where
  peer : Peer
  moment : Instant
  /-- The calls that applying the action took. -/
  work : List (Exchange Call.signature)
  dispatched : Except Fault Outcome
  appended : Except Fault Audit.Entry

namespace Turn

def success (t : Turn) : Bool :=
  match t.dispatched with
  | .ok o => o.success
  | .error _ => false

def text (t : Turn) : String :=
  match t.dispatched with
  | .ok o => o.message
  | .error f => "Error: " ++ f.message

def logged (t : Turn) : Bool :=
  match t.appended with
  | .ok _ => true
  | .error _ => false

def entry (r : Rule) (t : Turn) : Audit.NewEntry where
  ruleId := r.id
  triggeredAt := t.moment
  peerSnapshot := .object t.peer.attributes
  actionTaken := r.action.name
  result := t.text

def outcome (t : Turn) : PeerOutcome where
  peerId := t.peer.id?
  peerAddress := t.peer.address?
  success := t.success
  result := t.text
  logged := t.logged

def warning (r : Rule) (t : Turn) : List (Exchange Call.signature) :=
  match t.appended with
  | .ok _ => []
  | .error f => [⟨.log (.appendFailed r.id (t.peer.address?.getD "") f), ()⟩]

/-- The application of the action as one call. -/
def dispatching (r : Rule) (t : Turn) : Exchange Call.signature :=
  ⟨.dispatch t.peer r.action, t.dispatched⟩

/-- The call of the audit log. -/
def appending (r : Rule) (t : Turn) : Exchange Call.signature := ⟨.append (t.entry r), t.appended⟩

def exchanges (r : Rule) (t : Turn) : List (Exchange Call.signature) :=
  ⟨.now, t.moment⟩ :: (t.work ++ t.appending r :: t.warning r)

theorem verdict_eq (t : Turn) : verdict t.dispatched = (t.success, t.text) := by
  unfold verdict success text
  cases t.dispatched <;> rfl

end Turn

def listing (reply : Except Fault (List Peer)) : Exchange Call.signature := ⟨.listPeers, reply⟩

/-- The warnings about operators that are not known. -/
def warnings (r : Rule) (peers : List Peer) : List (Exchange Call.signature) :=
  (peers.filterMap r.conditions.unknownReached?).map fun u =>
    ⟨.log (.unknownOperator u.path u.name), ()⟩

def finished (r : Rule) (peers : List Peer) (ts : List Turn) : Exchange Call.signature :=
  ⟨.log (.runFinished r.id r.name.text peers.length ts.length (ts.countP Turn.success)), ()⟩

def script (r : Rule) (peers : List Peer) (ts : List Turn) : List (Exchange Call.signature) :=
  listing (.ok peers) ::
    (warnings r peers ++ (ts.flatMap (Turn.exchanges r) ++ [finished r peers ts]))

/-- The summary of a run with these turns. -/
def tally (r : Rule) (ts : List Turn) : Summary where
  ruleId := r.id
  ruleName := r.name.text
  success := true
  message := "Rule executed: " ++ toString ts.length ++ " peers matched, "
    ++ toString (ts.countP Turn.success) ++ " actions executed"
  outcomes := ts.map Turn.outcome

@[simp] theorem tally_matched (r : Rule) (ts : List Turn) : (tally r ts).matched = ts.length := by
  simp [tally, Summary.matched]

@[simp] theorem tally_executed (r : Rule) (ts : List Turn) :
    (tally r ts).executed = ts.countP Turn.success := by
  simp only [tally, Summary.executed, List.countP_map]
  rfl

theorem summarize_outcomes (r : Rule) (ts : List Turn) :
    summarize r (ts.map Turn.outcome) = tally r ts := by
  simp only [summarize, tally, List.length_map, List.countP_map]
  rfl

/-! ## One turn after another -/

variable {dispatcher : Dispatcher} {r : Rule} {es : List (Exchange Call.signature)}

theorem runs_warn_iff {peers : List Peer} {u : Unit} :
    (warn r peers).Runs es u ↔ es = warnings r peers := by
  induction peers generalizing es with
  | nil => simp [warn, warnings, Plan.runs_done_iff]
  | cons p rest ih =>
    unfold warn
    cases hu : r.conditions.unknownReached? p with
    | none =>
      rw [ih]
      simp [warnings, hu]
    | some v =>
      have hw : warnings r (p :: rest) =
          ⟨.log (.unknownOperator v.path v.name), ()⟩ :: warnings r rest := by
        simp [warnings, hu]
      rw [hw]
      constructor
      · intro h
        obtain ⟨⟨⟩, es', rfl, hrest⟩ := Plan.runs_call_iff.1 h
        rw [ih.1 hrest]
      · rintro rfl
        exact Plan.runs_call_iff.2 ⟨(), warnings r rest, rfl, ih.2 rfl⟩

/-- What is left of a turn when the audit log has replied. -/
def afterAppend (r : Rule) (p : Peer) (v : Bool × String) :
    Except Fault Audit.Entry → RulesPlan PeerOutcome
  | .ok _ => .done ⟨p.id?, p.address?, v.1, v.2, true⟩
  | .error f => .call (.log (.appendFailed r.id (p.address?.getD "") f)) fun _ =>
    .done ⟨p.id?, p.address?, v.1, v.2, false⟩

theorem applyTo_eq (dispatcher : Dispatcher) (r : Rule) (p : Peer) :
    applyTo dispatcher r p = .call .now fun moment => (dispatcher p r.action).bind fun dispatched =>
      .call (.append (entryFor r p moment (verdict dispatched).2)) fun appended =>
        afterAppend r p (verdict dispatched) appended := by
  refine congrArg (Plan.call (P := Call.signature) Call.now) (funext fun moment => ?_)
  refine congrArg (Plan.bind (dispatcher p r.action)) (funext fun dispatched => ?_)
  refine congrArg (Plan.call (P := Call.signature) (Call.append _)) (funext fun appended => ?_)
  cases appended <;> rfl

theorem exchanges_eq (r : Rule) (t : Turn) :
    t.exchanges r = ⟨.now, t.moment⟩ :: (t.work ++
      ⟨.append (entryFor r t.peer t.moment (verdict t.dispatched).2), t.appended⟩ ::
        t.warning r) := by
  have he : entryFor r t.peer t.moment (verdict t.dispatched).2 = t.entry r := by
    rw [Turn.verdict_eq]
    rfl
  rw [he]
  rfl

theorem runs_afterAppend_iff {t : Turn} {o : PeerOutcome} :
    (afterAppend r t.peer (verdict t.dispatched) t.appended).Runs es o ↔
      es = t.warning r ∧ o = t.outcome := by
  have ho : t.outcome = ⟨t.peer.id?, t.peer.address?, t.success, t.text, t.logged⟩ := rfl
  rw [Turn.verdict_eq, ho]
  unfold afterAppend Turn.warning Turn.logged
  cases t.appended with
  | ok e =>
    simp only [Plan.runs_done_iff]
    exact and_congr_right fun _ => eq_comm
  | error f =>
    constructor
    · intro h
      obtain ⟨⟨⟩, rest, rfl, hrest⟩ := Plan.runs_call_iff.1 h
      obtain ⟨rfl, rfl⟩ := Plan.runs_done_iff.1 hrest
      exact ⟨rfl, rfl⟩
    · rintro ⟨rfl, rfl⟩
      exact Plan.runs_call_iff.2 ⟨(), [], rfl, .done _⟩

theorem runs_applyTo_iff {p : Peer} {o : PeerOutcome} :
    (applyTo dispatcher r p).Runs es o ↔
      ∃ t : Turn, t.peer = p ∧ (dispatcher p r.action).Runs t.work t.dispatched ∧
        es = t.exchanges r ∧ o = t.outcome := by
  rw [applyTo_eq]
  constructor
  · intro h
    obtain ⟨moment, es₁, rfl, h₁⟩ := Plan.runs_call_iff.1 h
    obtain ⟨work, es₂, dispatched, rfl, hd, h₂⟩ := Plan.runs_bind_iff.1 h₁
    obtain ⟨appended, es₃, rfl, h₃⟩ := Plan.runs_call_iff.1 h₂
    have hs := exchanges_eq r ⟨p, moment, work, dispatched, appended⟩
    obtain ⟨rfl, rfl⟩ := (runs_afterAppend_iff (t := ⟨p, moment, work, dispatched, appended⟩)).1 h₃
    exact ⟨⟨p, moment, work, dispatched, appended⟩, rfl, hd, hs.symm, rfl⟩
  · rintro ⟨t, rfl, hd, rfl, rfl⟩
    rw [exchanges_eq]
    refine Plan.runs_call_iff.2 ⟨t.moment, _, rfl, ?_⟩
    refine Plan.runs_bind_iff.2 ⟨_, _, _, rfl, hd, ?_⟩
    exact Plan.runs_call_iff.2 ⟨t.appended, _, rfl, runs_afterAppend_iff.2 ⟨rfl, rfl⟩⟩

/-- Every peer has its turn, in order; the induction is over the peers, and a turn's replies do not
change what the next turn calls. -/
theorem runs_applyAll_iff {peers : List Peer} {os : List PeerOutcome} :
    (applyAll dispatcher r peers).Runs es os ↔
      ∃ ts : List Turn, ts.map Turn.peer = peers ∧
        (∀ t ∈ ts, (dispatcher t.peer r.action).Runs t.work t.dispatched) ∧
        es = ts.flatMap (Turn.exchanges r) ∧ os = ts.map Turn.outcome := by
  induction peers generalizing es os with
  | nil =>
    constructor
    · intro h
      obtain ⟨rfl, rfl⟩ := Plan.runs_done_iff.1 h
      exact ⟨[], rfl, by simp, rfl, rfl⟩
    · rintro ⟨ts, hp, -, rfl, rfl⟩
      obtain rfl := List.map_eq_nil_iff.1 hp
      exact .done _
  | cons p rest ih =>
    constructor
    · intro h
      obtain ⟨xs, es₁, o, rfl, ho, h₁⟩ := Plan.runs_bind_iff.1 h
      obtain ⟨ys, es₂, os₁, rfl, hos, h₂⟩ := Plan.runs_bind_iff.1 h₁
      obtain ⟨rfl, rfl⟩ := Plan.runs_done_iff.1 h₂
      obtain ⟨t, rfl, hd, rfl, rfl⟩ := runs_applyTo_iff.1 ho
      obtain ⟨ts, rfl, hds, rfl, rfl⟩ := ih.1 hos
      exact ⟨t :: ts, rfl, List.forall_mem_cons.2 ⟨hd, hds⟩, by simp, rfl⟩
    · rintro ⟨_ | ⟨t, ts⟩, hp, hd, rfl, rfl⟩
      · cases hp
      · obtain ⟨rfl, rfl⟩ := List.cons.inj hp
        obtain ⟨hd, hds⟩ := List.forall_mem_cons.1 hd
        refine Plan.runs_bind_iff.2
          ⟨t.exchanges r, ts.flatMap (Turn.exchanges r), t.outcome, rfl,
            runs_applyTo_iff.2 ⟨t, rfl, hd, rfl, rfl⟩, ?_⟩
        refine Plan.runs_bind_iff.2
          ⟨ts.flatMap (Turn.exchanges r), [], ts.map Turn.outcome, by simp,
            ih.2 ⟨ts, rfl, hds, rfl, rfl⟩, .done _⟩

/-- What is left of a run when the peers are listed. -/
def afterListing (dispatcher : Dispatcher) (r : Rule) :
    Except Fault (List Peer) → RulesPlan (Except Fault Summary)
  | .error f => .done (.error f)
  | .ok peers => (warn r peers).bind fun _ =>
    (applyAll dispatcher r (targets r peers)).bind fun os =>
      .call (.log (.runFinished r.id r.name.text peers.length (summarize r os).matched
        (summarize r os).executed)) fun _ => .done (.ok (summarize r os))

theorem plan_eq (dispatcher : Dispatcher) (ha : r.isActive = true) :
    plan dispatcher r = .call .listPeers (afterListing dispatcher r) := by
  unfold plan
  rw [if_pos ha]
  refine congrArg (Plan.call (P := Call.signature) Call.listPeers) (funext fun reply => ?_)
  cases reply <;> rfl

theorem runs_afterListing_ok_iff {peers : List Peer} {result : Except Fault Summary} :
    (afterListing dispatcher r (.ok peers)).Runs es result ↔
      ∃ ts, ts.map Turn.peer = targets r peers ∧
        (∀ t ∈ ts, (dispatcher t.peer r.action).Runs t.work t.dispatched) ∧
        es = warnings r peers ++ (ts.flatMap (Turn.exchanges r) ++ [finished r peers ts]) ∧
        result = .ok (tally r ts) := by
  constructor
  · intro h
    obtain ⟨ws, es₁, u, rfl, hw, h₁⟩ := Plan.runs_bind_iff.1 h
    obtain ⟨xs, es₂, os, rfl, hx, h₂⟩ := Plan.runs_bind_iff.1 h₁
    obtain ⟨⟨⟩, es₃, rfl, h₃⟩ := Plan.runs_call_iff.1 h₂
    obtain ⟨rfl, rfl⟩ := Plan.runs_done_iff.1 h₃
    obtain ⟨ts, hp, hd, rfl, rfl⟩ := runs_applyAll_iff.1 hx
    obtain rfl := runs_warn_iff.1 hw
    refine ⟨ts, hp, hd, ?_, by rw [summarize_outcomes]⟩
    rw [summarize_outcomes, tally_matched, tally_executed]
    rfl
  · rintro ⟨ts, hp, hd, rfl, rfl⟩
    refine Plan.runs_bind_iff.2 ⟨_, _, (), rfl, runs_warn_iff.2 rfl, ?_⟩
    refine Plan.runs_bind_iff.2 ⟨_, _, _, rfl, runs_applyAll_iff.2 ⟨ts, hp, hd, rfl, rfl⟩, ?_⟩
    rw [summarize_outcomes, tally_matched, tally_executed]
    exact Plan.runs_call_iff.2 ⟨(), [], rfl, .done _⟩

/-- A run of an active rule, whoever applies the actions. -/
theorem runs_plan_iff (ha : r.isActive = true) {result : Except Fault Summary} :
    (plan dispatcher r).Runs es result ↔
      (∃ f, es = [listing (.error f)] ∧ result = .error f) ∨
      ∃ peers ts, ts.map Turn.peer = targets r peers ∧
        (∀ t ∈ ts, (dispatcher t.peer r.action).Runs t.work t.dispatched) ∧
        es = script r peers ts ∧ result = .ok (tally r ts) := by
  rw [plan_eq dispatcher ha]
  constructor
  · intro h
    obtain ⟨reply, rest, rfl, h₁⟩ := Plan.runs_call_iff.1 h
    match reply, h₁ with
    | .error f, h₁ =>
      obtain ⟨rfl, rfl⟩ := Plan.runs_done_iff.1 h₁
      exact .inl ⟨f, rfl, rfl⟩
    | .ok peers, h₁ =>
      obtain ⟨ts, hp, hd, rfl, rfl⟩ := runs_afterListing_ok_iff.1 h₁
      exact .inr ⟨peers, ts, hp, hd, rfl, rfl⟩
  · rintro (⟨f, rfl, rfl⟩ | ⟨peers, ts, hp, hd, rfl, rfl⟩)
    · exact Plan.runs_call_iff.2 ⟨.error f, [], rfl, .done _⟩
    · exact Plan.runs_call_iff.2
        ⟨.ok peers, _, rfl, runs_afterListing_ok_iff.2 ⟨ts, hp, hd, rfl, rfl⟩⟩

/-! ## The calls of the ports -/

def isPortCall : Call → Bool
  | .log _ | .now | .freshId => false
  | _ => true

def portCalls (es : List (Exchange Call.signature)) : List (Exchange Call.signature) :=
  es.filter fun e => isPortCall e.call

@[simp] theorem portCalls_append (xs ys : List (Exchange Call.signature)) :
    portCalls (xs ++ ys) = portCalls xs ++ portCalls ys := List.filter_append xs ys

theorem portCalls_warnings (r : Rule) (peers : List Peer) : portCalls (warnings r peers) = [] := by
  unfold warnings
  induction peers.filterMap r.conditions.unknownReached? with
  | nil => rfl
  | cons u us ih => exact ih

theorem portCalls_exchanges {t : Turn} (hw : t.work = [t.dispatching r]) :
    portCalls (t.exchanges r) = [t.dispatching r, t.appending r] := by
  have h : portCalls (t.warning r) = [] := by
    unfold Turn.warning
    cases t.appended <;> rfl
  calc portCalls (t.exchanges r)
      = portCalls t.work ++ t.appending r :: portCalls (t.warning r) :=
        portCalls_append t.work (t.appending r :: t.warning r)
    _ = [t.dispatching r, t.appending r] := by rw [hw, h]; rfl

theorem portCalls_turns {ts : List Turn} (hw : ∀ t ∈ ts, t.work = [t.dispatching r]) :
    portCalls (ts.flatMap (Turn.exchanges r)) =
      ts.flatMap fun t => [t.dispatching r, t.appending r] := by
  induction ts with
  | nil => rfl
  | cons t ts ih =>
    obtain ⟨h, hs⟩ := List.forall_mem_cons.1 hw
    simp only [List.flatMap_cons, portCalls_append, portCalls_exchanges h, ih hs]

theorem portCalls_script {peers : List Peer} {ts : List Turn}
    (hw : ∀ t ∈ ts, t.work = [t.dispatching r]) :
    portCalls (script r peers ts) =
      listing (.ok peers) :: ts.flatMap fun t => [t.dispatching r, t.appending r] := by
  have h : portCalls (warnings r peers ++ (ts.flatMap (Turn.exchanges r) ++ [finished r peers ts]))
      = ts.flatMap fun t => [t.dispatching r, t.appending r] := by
    rw [portCalls_append, portCalls_append, portCalls_warnings, portCalls_turns hw]
    exact List.append_nil _
  exact congrArg (listing (.ok peers) :: ·) h

theorem runs_dispatch_iff {p : Peer} {a : Action} {o : Except Fault Outcome} :
    (RulesPlan.dispatch p a).Runs es o ↔ es = [⟨.dispatch p a, o⟩] := by
  constructor
  · intro h
    obtain ⟨reply, rest, rfl, hr⟩ := Plan.runs_call_iff.1 h
    obtain ⟨rfl, rfl⟩ := Plan.runs_done_iff.1 hr
    rfl
  · rintro rfl
    exact Plan.runs_call_iff.2 ⟨o, [], rfl, .done o⟩

/-- **The calls of a run.** A run of an active rule lists the peers. If that fails, so does the run,
and nothing else is called. If it does not, then whatever the replies are, each peer that meets the
conditions has the action applied to it and an entry appended about that, in the order of the
listing, and no port is called besides; the summary has an outcome for each of them. -/
theorem active_run_performs {r : Rule} (ha : r.isActive = true)
    {es : List (Exchange Call.signature)} {result : Except Fault Summary} :
    (plan RulesPlan.dispatch r).Runs es result ↔
      (∃ f, es = [listing (.error f)] ∧ result = .error f) ∨
      ∃ peers ts, ts.map Turn.peer = peers.filter r.conditions.meets ∧
        (∀ t ∈ ts, t.work = [t.dispatching r]) ∧
        es = script r peers ts ∧
        portCalls es =
          listing (.ok peers) :: ts.flatMap (fun t => [t.dispatching r, t.appending r]) ∧
        result = .ok (tally r ts) ∧
        (tally r ts).matched = ts.length ∧ (tally r ts).executed = ts.countP Turn.success := by
  rw [runs_plan_iff ha]
  refine or_congr_right ⟨?_, ?_⟩
  · rintro ⟨peers, ts, hp, hd, rfl, rfl⟩
    have hw : ∀ t ∈ ts, t.work = [t.dispatching r] := fun t ht => runs_dispatch_iff.1 (hd t ht)
    exact ⟨peers, ts, hp, hw, rfl, portCalls_script hw, rfl, tally_matched r ts,
      tally_executed r ts⟩
  · rintro ⟨peers, ts, hp, hw, rfl, -, rfl, -, -⟩
    exact ⟨peers, ts, hp, fun t ht => runs_dispatch_iff.2 (hw t ht), rfl, rfl⟩

/-! ## A run in which calls fail -/

/-- Disconnects every peer that connected to the node. -/
def inboundRule : Rule where
  id := .ofNat 7
  name := ⟨"Inbound", by decide⟩
  description := none
  conditions := ⟨[⟨"inbound", .equals (.bool true)⟩]⟩
  action := .disconnect
  isActive := true
  createdAt := ⟨0⟩
  updatedAt := ⟨0⟩

/-- A peer that connected to the node, and one that the node connected to. -/
def inboundPeer : Peer := ⟨[("id", .string "4"), ("inbound", .bool true)]⟩

def outboundPeer : Peer := ⟨[("id", .string "5"), ("inbound", .bool false)]⟩

/-- The same peer twice: the first action fails, and so does the second entry. -/
def brokenTurns : List Turn :=
  [⟨inboundPeer, ⟨1⟩, [⟨.dispatch inboundPeer .disconnect, .error (.internal "lost")⟩],
      .error (.internal "lost"),
      .ok ⟨⟨.ofNat 7, ⟨1⟩, inboundPeer.snapshot, "disconnect", ""⟩, .ofNat 9⟩⟩,
    ⟨inboundPeer, ⟨2⟩, [⟨.dispatch inboundPeer .disconnect, .ok (.succeeded "Disconnected")⟩],
      .ok (.succeeded "Disconnected"), .error (.internal "full")⟩]

theorem active_run_performs_inbound :
    inboundRule.isActive = true ∧
      (plan RulesPlan.dispatch inboundRule).Runs
        (script inboundRule [inboundPeer, outboundPeer, inboundPeer] brokenTurns)
        (.ok (tally inboundRule brokenTurns)) := by
  have hw : ∀ t ∈ brokenTurns, t.work = [t.dispatching inboundRule] := by
    simp [brokenTurns, Turn.dispatching, inboundRule]
  have hp : brokenTurns.map Turn.peer =
      [inboundPeer, outboundPeer, inboundPeer].filter inboundRule.conditions.meets := by
    rfl
  exact ⟨rfl, (active_run_performs rfl).2 (.inr ⟨_, brokenTurns, hp, hw, rfl, portCalls_script hw,
    rfl, tally_matched _ _, tally_executed _ _⟩)⟩

end PeerRules.Run
