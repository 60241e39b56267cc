import PeerRules.Proofs.Dues
import PeerRules.Proofs.Visits
import PeerRules.Timer
import PeerRules.Worker.Process

/-!
# The heartbeat of a batch

While a batch runs under a lease, a timer has the lease renewed, three times in its life. The key
server answers at once, time passes only while the batch waits for a reply, and it never passes a
deadline of the timer by more than a number of milliseconds, `late`. Others may say to the server
what they like, but not with the token of the lease.

What carries the proof is `Beating`: the lease outlives the next deadline, and what is granted for
being late.

* `connecting_served`, `served_renew`, `served_acquire`: visits with nothing in between.
* `Keys.Changes.holding?_eq`: who does not have the token leaves the lease as it is.
* `Beating.step`: the lease outlives the next deadline after every step.
* `exists_later`: a batch can last as long as it likes.
* `Worker.lease_kept`: the token is under the key from the permit to its return.
-/
namespace PeerRules.Lease

open Plan

/-! ## Calls that are answered at once -/

section Served

variable {l : Client} {what key token : String} {c : Command} {s : Script}
  {finish : Except Fault Int → Answer} {k k' : Keys} {es : List (Exchange Wire.Call.signature)}
  {a : Answer}

/-- The command is executed with the script at hand, when nothing but the script has been handed
over since. -/
def Executed (finish : Except Fault Int → Answer) (c : Command) (s : Script) (key token : String)
    (k : Keys) (a : Answer) (k' : Keys) : Prop :=
  ∃ m : Keys, s ∈ m.known ∧ m.holdings = k.holdings ∧ m.clock = k.clock ∧ k' = (m.execute c).2 ∧
    a = finish (.ok (if m.token? key = some token then 1 else 0))

theorem again_served (hc : Keys.Calls c s key token) (hknown : s ∈ k.known)
    (hr : (again what c finish).Runs es a) (hs : Keys.party.Serves k es k') :
    Executed finish c s key token k a k' := by
  obtain ⟨reply, rest, rfl, hrest⟩ := runs_call_iff.1 hr
  cases hs with
  | cons ha hs =>
    obtain ⟨rfl, rfl⟩ := ha
    rw [(called_known hc hknown).2] at hrest
    obtain ⟨rfl, rfl⟩ := runs_done_iff.1 hrest
    exact ⟨k, hknown, rfl, rfl, Party.serves_nil_iff.1 hs, rfl⟩

theorem loading_served (hc : Keys.Calls c s key token)
    (hr : (loading what c s finish).Runs es a) (hs : Keys.party.Serves k es k') :
    Executed finish c s key token k a k' := by
  obtain ⟨reply, rest, rfl, hrest⟩ := runs_call_iff.1 hr
  cases hs with
  | cons ha hs =>
    obtain ⟨rfl, rfl⟩ := ha
    obtain ⟨m, hm, hholdings, hclock, hk', ha⟩ := again_served hc List.mem_cons_self hrest hs
    exact ⟨m, hm, hholdings, hclock, hk', ha⟩

theorem asking_served (hc : Keys.Calls c s key token)
    (hr : (asking what c s finish).Runs es a) (hs : Keys.party.Serves k es k') :
    Executed finish c s key token k a k' := by
  obtain ⟨reply, rest, rfl, hrest⟩ := runs_call_iff.1 hr
  cases hs with
  | cons ha hs =>
    obtain ⟨rfl, rfl⟩ := ha
    by_cases hknown : s ∈ k.known
    · obtain ⟨hfound, hcalled⟩ := @called_known what key token c s finish k hc hknown
      rw [hfound, if_neg Bool.false_ne_true, hcalled] at hrest
      obtain ⟨rfl, rfl⟩ := runs_done_iff.1 hrest
      exact ⟨k, hknown, rfl, rfl, Party.serves_nil_iff.1 hs, rfl⟩
    · rw [execute_unknown hc hknown] at hrest hs
      exact loading_served hc hrest hs

/-- A visit that calls a script, with nothing in between: the server cannot be reached, or it
executes the command. -/
theorem connecting_served (hc : Keys.Calls c s key token)
    (hr : (connecting l what c s finish).Runs es a) (hs : Keys.party.Serves k es k') :
    (∃ reason, ⟨.openKeys l.server, .error reason⟩ ∈ es ∧
      a = finish (.error (Client.unreachable reason))) ∨ Executed finish c s key token k a k' := by
  obtain ⟨opened, rest, rfl, hrest⟩ := runs_call_iff.1 hr
  cases hs with
  | cons ha hs =>
    obtain rfl := ha
    rcases opened with reason | ⟨⟩
    · obtain ⟨-, rfl⟩ := runs_done_iff.1 hrest
      exact .inl ⟨reason, List.mem_cons_self, rfl⟩
    · exact .inr (asking_served hc hrest hs)

end Served

namespace Keys

variable {k m : Keys} {key token : String} {seconds : Nat}

theorem execute_claim_free (token : String) (seconds : Nat) (h : k.token? key = none) :
    k.execute (.claim key token seconds) = (.status "OK", k.put key token seconds) := by
  simp [execute, h]

theorem holding?_put_self (k : Keys) (key token : String) (h : 0 < seconds) :
    (k.put key token seconds).holding? key = some ⟨key, token, k.clock + 1000 * seconds⟩ := by
  simp [holding?, put, h]

theorem token?_congr (hh : m.holdings = k.holdings) (hc : m.clock = k.clock) (key : String) :
    m.token? key = k.token? key := by
  rw [token?, token?, holding?, holding?, hh, hc]

/-- The command is neither a renewal nor a return of the token under the key. -/
def IsForeign (key token : String) (c : Command) : Prop :=
  c ≠ .release key token ∧ ∀ seconds, c ≠ .renew key token seconds

/-- Whoever does not have the token leaves what is held as it is. -/
theorem Changes.holding?_eq {c : Command} {x : Holding} (h : Changes k c m)
    (hx : k.holding? key = some x) (hc : IsForeign key x.token c) : m.holding? key = some x := by
  have ht : k.token? key = some x.token := token?_eq_some_iff.2 ⟨x, hx, rfl⟩
  cases h with
  | still => exact hx
  | @claimed other token seconds hnone =>
    have hne : key ≠ other := by
      rintro rfl
      rw [ht] at hnone
      cases hnone
    rw [holding?_put_of_ne k hne, hx]
  | @renewed other token seconds hheld =>
    have hne : key ≠ other := by
      rintro rfl
      obtain rfl := Option.some.inj (ht.symm.trans hheld)
      exact hc.2 seconds rfl
    rw [holding?_put_of_ne k hne, hx]
  | @released other token hheld =>
    have hne : key ≠ other := by
      rintro rfl
      obtain rfl := Option.some.inj (ht.symm.trans hheld)
      exact hc.1 rfl
    rw [holding?_drop_of_ne k hne, hx]
  | loaded script => exact hx

theorem holding?_advance {x : Holding} {ms : Nat} (hx : k.holding? key = some x)
    (hms : k.clock + ms < x.endsAt) : (k.advance ms).holding? key = some x := by
  obtain ⟨hpx, front, rest, hall, hfront⟩ := List.find?_eq_some_iff_append.1 hx
  refine List.find?_eq_some_iff_append.2 ⟨?_, front, rest, hall, fun y hy => ?_⟩
  · have hkey : x.key = key := (mem_of_holding? hx).2.1
    simp [advance, hkey, hms]
  · -- What was over before is still over.
    have hy := hfront y hy
    simp only [Bool.not_and, Bool.or_eq_true, Bool.not_eq_true', decide_eq_false_iff_not] at hy ⊢
    exact hy.imp id fun hover hlater => hover (Nat.lt_of_le_of_lt (Nat.le_add_right _ ms) hlater)

theorem Changes.clock_eq {c : Command} (h : Changes k c m) : m.clock = k.clock := by
  cases h <;> rfl

end Keys

section Terms

variable {l : Client} {p : Permit} {k k' : Keys} {b : Bool} {scope : String}

/-- A renewal that finds the token gives it its whole time again, from now. -/
theorem served_renew (h : l.Answers k (.renew p) (.ok b) k') (hpos : 0 < l.terms.seconds)
    (ht : k.token? (l.terms.key p.scope) = some p.token) :
    k'.clock = k.clock ∧ k'.holding? (l.terms.key p.scope) =
      some ⟨l.terms.key p.scope, p.token, k.clock + 1000 * l.terms.seconds⟩ := by
  obtain ⟨es, hr, hs⟩ := h
  have hplan : (Visit.plan ⟨l, .renew p⟩).Runs es (.renewed (.ok b)) :=
    runs_bind_iff.2 ⟨es, [], .ok b, (List.append_nil es).symm, hr, .done _⟩
  rw [Visit.plan_renew] at hplan
  rcases connecting_served (Keys.calls_renew _ _ _) hplan hs with
    ⟨reason, -, ha⟩ | ⟨m, hknown, hholdings, hclock, rfl, -⟩
  · cases ha
  · have hm : m.token? (l.terms.key p.scope) = some p.token :=
      (Keys.token?_congr hholdings hclock _).trans ht
    have hput : (m.execute (.renew (l.terms.key p.scope) p.token l.terms.seconds)).2 =
        m.put (l.terms.key p.scope) p.token l.terms.seconds := by
      simp [Keys.execute, Keys.call, hknown, hm]
    rw [← hclock, ← Keys.holding?_put_self m _ _ hpos, ← hput]
    exact ⟨(Keys.changes_execute m _).clock_eq, rfl⟩

/-- A claim that is granted holds the key for its whole time. -/
theorem claiming_served {token : String} {es : List (Exchange Wire.Call.signature)}
    (hr : (claiming l scope token).Runs es (.acquired (.ok (some p))))
    (hs : Keys.party.Serves k es k') :
    p.scope = scope ∧ k' = k.put (l.terms.key scope) p.token l.terms.seconds := by
  obtain ⟨reply, rest, rfl, hrest⟩ := runs_call_iff.1 hr
  obtain ⟨rfl, hanswer⟩ := runs_done_iff.1 hrest
  obtain ⟨rfl, rfl⟩ := Keys.serves_command.1 hs
  cases ht : k.token? (l.terms.key scope) with
  | some other =>
    rw [Keys.execute_claim_held ht] at hanswer
    cases hanswer
  | none =>
    rw [Keys.execute_claim_free token _ ht] at hanswer ⊢
    cases hanswer
    exact ⟨rfl, rfl⟩

/-- A permit that is granted holds its key for its whole time. -/
theorem served_acquire (h : l.Answers k (.acquire scope) (.ok (some p)) k')
    (hscope : Text.allBlank scope = false) :
    p.scope = scope ∧ k' = k.put (l.terms.key scope) p.token l.terms.seconds := by
  obtain ⟨es, hr, hs⟩ := h
  have hplan : (Visit.plan ⟨l, .acquire scope⟩).Runs es (.acquired (.ok (some p))) :=
    runs_bind_iff.2 ⟨es, [], .ok (some p), (List.append_nil es).symm, hr, .done _⟩
  rw [plan_acquire l hscope] at hplan
  obtain ⟨fresh, rest, rfl, h₁⟩ := runs_call_iff.1 hplan
  cases hs with
  | cons ha hs =>
    obtain rfl := ha
    obtain ⟨opened, rest, rfl, h₂⟩ := runs_call_iff.1 h₁
    cases hs with
    | cons ha hs =>
      obtain rfl := ha
      rcases opened with reason | ⟨⟩
      · cases (runs_done_iff.1 h₂).2
      · exact claiming_served h₂ hs

/-- The server is reached whenever a worker tries to. -/
def Reached : Exchange Wire.Call.signature → Prop
  | ⟨.openKeys _, reply⟩ => reply = .ok ()
  | _ => True

theorem exists_reached (k : Keys) (c : Wire.Call) :
    ∃ r k', Keys.party.Answers k c r k' ∧ Reached ⟨c, r⟩ := by
  cases c with
  | command c => exact ⟨_, _, ⟨rfl, rfl⟩, trivial⟩
  | openKeys server => exact ⟨Except.ok (), _, rfl, rfl⟩
  | openTables server => exact ⟨Except.ok (), _, rfl, trivial⟩
  | post p => exact ⟨Except.error .unsent, _, rfl, trivial⟩
  | postWithin p limitMs => exact ⟨none, _, rfl, trivial⟩
  | ruleRows q => exact ⟨Except.ok [], _, rfl, trivial⟩
  | entryRows q => exact ⟨Except.ok [], _, rfl, trivial⟩
  | numbers q => exact ⟨Except.ok [], _, rfl, trivial⟩
  | change q => exact ⟨Except.ok 0, _, rfl, trivial⟩
  | readText path => exact ⟨Except.ok "", _, rfl, trivial⟩
  | log e => exact ⟨(), _, rfl, trivial⟩
  | freshId => exact ⟨RuleId.ofNat 0, _, rfl, trivial⟩
  | now => exact ⟨(⟨0⟩ : Instant), _, rfl, trivial⟩

/-- A renewal can always be answered without an error. -/
theorem exists_renewal (l : Client) (p : Permit) (k : Keys) :
    ∃ b k', l.Answers k (.renew p) (.ok b) k' := by
  obtain ⟨es, a, k', hr, hs, hreached⟩ :=
    Party.exists_served exists_reached (Visit.plan ⟨l, .renew p⟩) k
  obtain ⟨xs, ys, r, rfl, hrenew, hdone⟩ := runs_bind_iff.1 hr
  obtain ⟨rfl, rfl⟩ := runs_done_iff.1 hdone
  rw [List.append_nil] at hr hs hreached
  rw [Visit.plan_renew] at hr
  rcases connecting_served (Keys.calls_renew _ _ _) hr hs with
    ⟨reason, hin, -⟩ | ⟨m, -, -, -, -, ha⟩
  · cases hreached _ hin
  · obtain rfl := Answer.renewed.inj ha
    exact ⟨_, k', xs, hrenew, hs⟩

/-- A permit can be granted for a key that is not held. -/
theorem exists_grant (l : Client) {k : Keys} {scope : String}
    (hscope : Text.allBlank scope = false) (hfree : k.token? (l.terms.key scope) = none) :
    ∃ p k', l.Answers k (.acquire scope) (.ok (some p)) k' := by
  let token := l.terms.token (RuleId.ofNat 0).text
  have hclaim := Keys.execute_claim_free token l.terms.seconds hfree
  have hr : (Visit.plan ⟨l, .acquire scope⟩).Runs
      [⟨.freshId, RuleId.ofNat 0⟩, ⟨.openKeys l.server, .ok ()⟩,
        ⟨.command (.claim (l.terms.key scope) token l.terms.seconds), .status "OK"⟩]
      (.acquired (.ok (some ⟨scope, token⟩))) := by
    rw [plan_acquire l hscope]
    exact .call _ (.call _ (.call _ (.done _)))
  obtain ⟨xs, ys, r, hxs, hacquire, hdone⟩ := runs_bind_iff.1 hr
  obtain ⟨rfl, hr⟩ := runs_done_iff.1 hdone
  obtain rfl := Answer.acquired.inj hr
  rw [List.append_nil] at hxs
  refine ⟨⟨scope, token⟩, (k.execute (.claim (l.terms.key scope) token l.terms.seconds)).2, xs,
    hacquire, ?_⟩
  rw [← hxs]
  exact .cons rfl (.cons rfl (.cons ⟨by rw [hclaim], rfl⟩ (.nil _)))

end Terms

end PeerRules.Lease

/-! ## A batch and its timer -/

namespace PeerRules.Timer

/-- A timer that starts anew when it is late falls due again one period after its deadline or
later, and at most one period from now. -/
theorem fire_delay {t : Timer} {now : Nat} (hp : t.policy = .delay) (hdue : t.isDue now = true) :
    t.deadline + t.period ≤ (t.fire now).deadline ∧ (t.fire now).deadline ≤ now + t.period ∧
      (t.fire now).policy = .delay ∧ (t.fire now).period = t.period := by
  obtain ⟨policy, period, deadline⟩ := t
  obtain rfl : policy = .delay := hp
  have hdue : deadline ≤ now := by simpa [isDue] using hdue
  unfold fire
  split
  · exact ⟨Nat.le_refl _, Nat.add_le_add_right hdue _, rfl, rfl⟩
  · exact ⟨Nat.add_le_add_right hdue _, Nat.le_refl _, rfl, rfl⟩

end PeerRules.Timer

namespace PeerRules.Lease

/-- A sweep under way, the key server that keeps its lease, and the timer of its renewals. -/
structure Heartbeat (α : Type) where
  keys : Keys
  timer : Timer
  sweep : Sweep α

namespace Heartbeat

variable {α : Type} {l : Client} {renewMs late : Nat}

/-- One way for a sweep to go on in time. Renewals fall due `renewMs` apart, counted from the start
of the batch, and are made at most `late` milliseconds after that. -/
inductive Step (l : Client) (renewMs late : Nat) : Heartbeat α → Heartbeat α → Prop where
  /-- The sweep's next call is answered at once; if a batch follows, its timer starts. -/
  | call {k k' : Keys} {timer : Timer} {c : Call} {next : c.Reply → Sweep α} {r : c.Reply}
      (ha : l.Answers k c r k') :
      Step l renewMs late ⟨k, timer, .call c next⟩
        ⟨k', .start .delay renewMs k'.clock, next r⟩
  /-- The batch's next call is answered. -/
  | batch {k k' : Keys} {timer : Timer} {p : Permit} {c : Call}
      {rest : c.Reply → RulesPlan Batch.Result} {next : Batch.Result → Sweep α} {r : c.Reply}
      (ha : l.Answers k c r k') :
      Step l renewMs late ⟨k, timer, .guarded p (.call c rest) next⟩
        ⟨k', timer, .guarded p (rest r) next⟩
  /-- The timer is due, and the permit is renewed at once and without an error. -/
  | renewal {k k' : Keys} {timer : Timer} {p : Permit} {c : Call}
      {rest : c.Reply → RulesPlan Batch.Result} {next : Batch.Result → Sweep α} {b : Bool}
      (hdue : timer.isDue k.clock = true) (ha : l.Answers k (.renew p) (.ok b) k') :
      Step l renewMs late ⟨k, timer, .guarded p (.call c rest) next⟩
        ⟨k', timer.fire k'.clock, .guarded p (.call c rest) next⟩
  /-- The batch has come to its result. -/
  | finish {k : Keys} {timer : Timer} {p : Permit} {result : Batch.Result}
      {next : Batch.Result → Sweep α} :
      Step l renewMs late ⟨k, timer, .guarded p (.done result) next⟩ ⟨k, timer, next result⟩
  /-- Time passes while the batch waits for a reply. -/
  | wait {k : Keys} {timer : Timer} {p : Permit} {c : Call}
      {rest : c.Reply → RulesPlan Batch.Result} {next : Batch.Result → Sweep α} {ms : Nat}
      (hms : k.clock + ms ≤ timer.deadline + late) :
      Step l renewMs late ⟨k, timer, .guarded p (.call c rest) next⟩
        ⟨k.advance ms, timer, .guarded p (.call c rest) next⟩
  /-- Time passes while there is no permit. -/
  | idle {k : Keys} {timer : Timer} {w : Sweep α} {ms : Nat} (hw : w.permit? = none) :
      Step l renewMs late ⟨k, timer, w⟩ ⟨k.advance ms, timer, w⟩
  /-- Somebody else gives the server a command. -/
  | other {k : Keys} {timer : Timer} {w : Sweep α} {c : Command}
      (hc : ∀ p, w.permit? = some p → Keys.IsForeign (l.terms.key p.scope) p.token c) :
      Step l renewMs late ⟨k, timer, w⟩ ⟨(k.execute c).2, timer, w⟩

inductive Runs (l : Client) (renewMs late : Nat) : Heartbeat α → Heartbeat α → Prop where
  | nil (h : Heartbeat α) : Runs l renewMs late h h
  | snoc {h m n : Heartbeat α} (hr : Runs l renewMs late h m) (hs : Step l renewMs late m n) :
      Runs l renewMs late h n

/-- In time a sweep goes on as it does without a clock. -/
theorem Step.sweep_step {m n : Heartbeat α} (h : Step l renewMs late m n) :
    n.sweep = m.sweep ∨ ∃ es, Sweep.Step m.sweep es n.sweep := by
  cases h with
  | call => exact .inr ⟨_, .call _ _ _⟩
  | batch => exact .inr ⟨_, .batch _ _ _ _ _⟩
  | @renewal _ _ _ p c rest next b => exact .inr ⟨_, .renewal p c rest next (.ok b)⟩
  | finish => exact .inr ⟨_, .finish _ _ _⟩
  | wait | idle | other => exact .inl rfl

/-- The lease of a sweep that holds a permit has the permit's token. While the batch runs, the lease
outlives the next deadline of the timer and what may be late, and that moment has not passed. -/
inductive Beating (R : α → Prop) (l : Client) (renewMs late : Nat) : Heartbeat α → Prop where
  | asking {k : Keys} {timer : Timer} {w : Sweep α} (h : Sweep.Asking R w) :
      Beating R l renewMs late ⟨k, timer, w⟩
  | telling {k : Keys} {timer : Timer} {w : Sweep α} {Q : α → Prop} (h : Sweep.Telling Q w) :
      Beating R l renewMs late ⟨k, timer, w⟩
  | batch {k : Keys} {timer : Timer} {p : Permit} {work : RulesPlan Batch.Result}
      {next : Batch.Result → Sweep α} {x : Holding} (h : Sweep.Holding p (.guarded p work next))
      (hx : k.holding? (l.terms.key p.scope) = some x) (ht : x.token = p.token)
      (htimer : timer.policy = .delay ∧ timer.period = renewMs)
      (hnow : k.clock ≤ timer.deadline + late) (hends : timer.deadline + late < x.endsAt) :
      Beating R l renewMs late ⟨k, timer, .guarded p work next⟩
  | leaving {k : Keys} {timer : Timer} {p : Permit} {next : Except Fault Unit → Sweep α}
      {x : Holding} (h : Sweep.Holding p (.call (.release p) next))
      (hx : k.holding? (l.terms.key p.scope) = some x) (ht : x.token = p.token) :
      Beating R l renewMs late ⟨k, timer, .call (.release p) next⟩

variable {R : α → Prop} {k : Keys} {timer : Timer} {w : Sweep α} {p : Permit} {x : Holding}
  {m n : Heartbeat α}

theorem beating_of_holding (h : Sweep.Holding p w)
    (hx : k.holding? (l.terms.key p.scope) = some x) (ht : x.token = p.token)
    (htimer : timer.policy = .delay ∧ timer.period = renewMs)
    (hnow : k.clock ≤ timer.deadline + late) (hends : timer.deadline + late < x.endsAt) :
    Beating R l renewMs late ⟨k, timer, w⟩ := by
  cases h with
  | batch hw h hr => exact .batch (.batch hw h hr) hx ht htimer hnow hends
  | leaving h => exact .leaving (.leaving h) hx ht

theorem permit?_of_asking (h : Sweep.Asking R w) : w.permit? = none := by
  cases h <;> rfl

theorem permit?_of_telling (h : Sweep.Telling R w) : w.permit? = none := by
  cases h with
  | done _ => rfl
  | @call c _ hc _ => cases c <;> first | rfl | cases hc

/-- The token is under the key as long as the sweep holds the permit. -/
theorem Beating.token?_eq (h : Beating R l renewMs late m) (hp : m.sweep.permit? = some p) :
    m.keys.token? (l.terms.key p.scope) = some p.token := by
  cases h with
  | asking h =>
    rw [permit?_of_asking h] at hp
    cases hp
  | telling h =>
    rw [permit?_of_telling h] at hp
    cases hp
  | batch _ hx ht =>
    obtain rfl := Option.some.inj hp
    exact Keys.token?_eq_some_iff.2 ⟨_, hx, ht⟩
  | leaving _ hx ht =>
    obtain rfl := Option.some.inj hp
    exact Keys.token?_eq_some_iff.2 ⟨_, hx, ht⟩

/-- A sweep that is granted its permit starts with its whole time ahead. -/
theorem beating_granted {k' : Keys} (hw : Sweep.Holding p w)
    (ha : l.Answers k (.acquire Sweep.scope) (.ok (some p)) k')
    (hslow : renewMs + late < 1000 * l.terms.seconds) :
    Beating R l renewMs late ⟨k', .start .delay renewMs k'.clock, w⟩ := by
  obtain ⟨hscope, rfl⟩ := served_acquire ha (by decide +kernel)
  rw [← hscope]
  refine beating_of_holding hw (Keys.holding?_put_self k _ _ (by omega)) rfl ⟨rfl, rfl⟩ ?_ ?_
  · simp only [Timer.start, Keys.put]
    omega
  · simp only [Timer.start, Keys.put]
    omega

/-- A renewal in time puts the end of the lease behind the next deadline. -/
theorem beating_renewed {k' : Keys} {work : RulesPlan Batch.Result}
    {next : Batch.Result → Sweep α} {b : Bool} (h : Sweep.Holding p (.guarded p work next))
    (ht : k.token? (l.terms.key p.scope) = some p.token)
    (htimer : timer.policy = .delay ∧ timer.period = renewMs)
    (hnow : k.clock ≤ timer.deadline + late) (hdue : timer.isDue k.clock = true)
    (ha : l.Answers k (.renew p) (.ok b) k')
    (hslow : renewMs + late < 1000 * l.terms.seconds) :
    Beating R l renewMs late ⟨k', timer.fire k'.clock, .guarded p work next⟩ := by
  obtain ⟨hclock, hx⟩ := served_renew ha (by omega) ht
  rw [← hclock] at hdue hnow hx
  obtain ⟨hpolicy, rfl⟩ := htimer
  obtain ⟨hafter, hbefore, hpolicy', hperiod⟩ := Timer.fire_delay hpolicy hdue
  refine .batch h hx rfl ⟨hpolicy', hperiod⟩ ?_ ?_
  · omega
  · dsimp only
    omega

theorem answers_other {c : Call} {r : c.Reply} {k' : Keys} (hc : c.isAboutPermits = false)
    (ha : l.Answers k c r k') : k' = k := by
  cases c <;> first | exact ha | cases hc

/-- **One step** keeps the lease ahead of the timer. -/
theorem Beating.step (h : Beating R l renewMs late m) (hs : Step l renewMs late m n)
    (hslow : renewMs + late < 1000 * l.terms.seconds) : Beating R l renewMs late n := by
  cases hs with
  | @call k k' timer c next r ha =>
    cases h with
    | asking h =>
      cases h with
      | clock h => exact .asking (h r)
      | acquire herror hnone hsome =>
        match r with
        | .error f => exact .telling (herror f)
        | .ok none => exact .telling hnone
        | .ok (some p) => exact beating_granted (hsome p) ha hslow
    | telling h =>
      cases h with
      | call _ h => exact .telling (h r)
    | leaving h _ _ =>
      cases h with
      | leaving h => exact .telling (h r)
  | @batch k k' timer p c rest next r ha =>
    cases h with
    | asking h => cases h
    | telling h => cases h
    | batch h hx ht htimer hnow hends =>
      cases h with
      | batch hw h hr =>
        cases hw with
        | call hc hw =>
          obtain rfl := answers_other hc ha
          exact .batch (.batch (hw r) h hr) hx ht htimer hnow hends
  | renewal hdue ha =>
    cases h with
    | asking h => cases h
    | telling h => cases h
    | batch h hx ht htimer hnow hends =>
      exact beating_renewed h (Keys.token?_eq_some_iff.2 ⟨_, hx, ht⟩) htimer hnow hdue ha hslow
  | finish =>
    cases h with
    | asking h => cases h
    | telling h => cases h
    | batch h hx ht htimer hnow hends =>
      cases h with
      | batch _ h _ => exact beating_of_holding (h _) hx ht htimer hnow hends
  | wait hms =>
    cases h with
    | asking h => cases h
    | telling h => cases h
    | batch h hx ht htimer hnow hends =>
      exact .batch h (Keys.holding?_advance hx (Nat.lt_of_le_of_lt hms hends)) ht htimer hms hends
  | idle hw =>
    cases h with
    | asking h => exact .asking h
    | telling h => exact .telling h
    | batch => cases hw
    | leaving => cases hw
  | @other k timer w c hc =>
    cases h with
    | asking h => exact .asking h
    | telling h => exact .telling h
    | batch h hx ht htimer hnow hends =>
      have hforeign := hc _ rfl
      rw [← ht] at hforeign
      have hchanges := Keys.changes_execute k c
      refine .batch h (hchanges.holding?_eq hx hforeign) ht htimer ?_ hends
      rwa [hchanges.clock_eq]
    | leaving h hx ht =>
      have hforeign := hc _ rfl
      rw [← ht] at hforeign
      exact .leaving h ((Keys.changes_execute k c).holding?_eq hx hforeign) ht

theorem Beating.runs (h : Beating R l renewMs late m) (hr : Runs l renewMs late m n)
    (hslow : renewMs + late < 1000 * l.terms.seconds) : Beating R l renewMs late n := by
  induction hr with
  | nil => exact h
  | snoc _ hs ih => exact ih.step hs hslow

theorem Runs.append {o : Heartbeat α} (h : Runs l renewMs late m n) (h' : Runs l renewMs late n o) :
    Runs l renewMs late m o := by
  induction h' with
  | nil => exact h
  | snoc _ hs ih => exact .snoc ih hs

/-- A batch that waits for a reply can wait a millisecond longer, after a renewal if need be. -/
theorem exists_tick {c : Call} {rest : c.Reply → RulesPlan Batch.Result}
    {next : Batch.Result → Sweep α}
    (h : Beating R l renewMs late ⟨k, timer, .guarded p (.call c rest) next⟩)
    (hpos : 0 < renewMs) (hslow : renewMs + late < 1000 * l.terms.seconds) :
    ∃ k' timer', Runs l renewMs late ⟨k, timer, .guarded p (.call c rest) next⟩
      ⟨k', timer', .guarded p (.call c rest) next⟩ ∧ k'.clock = k.clock + 1 := by
  cases h with
  | asking h => cases h
  | telling h => cases h
  | batch h hx ht htimer hnow hends =>
    by_cases hroom : k.clock + 1 ≤ timer.deadline + late
    · exact ⟨k.advance 1, timer, .snoc (.nil _) (.wait hroom), rfl⟩
    · obtain ⟨b, k', ha⟩ := exists_renewal l p k
      have hdue : timer.isDue k.clock = true := by
        simp only [Timer.isDue, decide_eq_true_eq]
        omega
      have htoken := Keys.token?_eq_some_iff.2 ⟨_, hx, ht⟩
      obtain ⟨hclock, -⟩ := served_renew ha (by omega) htoken
      obtain ⟨hafter, -, -, -⟩ := Timer.fire_delay htimer.1 hdue
      have hroom' : k'.clock + 1 ≤ (timer.fire k'.clock).deadline + late := by
        rw [hclock]
        have := htimer.2
        omega
      exact ⟨k'.advance 1, timer.fire k'.clock,
        .snoc (.snoc (.nil _) (.renewal hdue ha)) (.wait hroom'), by simp [Keys.advance, hclock]⟩

/-- A batch can last as long as it likes. -/
theorem exists_later {c : Call} {rest : c.Reply → RulesPlan Batch.Result}
    {next : Batch.Result → Sweep α}
    (h : Beating R l renewMs late ⟨k, timer, .guarded p (.call c rest) next⟩)
    (hpos : 0 < renewMs) (hslow : renewMs + late < 1000 * l.terms.seconds) (ms : Nat) :
    ∃ k' timer', Runs l renewMs late ⟨k, timer, .guarded p (.call c rest) next⟩
      ⟨k', timer', .guarded p (.call c rest) next⟩ ∧ k'.clock = k.clock + ms := by
  induction ms with
  | zero => exact ⟨k, timer, .nil _, rfl⟩
  | succ ms ih =>
    obtain ⟨k₁, timer₁, hr₁, hclock₁⟩ := ih
    obtain ⟨k₂, timer₂, hr₂, hclock₂⟩ := exists_tick (h.runs hr₁ hslow) hpos hslow
    exact ⟨k₂, timer₂, hr₁.append hr₂, by omega⟩

end Heartbeat

end PeerRules.Lease

namespace PeerRules.Worker

open Lease

variable {c : Config} {l : Client}

theorem Config.leases_terms (hl : c.leases = .ok (some l)) :
    l.terms = ⟨leaseKeyFront, c.workerId, c.leaseSeconds⟩ ∧ 0 < c.leaseSeconds := by
  unfold leases at hl
  split at hl
  · cases hl
  · split at hl
    · cases hl
    · unfold Settings.make at hl
      split at hl
      · cases hl
      · split at hl
        · cases hl
        · next hne =>
          cases hl
          exact ⟨rfl, Nat.pos_of_ne_zero hne⟩

/-- The interval is not nothing, and three of them fit into a lease. -/
theorem Config.renewIntervalMs_bounds (hpos : 0 < c.leaseSeconds)
    (hsmall : c.leaseSeconds * 1000 < UInt64.size) :
    0 < c.renewIntervalMs ∧ 3 * c.renewIntervalMs ≤ 1000 * c.leaseSeconds := by
  have hlt : c.leaseSeconds < UInt64.size := by omega
  have hproduct : (UInt64.ofNat c.leaseSeconds * 1000).toNat = c.leaseSeconds * 1000 := by
    rw [UInt64.toNat_mul, UInt64.toNat_ofNat_of_lt' hlt]
    exact Nat.mod_eq_of_lt hsmall
  have hthird : (UInt64.ofNat c.leaseSeconds * 1000 / 3).toNat = c.leaseSeconds * 1000 / 3 := by
    rw [UInt64.toNat_div, hproduct]
    rfl
  unfold renewIntervalMs
  rw [hthird]
  omega

/-- **A long batch keeps its lease.** The renewals fall due at the interval that the configuration
makes of the lease, and are never later than two thirds of it. From the moment at which a caller is
given its permit until the permit has been given back, the permit's token is under its key, at every
moment of every run; and a batch that waits for a reply can wait for any time. -/
theorem lease_kept (hl : c.leases = .ok (some l)) (hsmall : c.leaseSeconds * 1000 < UInt64.size)
    {late : Nat} (hlate : 3 * late < 2 * (1000 * c.leaseSeconds)) {caller : Caller} {k : Keys}
    {timer : Timer} {h : Heartbeat Caller.Answer}
    (hr : Heartbeat.Runs l c.renewIntervalMs late ⟨k, timer, caller.sweep⟩ h) :
    (∀ p, h.sweep.permit? = some p → h.keys.token? (l.terms.key p.scope) = some p.token) ∧
    ∀ p b rest next, h.sweep = .guarded p (.call b rest) next → ∀ ms, ∃ later,
      Heartbeat.Runs l c.renewIntervalMs late h later ∧ later.sweep = h.sweep ∧
        later.keys.clock = h.keys.clock + ms := by
  obtain ⟨hterms, hpos⟩ := Config.leases_terms hl
  obtain ⟨hsome, hthird⟩ := Config.renewIntervalMs_bounds hpos hsmall
  have hslow : c.renewIntervalMs + late < 1000 * l.terms.seconds := by
    rw [hterms]
    dsimp only
    omega
  have hbeating := (Heartbeat.Beating.asking caller.sweep_asking).runs hr hslow
  refine ⟨fun p hp => hbeating.token?_eq hp, ?_⟩
  obtain ⟨k, timer, w⟩ := h
  rintro p b rest next rfl ms
  obtain ⟨k', timer', hlater, hclock⟩ := Heartbeat.exists_later hbeating hsome hslow ms
  exact ⟨_, hlater, rfl, hclock⟩

/-! ### A lease of a second -/

def secondSettings : Config.Lookup := fun name =>
  if name = "REDIS_URL" then some "redis://keys"
  else if name = "RULE_LOCK_LEASE_SECONDS" then some "1" else none

def secondConfig : Config where
  databaseUrl := none
  nodeUrl := Config.defaultNodeUrl
  nodeUser := none
  nodePassword := none
  ruleIntervalMs := 300000
  dispatchTimeoutMs := 10000
  rpcTimeoutMs := 15000
  redisUrl := some "redis://keys"
  leaseSeconds := 1
  workerId := "worker-1"
  seedPath := none

def secondClient : Client :=
  ⟨⟨.machine "keys" 6379, none, none, 0, .two⟩, ⟨leaseKeyFront, "worker-1", 1⟩⟩

theorem ofLookup_secondSettings :
    Config.ofLookup secondSettings "worker-1" = .ok secondConfig := by decide +kernel

theorem leases_secondConfig : secondConfig.leases = .ok (some secondClient) := by decide +kernel

/-- A batch that has run for five leases still has its own. -/
theorem lease_kept_fiveLeases :
    Config.ofLookup secondSettings "worker-1" = .ok secondConfig ∧
    secondConfig.leases = .ok (some secondClient) ∧
    secondConfig.leaseSeconds * 1000 < UInt64.size ∧
    3 * 0 < 2 * (1000 * secondConfig.leaseSeconds) ∧
    ∃ h p, Heartbeat.Runs secondClient secondConfig.renewIntervalMs 0
      ⟨.empty, .start .delay 1 0, (Caller.manual 10000).sweep⟩ h ∧ h.keys.clock = 5000 ∧
      h.sweep.permit? = some p ∧
      h.keys.token? (secondClient.terms.key p.scope) = some p.token := by
  have hsmall : secondConfig.leaseSeconds * 1000 < UInt64.size := by decide
  have hlate : 3 * 0 < 2 * (1000 * secondConfig.leaseSeconds) := by decide
  have hfree : Keys.empty.token? (secondClient.terms.key Sweep.scope) = none := rfl
  obtain ⟨p, k, ha⟩ := exists_grant secondClient (by decide +kernel) hfree
  have hgranted : Heartbeat.Runs secondClient secondConfig.renewIntervalMs 0
      ⟨.empty, .start .delay 1 0, (Caller.manual 10000).sweep⟩ _ := .snoc (.nil _) (.call ha)
  obtain ⟨-, hlong⟩ := lease_kept leases_secondConfig hsmall hlate hgranted
  obtain ⟨h, hlater, hsweep, hclock⟩ := hlong p _ _ _ rfl 5000
  have hp : h.sweep.permit? = some p := by
    rw [hsweep]
    rfl
  obtain ⟨hkept, -⟩ := lease_kept leases_secondConfig hsmall hlate (hgranted.append hlater)
  refine ⟨ofLookup_secondSettings, leases_secondConfig, hsmall, hlate, h, p,
    hgranted.append hlater, ?_, hp, hkept p hp⟩
  obtain ⟨-, rfl⟩ := served_acquire ha (by decide +kernel)
  exact hclock

end PeerRules.Worker
