import PeerRules.Proofs.Acceptance
import PeerRules.Proofs.Dues
import PeerRules.Rehearsal.World

/-!
# Orders with a deadline

A node may reply to an order after any time, with an outcome or a fault, or never (`Reaction`). The
one who gave the order waits for a limited time; a reply at the very last moment still counts. So
nothing that a node does keeps an action from coming to an outcome by its deadline.

Which order is due for an action is read off the peer's attributes (`Due`): one that says something
is ordered as it stands, and a peer without it is left alone, and so is the node.

* `due_iff`: the order that is due is the one that is given.
* `World.control_spec`: a rehearsal keeps such a deadline.
* `applied_by_deadline`: what applying an action comes to, whatever the peer and the node.
-/
namespace PeerRules

open Json Rule.Submission

namespace Peer

variable {p : Peer} {s : String}

theorem address?_eq_some_iff :
    p.address? = some s ↔ p.attributes.find? "addr" = some (.string s) ∧ Says s.toList := by
  unfold address?
  split
  · next t ht => grind [says_iff]
  · next hother => exact iff_of_false (by simp) fun h => hother s h.1

theorem id?_eq_some_iff :
    p.id? = some s ↔ (∃ n, p.attributes.find? "id" = some (.number n) ∧ n.text = s) ∨
      p.attributes.find? "id" = some (.string s) ∧ Says s.toList := by
  unfold id?
  split
  · next n hn => simp [hn]
  · next t ht => grind [says_iff]
  · next hnumber hstring =>
    refine iff_of_false (by simp) ?_
    rintro (⟨n, hn, -⟩ | ⟨ht, -⟩)
    · exact hnumber n hn
    · exact hstring s ht

end Peer

namespace Dispatch

variable {peer : Peer} {action : Action} {c : Control} {limitMs : Nat}

/-! ## The order that is due -/

/-- The order that an action asks for about a peer. -/
inductive Due (peer : Peer) : Action → Control → Prop where
  /-- A ban is of the address, exactly as it is written, and lasts for a day if no time is given. -/
  | ban {address : String} {seconds : Option UInt64}
    (h : peer.attributes.find? "addr" = some (.string address)) (hs : Says address.toList) :
    Due peer (.ban seconds) (.ban address (seconds.getD 86400))
  /-- A disconnection is by identifier, be it a number, -/
  | number {n : Number} (h : peer.attributes.find? "id" = some (.number n)) :
    Due peer .disconnect (.disconnect n.text)
  /-- or a text. -/
  | text {id : String} (h : peer.attributes.find? "id" = some (.string id)) (hs : Says id.toList) :
    Due peer .disconnect (.disconnect id)

theorem due_iff : Due peer action c ↔ order peer action = .ok c := by
  constructor
  · rintro (⟨h, hs⟩ | h | ⟨h, hs⟩)
    · simp [order, Peer.address?_eq_some_iff.2 ⟨h, hs⟩, Action.banSeconds?,
        Action.defaultBanSeconds]
    · simp [order, Peer.id?_eq_some_iff.2 (.inl ⟨_, h, rfl⟩)]
    · simp [order, Peer.id?_eq_some_iff.2 (.inr ⟨h, hs⟩)]
  · intro h
    cases action with
    | ban seconds =>
      cases ha : peer.address? with
      | none => simp [order, ha] at h
      | some address =>
        simp only [order, ha, Action.banSeconds?] at h
        cases h
        obtain ⟨haddr, hs⟩ := Peer.address?_eq_some_iff.1 ha
        exact .ban haddr hs
    | disconnect =>
      cases hid : peer.id? with
      | none => simp [order, hid] at h
      | some id =>
        simp only [order, hid] at h
        cases h
        obtain ⟨n, hn, rfl⟩ | ⟨ht, hs⟩ := Peer.id?_eq_some_iff.1 hid
        · exact .number hn
        · exact .text ht hs
    | unsupported name => simp [order] at h

/-- Every ban has a duration. -/
theorem order_ne_noDuration (peer : Peer) (action : Action) :
    order peer action ≠ .error noDuration := by
  cases action with
  | ban seconds => cases ha : peer.address? <;> simp [order, ha, Action.banSeconds?, noDuration]
  | disconnect => cases hid : peer.id? <;> simp [order, hid, noDuration]
  | unsupported name =>
    intro h
    have hlength := congrArg String.toList (Except.error.inj h)
    simp [noDuration] at hlength

/-! ## A node and its time -/

/-- How a node takes an order: it replies after some time, or never. -/
inductive Reaction where
  | replies (afterMs : Nat) (reply : Except Fault Outcome)
  | hangs

namespace Reaction

def seenWithin (limitMs : Nat) : Reaction → Option (Except Fault Outcome)
  | .replies afterMs reply => if afterMs ≤ limitMs then some reply else none
  | .hangs => none

def waitedFor (limitMs : Nat) : Reaction → Nat
  | .replies afterMs _ => min afterMs limitMs
  | .hangs => limitMs

/-- The reply of the node of a rehearsal, by the line of the script for it. -/
def ofLine (line : Option Rehearsal.Line) (c : Control) : Reaction :=
  .replies ((line.map (·.delayMs)).getD 0)
    (match line.bind (·.fault) with
    | some f => .error f
    | none => .ok (Rehearsal.World.obeyed line c))

variable {r : Reaction}

theorem waitedFor_le (limitMs : Nat) (r : Reaction) : r.waitedFor limitMs ≤ limitMs := by
  cases r with
  | replies => exact Nat.min_le_right _ _
  | hangs => exact Nat.le_refl _

theorem seenWithin_eq_some_iff {reply : Except Fault Outcome} :
    r.seenWithin limitMs = some reply ↔ ∃ ms ≤ limitMs, r = .replies ms reply := by
  cases r with
  | replies afterMs r' =>
    constructor
    · intro h
      obtain ⟨hms, rfl⟩ : afterMs ≤ limitMs ∧ r' = reply := by simpa [seenWithin] using h
      exact ⟨afterMs, hms, rfl⟩
    · rintro ⟨_, hms, ⟨⟩⟩
      exact if_pos hms
  | hangs => simp [seenWithin]

theorem seenWithin_eq_none (h : ∀ ms ≤ limitMs, ∀ reply, r ≠ .replies ms reply) :
    r.seenWithin limitMs = none := by
  refine Option.eq_none_iff_forall_ne_some.2 fun reply hseen => ?_
  obtain ⟨ms, hms, hr⟩ := seenWithin_eq_some_iff.1 hseen
  exact h ms hms reply hr

end Reaction

/-- What takes time, and how much: the node, which takes an order as it does, and nothing else. The
state is the time. -/
inductive Attends (node : Control → Reaction) : Nat → (c : Call) → c.Reply → Nat → Prop where
  | log (now : Nat) (e : Log.Event) : Attends node now (.log e) () now
  | control (now : Nat) (c : Control) (limitMs : Nat) :
    Attends node now (.control c limitMs) ((node c).seenWithin limitMs)
      (now + (node c).waitedFor limitMs)

/-- Who answers while an action is applied; time goes on by itself, too. -/
def attendant (node : Control → Reaction) : Party Call.signature Nat := ⟨Attends node, (· ≤ ·)⟩

theorem serves_order_iff {node : Control → Reaction} {now later : Nat} {e : Log.Event}
    {reply : Option (Except Fault Outcome)} :
    (attendant node).Serves now [⟨.log e, ()⟩, ⟨.control c limitMs, reply⟩] later ↔
      reply = (node c).seenWithin limitMs ∧ later = now + (node c).waitedFor limitMs := by
  constructor
  · intro h
    cases h with
    | cons hlog h =>
      cases hlog
      cases h with
      | cons hcontrol h =>
        cases hcontrol
        cases h
        exact ⟨rfl, rfl⟩
  · rintro ⟨rfl, rfl⟩
    exact .cons (.log now e) (.cons (.control now c limitMs) (.nil _))

end Dispatch

namespace Rehearsal.World

open Dispatch

theorem receive_control {w : World} {flight : Flight} {c : Control} {limitMs : Nat}
    (h : w.clock = flight.sentAt + (Reaction.ofLine flight.line c).waitedFor limitMs) :
    (w.receive (.control c limitMs) flight).1 =
      (Reaction.ofLine flight.line c).seenWithin limitMs := by
  have harrived : w.arrived flight = decide ((flight.line.map (·.delayMs)).getD 0 ≤ limitMs) := by
    simp only [Reaction.ofLine, Reaction.waitedFor] at h
    simp only [arrived, h, Nat.add_le_add_iff_left, Nat.le_min, Nat.le_refl, true_and]
  unfold receive
  rw [harrived]
  by_cases htime : (flight.line.map (·.delayMs)).getD 0 ≤ limitMs
  · simp only [Reaction.ofLine, Reaction.seenWithin, htime]
    cases flight.line.bind (·.fault) <;> rfl
  · simp only [Reaction.ofLine, Reaction.seenWithin, htime]
    rfl

/-- In a rehearsal an order is answered as its node would have it, and no later than by its
deadline. -/
theorem control_spec (w : World) (c : Control) (limitMs : Nat) :
    let flight := (w.send (.control c limitMs)).1
    let reaction := Reaction.ofLine flight.line c
    flight.due = w.clock + reaction.waitedFor limitMs ∧
      ∀ w' : World, w'.clock = flight.due →
        (w'.receive (.control c limitMs) flight).1 = reaction.seenWithin limitMs :=
  ⟨rfl, fun _ hclock => receive_control hclock⟩

end Rehearsal.World

namespace Dispatch

/-! ## Applying an action -/

section

variable {es : List (Exchange Call.signature)} {result : Except Fault Outcome}

/-- Applying an action makes no call, or announces an order and then gives it. -/
theorem runs_toNode_iff :
    (toNode limitMs peer action).Runs es result ↔
      (∃ reason, order peer action = .error reason ∧ es = [] ∧ result = .ok (.failed reason)) ∨
      ∃ c reply, order peer action = .ok c ∧
        es = [⟨.log (announcement c), ()⟩, ⟨.control c (deadline limitMs), reply⟩] ∧
        result = .ok (outcome (deadline limitMs) reply) := by
  rw [← Plan.bind_done (toNode limitMs peer action), Run.toNode_bind]
  cases order peer action with
  | error reason => simp [Plan.runs_done_iff, eq_comm]
  | ok c =>
    constructor
    · intro h
      obtain ⟨⟨⟩, es₁, rfl, h₁⟩ := Plan.runs_call_iff.1 h
      obtain ⟨reply, es₂, rfl, h₂⟩ := Plan.runs_call_iff.1 h₁
      obtain ⟨rfl, rfl⟩ := Plan.runs_done_iff.1 h₂
      exact .inr ⟨c, reply, rfl, rfl, rfl⟩
    · rintro (⟨_, ⟨⟩, -⟩ | ⟨_, reply, ⟨⟩, rfl, rfl⟩)
      exact Plan.runs_call_iff.2 ⟨(), _, rfl, Plan.runs_call_iff.2 ⟨reply, [], rfl, .done _⟩⟩

theorem outcome_success_iff {reply : Option (Except Fault Outcome)} :
    (outcome limitMs reply).success = true ↔
      ∃ said, reply = some (.ok said) ∧ said.success = true := by
  match reply with
  | none => simp [outcome, Outcome.failed]
  | some (.error f) => simp [outcome, Outcome.failed]
  | some (.ok said) => simp [outcome]

/-- What there is to know of an action that was applied to a peer: the calls and the outcome. -/
structure Applied (node : Control → Reaction) (limitMs : Nat) (peer : Peer) (action : Action)
    (es : List (Exchange Call.signature)) (o : Outcome) : Prop where
  /-- The order that is due is given, once, with its deadline, and nothing else is asked for. -/
  ordered : ∀ c, Due peer action c →
    (Run.portCalls es).map (·.call) = [.control c (deadline limitMs)]
  /-- Where none is due, nobody is called, and that is a failure. -/
  spared : (∀ c, ¬ Due peer action c) → Run.portCalls es = [] ∧ o.success = false
  /-- It is a success just if the node says so in time. -/
  success_iff : o.success = true ↔ ∃ c, Due peer action c ∧
    ∃ ms ≤ deadline limitMs, ∃ said, node c = .replies ms (.ok said) ∧ said.success = true
  /-- What the node says in time is the outcome. -/
  told : ∀ c, Due peer action c → ∀ ms ≤ deadline limitMs, ∀ said,
    node c = .replies ms (.ok said) → o = said
  /-- A fault in time is a failure with its message. -/
  refused : ∀ c, Due peer action c → ∀ ms ≤ deadline limitMs, ∀ f,
    node c = .replies ms (.error f) → o = .failed f.message
  /-- Without a reply in time it is a failure that names the time. -/
  late : ∀ c, Due peer action c → (∀ ms ≤ deadline limitMs, ∀ reply, node c ≠ .replies ms reply) →
    o = .failed ("peer control call timed out after " ++ toString (deadline limitMs) ++ " ms")

variable {node : Control → Reaction}

theorem Applied.of_error {reason : String} (h : order peer action = .error reason) :
    Applied node limitMs peer action [] (.failed reason) := by
  have hnone : ∀ c, ¬ Due peer action c := by
    intro c hdue
    cases h.symm.trans (due_iff.1 hdue)
  exact {
    ordered c hdue := absurd hdue (hnone c)
    spared _ := ⟨rfl, rfl⟩
    success_iff := iff_of_false (by simp [Outcome.failed]) fun ⟨c, hdue, _⟩ => hnone c hdue
    told c hdue := absurd hdue (hnone c)
    refused c hdue := absurd hdue (hnone c)
    late c hdue := absurd hdue (hnone c) }

theorem Applied.of_due (hdue : Due peer action c) :
    Applied node limitMs peer action
      [⟨.log (announcement c), ()⟩,
        ⟨.control c (deadline limitMs), (node c).seenWithin (deadline limitMs)⟩]
      (outcome (deadline limitMs) ((node c).seenWithin (deadline limitMs))) := by
  -- No other order is due, so all that is said of orders that are due is said of this one.
  have honly : ∀ {d}, Due peer action d → d = c := by
    intro d hd
    exact Except.ok.inj ((due_iff.1 hd).symm.trans (due_iff.1 hdue))
  have hseen : ∀ {ms reply}, ms ≤ deadline limitMs → node c = .replies ms reply →
      (node c).seenWithin (deadline limitMs) = some reply := by
    intro ms reply hms hr
    exact Reaction.seenWithin_eq_some_iff.2 ⟨ms, hms, hr⟩
  constructor
  case ordered =>
    intro d hd
    rw [honly hd]
    rfl
  case spared => exact fun hnone => absurd hdue (hnone c)
  case success_iff =>
    rw [outcome_success_iff]
    constructor
    · rintro ⟨said, hsaid, hsuccess⟩
      obtain ⟨ms, hms, hr⟩ := Reaction.seenWithin_eq_some_iff.1 hsaid
      exact ⟨c, hdue, ms, hms, said, hr, hsuccess⟩
    · rintro ⟨d, hd, ms, hms, said, hr, hsuccess⟩
      rw [honly hd] at hr
      exact ⟨said, hseen hms hr, hsuccess⟩
  case told =>
    intro d hd ms hms said hr
    rw [honly hd] at hr
    rw [hseen hms hr]
    rfl
  case refused =>
    intro d hd ms hms f hr
    rw [honly hd] at hr
    rw [hseen hms hr]
    rfl
  case late =>
    intro d hd hlate
    rw [honly hd] at hlate
    rw [Reaction.seenWithin_eq_none hlate]
    rfl

/-- **An action comes to an outcome by its deadline.** Whatever the peer, the action, the time that
is allowed and the node, there is one course of events, and it is over by the deadline, which is at
least a millisecond away. It is never an error, and never for want of a duration of a ban. -/
theorem applied_by_deadline (node : Control → Reaction) (limitMs : Nat) (peer : Peer)
    (action : Action) (now : Nat) :
    1 ≤ deadline limitMs ∧ order peer action ≠ .error noDuration ∧
      ∃ es o later, (toNode limitMs peer action).Runs es (.ok o) ∧
        (attendant node).Serves now es later ∧ later ≤ now + deadline limitMs ∧
        Applied node limitMs peer action es o ∧
        ∀ es' result later', (toNode limitMs peer action).Runs es' result →
          (attendant node).Serves now es' later' → es' = es ∧ result = .ok o ∧ later' = later := by
  refine ⟨deadline_pos limitMs, order_ne_noDuration peer action, ?_⟩
  cases horder : order peer action with
  | error reason =>
    refine ⟨[], .failed reason, now, runs_toNode_iff.2 (.inl ⟨reason, horder, rfl, rfl⟩), .nil now,
      Nat.le_add_right _ _, .of_error horder, fun es result later hruns hserves => ?_⟩
    obtain ⟨reason', hreason, rfl, rfl⟩ | ⟨c, reply, hc, -⟩ := runs_toNode_iff.1 hruns
    · cases hserves
      cases horder.symm.trans hreason
      exact ⟨rfl, rfl, rfl⟩
    · cases horder.symm.trans hc
  | ok c =>
    refine ⟨_, _, _, runs_toNode_iff.2 (.inr ⟨c, _, horder, rfl, rfl⟩),
      serves_order_iff.2 ⟨rfl, rfl⟩, Nat.add_le_add_left (Reaction.waitedFor_le _ _) _,
      .of_due (due_iff.2 horder), fun es result later hruns hserves => ?_⟩
    obtain ⟨reason, hreason, -⟩ | ⟨c', reply, hc, rfl, rfl⟩ := runs_toNode_iff.1 hruns
    · cases horder.symm.trans hreason
    · cases horder.symm.trans hc
      obtain ⟨rfl, rfl⟩ := serves_order_iff.1 hserves
      exact ⟨rfl, rfl, rfl⟩

def addressedPeer : Peer := ⟨[("addr", .string "203.0.113.7:8333")]⟩

/-- A ban for the usual time, a node that never replies, and no time at all to wait: the order is
given, and given up a millisecond later. -/
theorem applied_by_deadline_hangs :
    ∃ es later, (toNode 0 addressedPeer (.ban none)).Runs es
        (.ok (.failed "peer control call timed out after 1 ms")) ∧
      (attendant fun _ => .hangs).Serves 5 es later ∧ later ≤ 6 ∧
      (Run.portCalls es).map (·.call) = [.control (.ban "203.0.113.7:8333" 86400) 1] := by
  obtain ⟨-, -, es, o, later, hruns, hserves, hlater, happlied, -⟩ :=
    applied_by_deadline (fun _ => .hangs) 0 addressedPeer (.ban none) 5
  have hdue : Due addressedPeer (.ban none) (.ban "203.0.113.7:8333" 86400) :=
    .ban rfl ⟨'2', by decide, by decide⟩
  have ho : o = .failed "peer control call timed out after 1 ms" :=
    happlied.late _ hdue fun _ _ _ => nofun
  exact ⟨es, later, ho ▸ hruns, hserves, hlater, happlied.ordered _ hdue⟩

end

end Dispatch

end PeerRules
