import PeerRules.Proofs.Onlookers
import PeerRules.Proofs.SeedSetting
import PeerRules.Proofs.Turns

/-!
# The upkeep of a permit leaves a batch alone

While a batch runs its permit is renewed from time to time, and at the end it is given back.
Whatever the guard answers, that is told to the log and to nobody else: for a bystander, who sees
every call but renewals, the release and the log, sweeps with any renewals are alike. So in one
world, where he gets one reply to what he sees, he sees one course, and the sweep comes to one
result.

* `renewing_alike`: a batch with renewals and the batch with other renewals.
* `Unswayed.guarded`, `Unswayed.giveBack_bind`: what is done under a permit, and giving it back.
* `upkeep_changes_nothing`: runs of every active rule, for a caller and for the timer.
-/
namespace PeerRules

open Plan

def Call.isUpkeep : Call → Bool
  | .renew _ | .release _ => true
  | _ => false

namespace Sweep

variable {α β γ : Type} {dispatcher : Dispatch.Dispatcher}

/-- Somebody who sees every call but the upkeep of permits and the log. -/
def bystander : View Call.signature where
  shown
    | .renew _ | .release _ | .log _ => none
    | c => some c
  reply_eq := by
    intro c d h
    cases c <;> cases h <;> rfl

def noticed (es : List (Exchange Call.signature)) : List (Exchange Call.signature) :=
  es.filter fun e => (bystander.shown e.call).isSome

theorem filterMap_see (es : List (Exchange Call.signature)) :
    es.filterMap bystander.see = noticed es := by
  have hsee : ∀ e, bystander.see e =
      if (bystander.shown e.call).isSome then some e else none := by
    rintro ⟨c, r⟩
    cases c <;> rfl
  induction es with
  | nil => rfl
  | cons e es ih =>
    rw [List.filterMap_cons, hsee, ih, noticed, noticed, List.filter_cons]
    cases (bystander.shown e.call).isSome <;> rfl

theorem plain_of_not_isUpkeep (c : Call) (h : c.isUpkeep = false) :
    Plain (P := Call.signature) bystander c := by
  cases c
  case log e => exact .inr (inferInstanceAs (Subsingleton Unit))
  case renew | release => cases h
  all_goals exact .inl (by simp [bystander])

/-! ## Renewals -/

theorem renewal_within (p : Permit) :
    Within (P := Call.signature) (fun c => bystander.shown c = none) (renewal p) := by
  refine .bind (.ask rfl) fun r => ?_
  rcases r with f | b
  · exact .ask rfl
  · cases b <;> exact .ask rfl

theorem giveBack_within (p : Permit) :
    Within (P := Call.signature) (fun c => bystander.shown c = none) (giveBack p) := by
  refine .bind (.ask rfl) fun r => ?_
  cases r with
  | ok => exact .done _
  | error f => exact .ask rfl

theorem renewals_within (p : Permit) (n : Nat) :
    Within (P := Call.signature) (fun c => bystander.shown c = none) (renewals p n) := by
  induction n with
  | zero => exact .done _
  | succ n ih => exact .bind (renewal_within p) fun _ => ih

/-- Renewals come between the calls of a plan, and no reply of theirs reaches it. -/
theorem renewing_alike {plan : RulesPlan α}
    (h : Within (P := Call.signature) (Plain bystander) plan) (p p' : Permit)
    (beats beats' : List Nat) :
    Alike (P := Call.signature) bystander (renewing p beats plan) (renewing p' beats' plan) := by
  induction h generalizing beats beats' with
  | done a => exact .done a
  | call hc _ ih =>
    refine .left_of_within (renewals_within p _) fun _ => ?_
    refine .right_of_within (renewals_within p' _) fun _ => ?_
    exact .call hc fun r => ih r beats.tail beats'.tail

/-! ## Sweeps -/

theorem bind_assoc (x : Sweep α) (f : α → Sweep β) (g : β → Sweep γ) :
    (x.bind f).bind g = x.bind fun a => (f a).bind g := by
  induction x with
  | done a => rfl
  | call c next ih => exact congrArg (Sweep.call c) (funext ih)
  | guarded p work next ih => exact congrArg (Sweep.guarded p work) (funext ih)

/-- For a bystander the sweep is the same with any renewals. -/
def Unswayed (x : Sweep α) : Prop :=
  ∀ beats beats', Alike (P := Call.signature) bystander (x.renewed beats) (x.renewed beats')

theorem Unswayed.done (a : α) : Unswayed (Sweep.done a) := fun _ _ => .done a

theorem Unswayed.ofPlan_bind {plan : RulesPlan α} {f : α → Sweep β}
    (h : Within (P := Call.signature) (Plain bystander) plan) (hf : ∀ a, Unswayed (f a)) :
    Unswayed ((ofPlan plan).bind f) := by
  intro beats beats'
  rw [renewed_ofPlan_bind, renewed_ofPlan_bind]
  exact .bind (.refl_of_within h) fun a => hf a beats beats'

theorem Unswayed.guarded {p : Permit} {work : RulesPlan Batch.Result}
    {next : Batch.Result → Sweep α} (h : Within (P := Call.signature) (Plain bystander) work)
    (hnext : ∀ result, Unswayed (next result)) : Unswayed (.guarded p work next) := by
  intro beats beats'
  exact .bind (renewing_alike h p p _ _) fun result => hnext result beats.tail beats'.tail

/-- The release may be answered in different ways: nobody but the log is told. -/
theorem Unswayed.giveBack_bind {p : Permit} {f : Unit → Sweep α} (h : Unswayed (f ())) :
    Unswayed ((ofPlan (giveBack p)).bind f) := by
  intro beats beats'
  rw [renewed_ofPlan_bind, renewed_ofPlan_bind]
  refine .left_of_within (giveBack_within p) fun _ => ?_
  exact .right_of_within (giveBack_within p) fun _ => h beats beats'

/-- What applies the actions does not touch the permits of others. -/
def HandsOff (dispatcher : Dispatch.Dispatcher) : Prop :=
  ∀ p a, Within (P := Call.signature) (fun c => c.isUpkeep = false) (dispatcher p a)

theorem toNode_handsOff (limitMs : Nat) : HandsOff (Dispatch.toNode limitMs) :=
  Dispatch.toNode_within (fun _ => rfl) (fun _ _ => rfl) limitMs

theorem batch_plain (hd : HandsOff dispatcher) :
    Within (P := Call.signature) (Plain bystander) (Batch.plan dispatcher) := by
  have hkind : Run.Kind fun c => c.isUpkeep = false := ⟨rfl, fun _ => rfl, fun _ => rfl, rfl⟩
  exact (Batch.plan_within hkind rfl hd).mono plain_of_not_isUpkeep

theorem Unswayed.under_bind {p : Permit} {f : Batch.Result → Sweep β}
    (hd : HandsOff dispatcher) (hf : ∀ result, Unswayed (f result)) :
    Unswayed ((under dispatcher p).bind f) := by
  refine .guarded (batch_plain hd) fun result => ?_
  change Unswayed (((ofPlan (giveBack p)).bind fun _ => .done result).bind f)
  rw [bind_assoc]
  exact .giveBack_bind (hf result)

theorem ask_plain {c : Call} (h : c.isUpkeep = false) :
    Within (P := Call.signature) (Plain bystander) (RulesPlan.ask c) :=
  .ask (plain_of_not_isUpkeep c h)

theorem runAll_unswayed (hd : HandsOff dispatcher) : Unswayed (runAll dispatcher) := by
  refine .ofPlan_bind (ask_plain rfl) fun acquired => ?_
  rcases acquired with f | _ | p
  · exact .done _
  · exact .done _
  · exact .guarded (batch_plain hd) fun result => .giveBack_bind (.done result)

theorem tick_unswayed (hd : HandsOff dispatcher) : Unswayed (tick dispatcher) := by
  refine .ofPlan_bind (ask_plain rfl) fun startedAt => ?_
  refine .ofPlan_bind (ask_plain rfl) fun acquired => ?_
  rcases acquired with f | _ | p
  · refine .ofPlan_bind (ask_plain rfl) fun _ => ?_
    exact .ofPlan_bind (ask_plain rfl) fun _ => .done _
  · exact .ofPlan_bind (ask_plain rfl) fun _ => .done _
  · refine .under_bind hd fun result => ?_
    refine .ofPlan_bind ?_ fun t => .done _
    rcases result with f | rs
    · refine .bind (ask_plain rfl) fun _ => .bind (ask_plain rfl) fun _ => ?_
      exact .bind (ask_plain rfl) fun _ => .done _
    · exact .bind (ask_plain rfl) fun _ => .bind (ask_plain rfl) fun _ => .done _

/-! ## One world -/

/-- Whatever renewals fall due, and whatever they and the release are answered, in one world the
sweep comes to one result and makes one course of all other calls. Every way to answer renewals and
release has its run. -/
structure SettledBy (world : Call.signature.World) (x : Sweep α) : Prop where
  agree : ∀ (beats beats' : List (List Nat)) (es es' : List (Exchange Call.signature)) (a a' : α),
    (x.renewed beats).Runs es a → (x.renewed beats').Runs es' a' →
    bystander.Follows world [] es → bystander.Follows world [] es' →
    a = a' ∧ noticed es = noticed es'
  answered : ∀ (beats : List (List Nat)) (aside : Call.signature.World), ∃ es a,
    (x.renewed beats).Runs es a ∧ bystander.Follows world [] es ∧ bystander.Beside aside [] es

theorem Unswayed.settledBy {x : Sweep α} (h : Unswayed x) (world : Call.signature.World) :
    SettledBy world x where
  agree beats beats' es es' a a' hruns hruns' hes hes' := by
    rw [← filterMap_see, ← filterMap_see]
    exact (h beats beats').agree hruns hruns' hes hes'
  answered beats aside := ⟨_, _, course_spec bystander world aside (x.renewed beats) [] []⟩

/-- **The upkeep of a permit changes nothing.** In any world of stores, nodes, dispatchers, audit
logs and clocks, a run of every active rule comes to the same reports or the same fault of the
listing, and makes the same calls of all of them, in the same order and with the same orders and
entries in them, however often its permit is renewed and whatever each renewal and the release are
answered. A tick of the timer comes to the same summary. -/
theorem upkeep_changes_nothing (world : Call.signature.World) (hd : HandsOff dispatcher) :
    SettledBy world (runAll dispatcher) ∧ SettledBy world (tick dispatcher) :=
  ⟨(runAll_unswayed hd).settledBy world, (tick_unswayed hd).settledBy world⟩

/-! ## A batch whose permit lapses -/

/-- A world with one rule and one peer that it disconnects. -/
def oneRuleWorld : Call.signature.World
  | _, .listPeers => .ok [Run.inboundPeer]
  | _, .dispatch _ _ => .ok (.succeeded "Disconnected")
  | _, .control _ _ => some (.ok (.succeeded "Disconnected"))
  | _, .append e => .ok { e with entryId := .ofNat 9 }
  | _, .listEntries _ => .ok ⟨[], 0⟩
  | _, .insertRule r => .ok r
  | _, .updateRule r => .ok r
  | _, .findRule _ => .ok none
  | _, .listRules => .ok [Run.inboundRule]
  | _, .listActive => .ok [.ofRule Run.inboundRule]
  | _, .deleteRule _ => .ok ()
  | _, .acquire scope => .ok (some ⟨scope, "token"⟩)
  | _, .renew _ => .ok true
  | _, .release _ => .ok ()
  | _, .readText _ => .ok ""
  | _, .log _ => ()
  | _, .freshId => .ofNat 9
  | _, .now => ⟨250⟩

def onePermit : Permit := ⟨scope, "token"⟩

def oneRun : List (Exchange Call.signature) :=
  [⟨.listPeers, .ok [Run.inboundPeer]⟩, ⟨.now, ⟨250⟩⟩, ⟨.log (.disconnecting "4"), ()⟩,
    ⟨.control (.disconnect "4") 5, some (.ok (.succeeded "Disconnected"))⟩,
    ⟨.append ⟨.ofNat 7, ⟨250⟩, Run.inboundPeer.snapshot, "disconnect", "Disconnected"⟩,
      .ok ⟨⟨.ofNat 7, ⟨250⟩, Run.inboundPeer.snapshot, "disconnect", "Disconnected"⟩, .ofNat 9⟩⟩,
    ⟨.log (.runFinished (.ofNat 7) "Inbound" 1 1 1), ()⟩]

/-- The batch, with what is called before the listing of peers, and at the end. -/
def oneBatch (before after : List (Exchange Call.signature)) : List (Exchange Call.signature) :=
  ⟨.acquire scope, .ok (some onePermit)⟩ :: ⟨.listActive, .ok [.ofRule Run.inboundRule]⟩ ::
    (before ++ oneRun ++ after)

/-- The batch without a renewal. -/
def calm : List (Exchange Call.signature) := oneBatch [] [⟨.release onePermit, .ok ()⟩]

/-- The batch with a permit that turns out to be lost, and cannot be given back. -/
def lapsed : List (Exchange Call.signature) :=
  oneBatch [⟨.renew onePermit, .ok false⟩, ⟨.log (.lapsed scope), ()⟩]
    [⟨.release onePermit, .error (.internal "gone")⟩,
      ⟨.log (.releaseFailed scope (.internal "gone")), ()⟩]

theorem upkeep_changes_nothing_lapsed : HandsOff (Dispatch.toNode 5) ∧ ∃ result result',
    ((runAll (Dispatch.toNode 5)).renewed []).Runs calm result ∧
    ((runAll (Dispatch.toNode 5)).renewed [[0, 1]]).Runs lapsed result' ∧
    bystander.Follows oneRuleWorld [] calm ∧ bystander.Follows oneRuleWorld [] lapsed ∧
    result = result' ∧ noticed calm = noticed lapsed := by
  have hcalm : bystander.Follows oneRuleWorld [] calm := ⟨rfl, rfl, rfl, rfl, rfl, rfl, trivial⟩
  have hlapsed : bystander.Follows oneRuleWorld [] lapsed :=
    ⟨rfl, rfl, rfl, rfl, rfl, rfl, trivial⟩
  obtain ⟨result, hruns⟩ : ∃ result,
      ((runAll (Dispatch.toNode 5)).renewed []).Runs calm result :=
    ⟨_, .call _ <| .call _ <| .call _ <| .call _ <| .call _ <| .call _ <| .call _ <| .call _ <|
      .call _ <| .done _⟩
  obtain ⟨result', hruns'⟩ : ∃ result',
      ((runAll (Dispatch.toNode 5)).renewed [[0, 1]]).Runs lapsed result' :=
    ⟨_, .call _ <| .call _ <| .call _ <| .call _ <| .call _ <| .call _ <| .call _ <| .call _ <|
      .call _ <| .call _ <| .call _ <| .call _ <| .done _⟩
  exact ⟨toNode_handsOff 5, result, result', hruns, hruns', hcalm, hlapsed,
    (upkeep_changes_nothing oneRuleWorld (toNode_handsOff 5)).1.agree _ _ _ _ _ _ hruns hruns' hcalm
      hlapsed⟩

end Sweep

end PeerRules
