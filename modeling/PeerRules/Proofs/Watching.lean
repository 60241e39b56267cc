import PeerRules.Proofs.SeedSetting
import PeerRules.Proofs.Shutdown

/-!
# What a worker on the timer can come to

A worker on the timer connects with its parties, makes ready, starts the scheduler, and goes on in
steps from there, whenever its ticks begin and wherever the interrupt comes. `Worker.Reaches` says
what it has exchanged up to any of its steps, and what it has in memory then.

* `Sweep.exists_noted`: what a sweep calls with the renewals that fall due.
* `Worker.reaches_of_work`: whole ticks, up to an interrupt between two of them or inside one, are a
  case of it.
-/
namespace PeerRules

/-! ## Renewals and what the log is told of them -/

namespace Sweep

variable {α : Type} {es xs ys : List (Exchange Call.signature)}

/-- The same calls, and behind a renewal what the log is told of it. -/
inductive Noted : List (Exchange Call.signature) → List (Exchange Call.signature) → Prop where
  | nil : Noted [] []
  | own {e : Exchange Call.signature} {xs ys : List (Exchange Call.signature)} (h : Noted xs ys) :
      Noted (e :: xs) (e :: ys)
  | renewal {p : Permit} {r : Except Fault Bool} {notes xs ys : List (Exchange Call.signature)}
      (hr : (renewal p).Runs (⟨.renew p, r⟩ :: notes) ()) (h : Noted xs ys) :
      Noted (⟨.renew p, r⟩ :: xs) (⟨.renew p, r⟩ :: notes ++ ys)

theorem Noted.refl (es : List (Exchange Call.signature)) : Noted es es := by
  induction es with
  | nil => exact .nil
  | cons e es ih => exact .own ih

theorem Noted.append {xs' ys' : List (Exchange Call.signature)} (h : Noted xs ys)
    (h' : Noted xs' ys') : Noted (xs ++ xs') (ys ++ ys') := by
  induction h with
  | nil => exact h'
  | own _ ih => exact .own ih
  | renewal hr _ ih =>
    rw [List.append_assoc]
    exact .renewal hr ih

variable {p : Permit}

/-- Renewals can come while a reply is waited for, and the log is told of each. -/
theorem exists_noted_of_renewals {n : Nat} {e : Exchange Call.signature}
    {own zs : List (Exchange Call.signature)} (h : (renewals p n).Runs es ())
    (hwith : WithRenewals p (e :: own) zs) (hnoted : Noted zs ys) :
    ∃ xs, WithRenewals p (e :: own) xs ∧ Noted xs (es ++ ys) := by
  induction n generalizing es with
  | zero =>
    obtain ⟨rfl, -⟩ := Plan.runs_done_iff.1 h
    exact ⟨zs, hwith, hnoted⟩
  | succ n ih =>
    obtain ⟨front, back, u, rfl, hfirst, hrest⟩ := Plan.runs_bind_iff.1 h
    obtain ⟨r, notes, rfl, -⟩ := Plan.runs_call_iff.1 hfirst
    obtain ⟨xs, hxs, hnoted⟩ := ih hrest
    rw [List.append_assoc]
    exact ⟨⟨.renew p, r⟩ :: xs, .renewal r hxs, .renewal hfirst hnoted⟩

theorem exists_noted_of_renewing {beats : List Nat} {work : RulesPlan Batch.Result}
    {result : Batch.Result} (h : (renewing p beats work).Runs es result) :
    ∃ own during, work.Runs own result ∧ WithRenewals p own during ∧ Noted during es := by
  induction work generalizing beats es with
  | done a =>
    obtain ⟨rfl, rfl⟩ := Plan.runs_done_iff.1 h
    exact ⟨[], [], .done a, .nil, .nil⟩
  | call c next ih =>
    obtain ⟨front, back, u, rfl, hfront, hback⟩ := Plan.runs_bind_iff.1 h
    obtain ⟨r, rest, rfl, hrest⟩ := Plan.runs_call_iff.1 hback
    obtain ⟨own, during, hown, hwith, hnoted⟩ := ih r hrest
    obtain ⟨xs, hxs, hfrontNoted⟩ := exists_noted_of_renewals hfront hwith.own hnoted.own
    exact ⟨⟨c, r⟩ :: own, xs, .call r hown, hxs, hfrontNoted⟩

/-- What a sweep calls when renewals fall due is one of its runs, with the log told of them. -/
theorem exists_noted {beats : List (List Nat)} {w : Sweep α} {a : α}
    (h : (renewed beats w).Runs es a) : ∃ xs, w.Runs xs a ∧ Noted xs es := by
  induction w generalizing beats es with
  | done b =>
    obtain ⟨rfl, rfl⟩ := Plan.runs_done_iff.1 h
    exact ⟨[], .done b, .nil⟩
  | call c next ih =>
    obtain ⟨r, rest, rfl, hrest⟩ := Plan.runs_call_iff.1 h
    obtain ⟨xs, hxs, hnoted⟩ := ih r hrest
    exact ⟨⟨c, r⟩ :: xs, .cons (.call c next r) hxs, hnoted.own⟩
  | guarded p work next ih =>
    obtain ⟨front, back, result, rfl, hfront, hback⟩ := Plan.runs_bind_iff.1 h
    obtain ⟨own, during, hown, hwith, hduring⟩ := exists_noted_of_renewing hfront
    obtain ⟨after, hafter, hrest⟩ := ih result hback
    refine ⟨during ++ after, ?_, hduring.append hrest⟩
    exact runs_guarded_iff.2 ⟨own, during, result, after, rfl, hwith, hown, hafter⟩

end Sweep

namespace Worker

/-! ## A worker on the timer, from its start -/

/-- A worker on the timer can have come to `w`, with `m` in memory. It has made the calls `calls` of
the rules since it connected, and `es` are the exchanges behind these and behind connecting. -/
inductive Reaches (env : Config.Lookup) (fallbackId : String) :
    List (Exchange Wire.Call.signature) → List (Exchange Call.signature) → Watch → Memory → Prop where
  | mk {c : Config} {parties : Parties} {now : Nat} {s : Scheduler Ongoing}
      {events : List Log.Event} {w : Watch} {m : Memory}
      {front es : List (Exchange Wire.Call.signature)}
      {ready steps calls : List (Exchange Call.signature)}
      (hconfig : Config.ofLookup env fallbackId = .ok c)
      (hconnect : c.connect.Runs front (.ok parties)) (hready : c.prepare.Runs ready (.ok ()))
      (hstart : Scheduler.idle.start now c.ruleIntervalMs = .ok (s, events))
      (hsteps : Watch.Runs c.workerId (Dispatch.toNode c.dispatchTimeoutMs) (.atWork false s) steps w)
      (hcalls : Sweep.Noted (ready ++ (Watch.told events ++ steps)) calls)
      (hcarries : parties.Carries calls .empty es m) : Reaches env fallbackId (front ++ es) calls w m

/-- A worker that goes on in whole ticks, up to an interrupt between two of them or inside one, comes
to its end so. -/
theorem reaches_of_work {env : Config.Lookup} {fallbackId : String} {c : Config} {parties : Parties}
    {mode : Mode} {beats : List (List Nat)} {front es : List (Exchange Wire.Call.signature)}
    {calls : List (Exchange Call.signature)} {m : Memory} (hmode : mode ≠ .once)
    (hconfig : Config.ofLookup env fallbackId = .ok c)
    (hconnect : c.connect.Runs front (.ok parties))
    (hwork : ((c.work mode).renewed beats).Runs calls (.ok ()))
    (hcarries : parties.Carries calls .empty es m) :
    ∃ cut, Reaches env fallbackId (front ++ es) calls (.ended cut) m := by
  obtain ⟨count, message, hduty⟩ : ∃ count message, c.duty mode =
      Watch.plan c.workerId c.ruleIntervalMs (Dispatch.toNode c.dispatchTimeoutMs) count message := by
    cases mode with
    | once => exact absurd rfl hmode
    | timer count => exact ⟨count, none, rfl⟩
    | timerUntil count message => exact ⟨count, some message, rfl⟩
  rw [Config.work_eq, Sweep.renewed_ofPlan_bind, hduty] at hwork
  obtain ⟨ready, rest, prepared, rfl, hready, hrest⟩ := Plan.runs_bind_iff.1 hwork
  cases prepared with
  | error f =>
    obtain ⟨-, hfault⟩ := Plan.runs_done_iff.1 hrest
    cases hfault
  | ok u =>
    obtain ⟨xs, hxs, hnoted⟩ := Sweep.exists_noted hrest
    obtain ⟨s, events, steps, cut, hstart, rfl, hsteps⟩ := Watch.runs_plan hxs
    exact ⟨cut, .mk hconfig hconnect hready hstart hsteps ((Sweep.Noted.refl ready).append hnoted)
      hcarries⟩

end Worker

end PeerRules
