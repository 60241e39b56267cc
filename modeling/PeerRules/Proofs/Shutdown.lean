import PeerRules.Proofs.Dues
import PeerRules.Proofs.Isolation
import PeerRules.Worker.Watch

/-!
# What the end of a worker cuts off

A worker that is interrupted ends at once, and a tick that is under way then does not come to its
end. It may hold a permit, which it does not give back, and it may have given the node an order that
there is no entry about.

* `Sound.step`: the one tick under way owes all that is due; a worker's steps keep it so.
* `exists_ended`: the worker can end wherever a tick can come to.
* `runs_plan`: what `plan` does is a run up to the end.
* `ends_clear_iff`: nothing is left undone just when no tick that is cut off holds a permit.
-/
namespace PeerRules

open Plan Dispatch

namespace Sweep

variable {α : Type} {w : Sweep α} {es : List (Exchange Call.signature)}

/-- Steps one after another, with the calls they take. -/
inductive Steps : Sweep α → List (Exchange Call.signature) → Sweep α → Prop where
  | nil (w : Sweep α) : Steps w [] w
  | cons {u v w : Sweep α} {xs ys : List (Exchange Call.signature)} (hs : Step u xs v)
      (h : Steps v ys w) : Steps u (xs ++ ys) w

theorem Runs.steps {a : α} (h : Runs w es a) : Steps w es (.done a) := by
  induction h with
  | done a => exact .nil _
  | step hs _ ih => exact .cons hs ih

end Sweep

theorem Dues.after_told (d : Dues) (events : List Log.Event) :
    (Worker.Watch.told events).foldl Dues.after d = d := by
  induction events with
  | nil => rfl
  | cons e rest ih => exact ih

/-! ## The one tick under way -/

namespace Worker.Watch

open Sweep

variable {workerId : String} {limitMs : Nat} {dispatcher : Dispatcher} {s t : Scheduler Ongoing}
  {j : Job Ongoing} {x : Ongoing} {es zs : List (Exchange Call.signature)} {v w : Watch}

/-- What is due after calls is what the one tick under way owes, if there is one. -/
inductive Owed (es : List (Exchange Call.signature)) : List Ongoing → Prop where
  | idle (h : dues es = .clear) : Owed es []
  | busy {x : Ongoing} (h : Owes x (dues es)) : Owed es [x]

/-- All that is due is owed by the one tick under way; there is no second job that could have
another. -/
def Sound (es : List (Exchange Call.signature)) : Watch → Prop
  | .atWork _ s => s.jobs.length ≤ 1 ∧ Owed es (underWay s)
  | .ended cut => Owed es cut

theorem jobs_eq (hone : s.jobs.length ≤ 1) (hj : j ∈ s.jobs) : s.jobs = [j] := by
  match hjobs : s.jobs with
  | [] => simp [hjobs] at hj
  | [i] =>
    rw [hjobs] at hj
    rw [List.mem_singleton.1 hj]
  | _ :: _ :: _ => simp [hjobs] at hone

theorem underWay_eq (hjobs : s.jobs = [j]) : underWay s = j.inTick.toList := by
  rw [underWay, hjobs]
  cases hx : j.inTick <;> simp [hx]

theorem jobs_onJob (hjobs : s.jobs = [j]) (f : Job Ongoing → Job Ongoing) :
    (s.onJob j.serial f).jobs = [f j] := by
  simp [Scheduler.onJob, hjobs]

/-- The job that begins a tick was inside none, and so nothing was under way. -/
theorem underWay_begin {serial now : Nat} (hone : s.jobs.length ≤ 1)
    (h : s.begin? serial now x = some t) :
    t.jobs.length ≤ 1 ∧ underWay s = [] ∧ underWay t = [x] := by
  obtain ⟨j, hj, hidle, -, rfl⟩ := Scheduler.begin?_eq_some_iff.1 h
  obtain rfl : j.serial = serial := by simpa using List.find?_some hj
  have hjobs := jobs_eq hone (List.mem_of_find?_eq_some hj)
  have hbegun := jobs_onJob hjobs fun j => { j with timer := j.timer.fire now, inTick := some x }
  refine ⟨by simp [hbegun], ?_, underWay_eq hbegun⟩
  rw [underWay_eq hjobs, hidle]
  rfl

theorem underWay_quit {serial : Nat} (hone : s.jobs.length ≤ 1) (h : s.quit? serial = some t) :
    t.jobs.length ≤ 1 ∧ underWay s = [] ∧ underWay t = [] := by
  obtain ⟨j, hj, -, hidle, rfl⟩ := Scheduler.quit?_eq_some_iff.1 h
  obtain rfl : j.serial = serial := by simpa using List.find?_some hj
  have hjobs := jobs_eq hone (List.mem_of_find?_eq_some hj)
  refine ⟨by simp [hjobs], ?_, by simp [underWay, hjobs]⟩
  rw [underWay_eq hjobs, hidle]
  rfl

theorem length_jobs_stop : s.stop.1.jobs.length = s.jobs.length := by
  unfold Scheduler.stop Scheduler.dismiss
  split
  · rfl
  · simp [Scheduler.onJob]

theorem Owed.step (h : Owed es [x]) {y : Ongoing} (hs : Sweep.Step x zs y) :
    Owed (es ++ zs) [y] := by
  cases h with
  | busy h =>
    refine .busy ?_
    rw [dues_append]
    exact h.step hs

theorem Owed.told {cut : List Ongoing} (h : Owed es cut) (events : List Log.Event) :
    Owed (es ++ told events) cut := by
  have hd : dues (es ++ Watch.told events) = dues es := by rw [dues_append, Dues.after_told]
  cases h with
  | idle h => exact .idle (hd.trans h)
  | busy h => exact .busy (hd.symm ▸ h)

theorem Sound.step (hv : Sound es v) (hs : Step workerId (toNode limitMs) v zs w) :
    Sound (es ++ zs) w := by
  cases hs with
  | begin serial now h =>
    obtain ⟨hone, howed⟩ := hv
    obtain ⟨hone', hidle, hbegun⟩ := underWay_begin hone h
    rw [hidle] at howed
    cases howed with
    | idle hclear =>
      refine ⟨hone', ?_⟩
      rw [hbegun, List.append_nil]
      refine .busy ?_
      rw [hclear]
      exact Scheduler.tick_owes limitMs
  | @work b s j x y es hj hx h =>
    obtain ⟨hone, howed⟩ := hv
    have hjobs := jobs_eq hone hj
    have hresumed := jobs_onJob hjobs fun j => { j with inTick := some y }
    rw [underWay_eq hjobs, hx] at howed
    refine ⟨by simp [Scheduler.resume, hresumed], ?_⟩
    rw [Scheduler.resume, underWay_eq hresumed]
    exact howed.step h
  | @finish b s j tick hj hx =>
    obtain ⟨hone, howed⟩ := hv
    have hjobs := jobs_eq hone hj
    have hended : (s.finish j.serial tick).jobs = [{ j with inTick := none }] :=
      jobs_onJob hjobs fun j => { j with inTick := none }
    rw [underWay_eq hjobs, hx] at howed
    refine ⟨by simp [hended], ?_⟩
    rw [underWay_eq hended, List.append_nil]
    cases howed with
    | busy h => exact .idle (h.clear_iff.2 rfl)
  | quit serial h =>
    obtain ⟨hone, howed⟩ := hv
    obtain ⟨hone', hidle, hquit⟩ := underWay_quit hone h
    rw [hidle, ← hquit] at howed
    rw [List.append_nil]
    exact ⟨hone', howed⟩
  | interrupt s =>
    obtain ⟨hone, howed⟩ := hv
    rw [← underWay_stop] at howed
    exact ⟨Nat.le_trans (Nat.le_of_eq length_jobs_stop) hone, howed.told _⟩
  | leave s => exact hv.2.told _

theorem Runs.sound (h : Runs workerId (toNode limitMs) v es w) (hv : Sound [] v) : Sound es w := by
  induction h with
  | nil => exact hv
  | snoc _ hs ih => exact ih.step hs

/-- A scheduler that was just started has one job, which is inside no tick. -/
theorem sound_start {now intervalMs : Nat} {events : List Log.Event} {b : Bool}
    (h : Scheduler.idle.start now intervalMs = .ok (s, events)) : Sound [] (.atWork b s) := by
  unfold Scheduler.start at h
  split at h
  · cases h
  · cases h
    exact ⟨Nat.le_refl 1, .idle rfl⟩

/-! ## How far a tick comes -/

theorem finish_resume (n : Nat) (tick : Option Sweep.Tick) :
    (s.resume n x).finish n tick = s.finish n tick := by
  unfold Scheduler.resume Scheduler.finish Scheduler.onJob
  simp only [List.map_map, Scheduler.mk.injEq, and_true]
  refine List.map_congr_left fun j _ => ?_
  by_cases hj : j.serial = n <;> simp [hj]

theorem mem_begin {n now : Nat} (h : s.begin? n now x = some t) :
    ∃ j ∈ t.jobs, j.serial = n ∧ j.inTick = some x := by
  obtain ⟨j, hj, -, -, rfl⟩ := Scheduler.begin?_eq_some_iff.1 h
  have hserial : j.serial = n := by simpa using List.find?_some hj
  exact ⟨_, List.mem_map.2 ⟨j, List.mem_of_find?_eq_some hj, if_pos hserial⟩, hserial, rfl⟩

/-- A tick under way can go on, and nothing else changes until it ends. -/
theorem Runs.onward {b : Bool} {y : Ongoing} (h : Runs workerId dispatcher v es (.atWork b s))
    (hj : j ∈ s.jobs) (hx : j.inTick = some x) (hs : Steps x zs y) :
    ∃ t, Runs workerId dispatcher v (es ++ zs) (.atWork b t) ∧
      (∃ i ∈ t.jobs, i.serial = j.serial ∧ i.inTick = some y) ∧
      ∀ tick, t.finish j.serial tick = s.finish j.serial tick := by
  induction hs generalizing s j es with
  | nil x => exact ⟨s, by simpa using h, ⟨j, hj, rfl, hx⟩, fun _ => rfl⟩
  | @cons x z y xs ys hstep _ ih =>
    have hmem : { j with inTick := some z } ∈ (s.resume j.serial z).jobs :=
      List.mem_map.2 ⟨j, hj, if_pos rfl⟩
    obtain ⟨t, ht, hmem, hfinish⟩ := ih (h.snoc (.work hj hx hstep)) hmem rfl
    rw [List.append_assoc] at ht
    exact ⟨t, ht, hmem, fun tick => (hfinish tick).trans (finish_resume j.serial tick)⟩

theorem farewell_eq (workerId : String) (s : Scheduler Ongoing) :
    farewell workerId s = (s.current.map fun h => .schedulerStopped h.intervalMs).toList ++
      [.workerStopped workerId (s.lastTick.map (·.executed))] := by
  unfold farewell lastWord Scheduler.stop Scheduler.status Scheduler.dismiss
  cases s.current <;> rfl

/-- The last words do not depend on how far a tick has come. -/
theorem farewell_congr {n : Nat} (h : ∀ tick, t.finish n tick = s.finish n tick) :
    farewell workerId t = farewell workerId s := by
  have hcurrent : (t.finish n none).current = (s.finish n none).current := by rw [h]
  have hlast : (t.finish n none).lastTick = (s.finish n none).lastTick := by rw [h]
  simp only [Scheduler.finish, Scheduler.onJob, Option.none_or] at hcurrent hlast
  rw [farewell_eq, farewell_eq, hcurrent, hlast]

theorem length_jobs_finish (n : Nat) (tick : Option Sweep.Tick) :
    (s.finish n tick).jobs.length = s.jobs.length := by
  simp [Scheduler.finish, Scheduler.onJob]

/-- A worker whose job is inside no tick can begin the next tick and end wherever that can come
to. -/
theorem exists_ended (h : Runs workerId dispatcher v es (.atWork false s)) (hjobs : s.jobs = [j])
    (hidle : j.inTick = none) (hs : Steps (Scheduler.tick dispatcher) zs x) :
    Runs workerId dispatcher v (es ++ zs ++ told (farewell workerId s)) (.ended [x]) := by
  have hbegin : s.begin? j.serial j.timer.deadline (Scheduler.tick dispatcher) =
      some (s.onJob j.serial fun i => { i with
        timer := i.timer.fire j.timer.deadline, inTick := some (Scheduler.tick dispatcher) }) := by
    simp [Scheduler.begin?, hjobs, hidle, Timer.isDue]
  obtain ⟨i, hi, hserial, hin⟩ := mem_begin hbegin
  obtain ⟨t, ht, ⟨k, hk, -, hcome⟩, hfinish⟩ := (h.snoc (.begin _ _ hbegin)).onward hi hin hs
  have hone : t.jobs.length ≤ 1 := by
    rw [← length_jobs_finish i.serial none, hfinish, length_jobs_finish, jobs_onJob hjobs]
    exact Nat.le_refl 1
  have hcut : underWay t = [x] := by
    rw [underWay_eq (jobs_eq hone hk), hcome]
    rfl
  have hfarewell : farewell workerId t = farewell workerId s := by
    rw [farewell_congr hfinish, farewell_eq, farewell_eq]
    rfl
  have hend := ht.leave
  rw [hcut, hfarewell, List.append_nil] at hend
  exact hend

/-! ## The plan of a worker -/

theorem tellAll_runs_iff {events : List Log.Event} {u : Unit} :
    (tellAll events).Runs es u ↔ es = told events := by
  induction events generalizing es with
  | nil => exact Sweep.runs_done_iff.trans (and_iff_left rfl)
  | cons e rest ih =>
    refine (Sweep.runs_call_iff (c := .log e)).trans ?_
    constructor
    · rintro ⟨⟨⟩, es', rfl, hrest⟩
      rw [ih.1 hrest]
      rfl
    · rintro rfl
      exact ⟨(), told rest, rfl, ih.2 rfl⟩

section metAt

variable {α : Type} {message : String} {heard : Bool} {answer : Option α}

theorem metAt_call_runs {c : Call} {next : c.Reply → RulesPlan α}
    (h : (metAt message heard (.call c next)).Runs es answer) :
    (es = [] ∧ answer = none) ∨ ∃ reply rest, es = ⟨c, reply⟩ :: rest ∧
      (metAt message (heard || tells message c) (next reply)).Runs rest answer := by
  unfold metAt at h
  split at h
  · obtain ⟨rfl, rfl⟩ := Plan.runs_done_iff.1 h
    exact .inl ⟨rfl, rfl⟩
  · obtain ⟨reply, rest, rfl, hrest⟩ := Plan.runs_call_iff.1 h
    exact .inr ⟨reply, rest, rfl, hrest⟩

/-- A sweep that an interrupt meets has come to some point; if anything comes of it, that is its
end. -/
theorem exists_steps_of_metAt {w : Sweep α}
    (h : (metAt message heard w.unrenewed).Runs es answer) :
    ∃ y, Steps w es y ∧ ∀ a, answer = some a → y = .done a := by
  induction w generalizing heard es with
  | done a =>
    obtain ⟨rfl, rfl⟩ := Plan.runs_done_iff.1 h
    exact ⟨_, .nil _, fun b hb => congrArg Sweep.done (Option.some.inj hb)⟩
  | call c next ih =>
    rcases metAt_call_runs h with ⟨rfl, rfl⟩ | ⟨reply, rest, rfl, hrest⟩
    · exact ⟨_, .nil _, nofun⟩
    · obtain ⟨y, hy, hend⟩ := ih reply hrest
      exact ⟨y, .cons (.call c next reply) hy, hend⟩
  | guarded p work next ih =>
    -- the batch is met before its end, or comes to its end and the rest is met
    induction work generalizing heard es with
    | done result =>
      obtain ⟨y, hy, hend⟩ := ih result h
      exact ⟨y, .cons (.finish p result next) hy, hend⟩
    | call c rest ihw =>
      rcases metAt_call_runs h with ⟨rfl, rfl⟩ | ⟨reply, zs, rfl, hrest⟩
      · exact ⟨_, .nil _, nofun⟩
      · obtain ⟨y, hy, hend⟩ := ihw reply hrest
        exact ⟨y, .cons (.batch p c rest next reply) hy, hend⟩

end metAt

theorem Runs.ticks {count : Nat} (h : Runs workerId dispatcher v es (.atWork false s))
    (hr : (ticks dispatcher count s).Runs zs t) :
    Runs workerId dispatcher v (es ++ zs) (.atWork false t) := by
  induction count generalizing s es zs with
  | zero =>
    obtain ⟨rfl, rfl⟩ := Sweep.runs_done_iff.1 hr
    simpa using h
  | succ count ih =>
    unfold Watch.ticks at hr
    split at hr
    · obtain ⟨rfl, rfl⟩ := Sweep.runs_done_iff.1 hr
      simpa using h
    · next j rest hjobs =>
      split at hr
      · obtain ⟨rfl, rfl⟩ := Sweep.runs_done_iff.1 hr
        simpa using h
      · next u hu =>
        obtain ⟨xs, ys, tick, rfl, htick, hrest⟩ := Sweep.runs_bind_iff.1 hr
        obtain ⟨i, hi, hserial, hin⟩ := mem_begin hu
        obtain ⟨u', hu', ⟨k, hk, hkserial, hdone⟩, hfinish⟩ :=
          (h.snoc (.begin _ _ hu)).onward hi hin htick.steps
        have hended := hu'.snoc (.finish hk hdone)
        rw [hkserial, hfinish, hserial, List.append_nil, List.append_nil] at hended
        rw [← List.append_assoc]
        exact ih hended hrest

/-- An interrupt in a tick leaves the scheduler as it was, but for how far the tick has come. -/
theorem Runs.tickMetAt {message : String} (h : Runs workerId dispatcher v es (.atWork false s))
    (hr : (tickMetAt dispatcher message s).Runs zs t) :
    ∃ u, Runs workerId dispatcher v (es ++ zs) (.atWork false u) ∧
      farewell workerId u = farewell workerId t := by
  unfold Watch.tickMetAt at hr
  split at hr
  · obtain ⟨rfl, rfl⟩ := Sweep.runs_done_iff.1 hr
    exact ⟨s, by simpa using h, rfl⟩
  · next j rest hjobs =>
    split at hr
    · obtain ⟨rfl, rfl⟩ := Sweep.runs_done_iff.1 hr
      exact ⟨s, by simpa using h, rfl⟩
    · next begun hbegun =>
      obtain ⟨xs, ys, answer, rfl, hmet, hrest⟩ := Sweep.runs_bind_iff.1 hr
      obtain ⟨y, hy, hend⟩ := exists_steps_of_metAt (Sweep.runs_ofPlan_iff.1 hmet)
      obtain ⟨i, hi, hserial, hin⟩ := mem_begin hbegun
      obtain ⟨u, hu, ⟨k, hk, hkserial, hcome⟩, hfinish⟩ :=
        (h.snoc (.begin _ _ hbegun)).onward hi hin hy
      rw [List.append_nil] at hu
      cases answer with
      | none =>
        obtain ⟨rfl, rfl⟩ := Sweep.runs_done_iff.1 hrest
        exact ⟨u, by simpa using hu, farewell_congr hfinish⟩
      | some tick =>
        obtain ⟨rfl, rfl⟩ := Sweep.runs_done_iff.1 hrest
        rw [hend tick rfl] at hcome
        have hended := hu.snoc (.finish hk hcome)
        rw [hkserial, hfinish, hserial, List.append_nil] at hended
        exact ⟨_, by simpa using hended, rfl⟩

/-- What the plan does is a run of the worker from its start to its end. -/
theorem runs_plan {intervalMs count : Nat} {message : Option String}
    (h : (plan workerId intervalMs dispatcher count message).Runs es (.ok ())) :
    ∃ s events zs cut, Scheduler.idle.start 0 intervalMs = .ok (s, events) ∧
      es = told events ++ zs ∧ Runs workerId dispatcher (.atWork false s) zs (.ended cut) := by
  unfold Watch.plan at h
  split at h
  · obtain ⟨-, hfault⟩ := Sweep.runs_done_iff.1 h
    cases hfault
  · next s events hs =>
    obtain ⟨es₁, es₂, u, rfl, htold, h₂⟩ := Sweep.runs_bind_iff.1 h
    obtain ⟨es₃, es₄, t, rfl, hticks, h₄⟩ := Sweep.runs_bind_iff.1 h₂
    obtain ⟨es₅, es₆, z, rfl, hmet, h₆⟩ := Sweep.runs_bind_iff.1 h₄
    obtain ⟨es₇, es₈, u', rfl, hlast, h₈⟩ := Sweep.runs_bind_iff.1 h₆
    obtain ⟨rfl, -⟩ := Sweep.runs_done_iff.1 h₈
    obtain rfl := tellAll_runs_iff.1 htold
    obtain rfl := tellAll_runs_iff.1 hlast
    have hwhole : Runs workerId dispatcher (.atWork false s) es₃ (.atWork false t) :=
      (Runs.nil (.atWork false s)).ticks hticks
    obtain ⟨y, hy, hfarewell⟩ : ∃ y,
        Runs workerId dispatcher (.atWork false s) (es₃ ++ es₅) (.atWork false y) ∧
          farewell workerId y = farewell workerId z := by
      cases message with
      | none =>
        obtain ⟨rfl, rfl⟩ := Sweep.runs_done_iff.1 hmet
        exact ⟨t, by simpa using hwhole, rfl⟩
      | some text => exact hwhole.tickMetAt hmet
    have hend := hy.leave
    rw [hfarewell, List.append_assoc] at hend
    exact ⟨s, events, _, underWay y, hs, by rw [List.append_nil], hend⟩

/-! ## Every end -/

/-- What was asked for when a worker ended, and not heard of: nothing, or the call that a tick waits
on that is cut off. The last index is what the ticks have come to with it. -/
inductive Unheard : List Ongoing → List (Exchange Call.signature) → List Ongoing → Prop where
  | nothing (cut : List Ongoing) : Unheard cut [] cut
  | call {x y : Ongoing} {e : Exchange Call.signature} (hs : Sweep.Step x [e] y) :
      Unheard [x] [e] [y]

theorem Owed.unheard {cut left : List Ongoing} (h : Owed es cut) (hu : Unheard cut zs left) :
    Owed (es ++ zs) left := by
  cases hu with
  | nothing => simpa using h
  | call hs => exact h.step hs

/-- **What is cut off.** Wherever a worker is, the interrupt can end it there, with the ticks that
are under way. However it ends, the permits that were got and not given back are those of the ticks
that are cut off, and if an order has no entry, then such a tick was about to append it. Nothing is
left undone just when no tick that is cut off holds a permit. All this holds whether or not the call
was carried out that such a tick was waiting on. -/
theorem ends_clear_iff {now intervalMs : Nat} {events : List Log.Event}
    (hs : Scheduler.idle.start now intervalMs = .ok (s, events)) :
    (∀ es t, Runs workerId (toNode limitMs) (.atWork false s) es (.atWork false t) →
      Runs workerId (toNode limitMs) (.atWork false s) (es ++ told (farewell workerId t))
        (.ended (underWay t))) ∧
    ∀ es cut zs left, Runs workerId (toNode limitMs) (.atWork false s) es (.ended cut) →
      Unheard cut zs left →
      (dues (es ++ zs)).permits = left.filterMap permit? ∧
      (∀ o ∈ (dues (es ++ zs)).orders, ∃ x ∈ left, x.Records o) ∧
      (dues (es ++ zs) = .clear ↔ ∀ x ∈ left, x.permit? = none) := by
  refine ⟨fun es t h => h.leave, fun es cut zs left h hu => ?_⟩
  have howed : Owed (es ++ zs) left := Owed.unheard (h.sound (sound_start hs)) hu
  cases howed with
  | idle h => simp [h, Dues.clear]
  | @busy x h =>
    refine ⟨?_, fun o ho => ⟨x, by simp, h.records ho⟩, by simpa using h.clear_iff⟩
    rw [h.permits_eq]
    cases hx : x.permit? <;> simp [hx]

/-! ### An interrupt between an order and its entry -/

def started : Scheduler Ongoing := ⟨[⟨0, ⟨.skip, 250, 250⟩, false, none⟩], some ⟨0, 250⟩, none, 1⟩

def upToEntry : List (Exchange Call.signature) :=
  [⟨.now, ⟨250⟩⟩, asked (.ok (some ⟨scope, "a"⟩)), ⟨.listActive, .ok [.ofRule Run.inboundRule]⟩,
    ⟨.listPeers, .ok [Run.inboundPeer]⟩, ⟨.now, ⟨251⟩⟩, ⟨.log (.disconnecting "4"), ()⟩,
    ⟨.control (.disconnect "4") 5000, some (.ok (.succeeded "Disconnected"))⟩]

def interrupted : List (Exchange Call.signature) :=
  upToEntry ++ told (farewell "worker" started)

theorem exists_upToEntry : ∃ x, Steps (Scheduler.tick (toNode 5000)) upToEntry x :=
  ⟨_, .cons (.call _ _ _) <|
    .cons (.call _ _ _) <|
    .cons (.batch _ _ _ _ _) <|
    .cons (.batch _ _ _ _ _) <|
    .cons (.batch _ _ _ _ _) <|
    .cons (.batch _ _ _ _ _) <|
    .cons (.batch _ _ _ _ _) <|
    .nil _⟩

theorem ends_clear_upToEntry :
    Scheduler.idle.start 0 250 = .ok (started, [.schedulerStarted 250]) ∧
    ∃ x, Runs "worker" (toNode 5000) (.atWork false started) interrupted (.ended [x]) ∧
      x.permit? = some ⟨scope, "a"⟩ ∧ x.Records (.disconnect "4") := by
  obtain ⟨x, hx⟩ := exists_upToEntry
  have hend : Runs "worker" (toNode 5000) (.atWork false started) interrupted (.ended [x]) :=
    exists_ended (.nil _) rfl rfl hx
  obtain ⟨hpermits, horders, -⟩ :=
    (@ends_clear_iff "worker" 5000 started 0 250 _ rfl).2 _ _ _ _ hend (.nothing [x])
  refine ⟨rfl, x, hend, ?_, ?_⟩
  · have hheld : [x].filterMap permit? = [⟨scope, "a"⟩] := hpermits.symm
    cases hp : x.permit? with
    | none => simp [hp] at hheld
    | some p => simpa [hp] using hheld
  · simpa using horders (.disconnect "4") (List.mem_cons_self ..)

/-- A worker can end with an order that has no entry and a permit that nobody gives back. -/
theorem ends_between_order_and_entry : ∃ x,
    Scheduler.idle.start 0 250 = .ok (started, [.schedulerStarted 250]) ∧
    Runs "worker" (toNode 5000) (.atWork false started) interrupted (.ended [x]) ∧
    dues interrupted = ⟨[⟨scope, "a"⟩], [.disconnect "4"]⟩ := by
  obtain ⟨x, hx⟩ := exists_upToEntry
  exact ⟨x, rfl, exists_ended (.nil _) rfl rfl hx, rfl⟩

end Worker.Watch

end PeerRules
