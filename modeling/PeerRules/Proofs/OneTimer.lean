import Mathlib.Data.List.Nodup
import PeerRules.Proofs.Dismissal
import PeerRules.Proofs.Isolation
import PeerRules.Worker.Watch

/-!
# One timer

Any number of callers start a scheduler, stop it and ask how it is, and its jobs tick beside them.
What a caller asks is one event, and so is each step of a tick; events come in any order, and what a
tick calls may be answered in any way. A job that was replaced or stopped may linger in a tick, but
it has been told to stop. So there is at most one that has not, and the scheduler knows it.

* `Single.happens`: the job that the scheduler counts as its own is the one not told to stop.
* `Single.active?_eq`: that job has not ended.
* `current_of_happens`, `lastTick_of_happens`: what an event makes of what the scheduler tells.
* `Whole.happens`: the calls that a tick has made and those that it still makes are a tick's.
* `one_timer`: what the scheduler is, and tells, after any events.
-/
namespace PeerRules.Scheduler

open Worker Dispatch

def untold {T : Type} (s : Scheduler T) : List (Job T) := s.jobs.filter (!·.told)

/-- Something that is asked of a scheduler, with the answer, or that a job of it does. -/
inductive Event where
  | start (now intervalMs : Nat) (reply : Except Fault (List Log.Event))
  | stop (events : List Log.Event)
  | status (reply : Status)
  | isRunning (reply : Bool)
  | begin (serial now : Nat)
  | work (serial : Nat) (calls : List (Exchange Call.signature))
  | finish (serial : Nat) (tick : Option Sweep.Tick)
  | quit (serial : Nat)

/-- One event. -/
inductive Happens (dispatcher : Dispatcher) :
    Scheduler Ongoing → Event → Scheduler Ongoing → Prop where
  | started {s u : Scheduler Ongoing} {now intervalMs : Nat} {events : List Log.Event}
      (h : s.start now intervalMs = .ok (u, events)) :
      Happens dispatcher s (.start now intervalMs (.ok events)) u
  | refused {s : Scheduler Ongoing} {now intervalMs : Nat} {f : Fault}
      (h : s.start now intervalMs = .error f) :
      Happens dispatcher s (.start now intervalMs (.error f)) s
  | stopped (s : Scheduler Ongoing) : Happens dispatcher s (.stop s.stop.2) s.stop.1
  | told (s : Scheduler Ongoing) : Happens dispatcher s (.status s.status) s
  | toldRunning (s : Scheduler Ongoing) : Happens dispatcher s (.isRunning s.isRunning) s
  /-- A job begins a tick. -/
  | began {s u : Scheduler Ongoing} {serial now : Nat}
      (h : s.begin? serial now (Scheduler.tick dispatcher) = some u) :
      Happens dispatcher s (.begin serial now) u
  /-- A job's tick goes on. -/
  | worked {s : Scheduler Ongoing} {j : Job Ongoing} {x y : Ongoing}
      {calls : List (Exchange Call.signature)} (hj : j ∈ s.jobs) (hx : j.inTick = some x)
      (h : Sweep.Step x calls y) : Happens dispatcher s (.work j.serial calls) (s.resume j.serial y)
  /-- A job's tick comes to its end. -/
  | finished {s : Scheduler Ongoing} {j : Job Ongoing} {tick : Option Sweep.Tick}
      (hj : j ∈ s.jobs) (hx : j.inTick = some (.done tick)) :
      Happens dispatcher s (.finish j.serial tick) (s.finish j.serial tick)
  /-- A job that was told to stop ends. -/
  | ended {s u : Scheduler Ongoing} {serial : Nat} (h : s.quit? serial = some u) :
      Happens dispatcher s (.quit serial) u

inductive History (dispatcher : Dispatcher) : List Event → Scheduler Ongoing → Prop where
  | nil : History dispatcher [] idle
  | snoc {es : List Event} {e : Event} {s u : Scheduler Ongoing} (h : History dispatcher es s)
      (he : Happens dispatcher s e u) : History dispatcher (es ++ [e]) u

/-! ## What events say -/

/-- What an event orders: a job with an interval, or none. -/
def Event.orders? : Event → Option (Option Nat)
  | .start _ intervalMs (.ok _) => some (some intervalMs)
  | .stop _ => some none
  | _ => none

def ordered (es : List Event) : Option Nat := (es.filterMap Event.orders?).getLast?.join

/-- What a tick that ended came to. -/
def Event.result? : Event → Option Sweep.Tick
  | .finish _ tick => tick
  | _ => none

/-- What the last tick came to that came to something. -/
def lastResult (es : List Event) : Option Sweep.Tick := (es.filterMap Event.result?).getLast?

/-- The calls of a job's tick after an event, if there were `before` before. -/
def Event.calls (n : Nat) (before : List (Exchange Call.signature)) :
    Event → List (Exchange Call.signature)
  | .begin k _ => if k = n then [] else before
  | .work k calls => if k = n then before ++ calls else before
  | _ => before

def calls (n : Nat) (es : List Event) : List (Exchange Call.signature) :=
  es.foldl (Event.calls n) []

theorem ordered_snoc (es : List Event) (e : Event) :
    ordered (es ++ [e]) = e.orders?.getD (ordered es) := by
  rw [ordered, List.filterMap_append, List.getLast?_append]
  cases h : e.orders? with
  | none => simp [h, ordered]
  | some o => simp [h]

theorem lastResult_snoc (es : List Event) (e : Event) :
    lastResult (es ++ [e]) = e.result?.or (lastResult es) := by
  rw [lastResult, List.filterMap_append, List.getLast?_append]
  cases h : e.result? with
  | none => simp [h, lastResult]
  | some tick => simp [h]

theorem calls_snoc (n : Nat) (es : List Event) (e : Event) :
    calls n (es ++ [e]) = e.calls n (calls n es) := List.foldl_append

/-! ## The job that goes on -/

variable {T : Type} {s u : Scheduler T} {n : Nat}

def serials (s : Scheduler T) : List Nat := s.jobs.map (·.serial)

/-- What a scheduler that counts a job as its own knows of it. -/
def handle (j : Job T) : Handle := ⟨j.serial, j.timer.period⟩

/-- Every job has a number of its own, and the scheduler counts as its own the one job that has not
been told to stop, if there is one. -/
structure Single (s : Scheduler T) : Prop where
  numbered : ∀ n ∈ s.serials, n < s.started
  distinct : s.serials.Nodup
  own : s.untold.map handle = s.current.toList

theorem single_idle : Single (idle : Scheduler T) := ⟨nofun, .nil, rfl⟩

theorem serials_onJob {f : Job T → Job T} (hf : ∀ j, (f j).serial = j.serial) :
    (s.onJob n f).serials = s.serials := by
  rw [serials, onJob, List.map_map]
  refine List.map_congr_left fun j _ => ?_
  simp only [Function.comp_apply]
  split
  · exact hf j
  · rfl

theorem serials_dismiss : s.dismiss.serials = s.serials := by
  unfold dismiss
  split
  · rfl
  · exact serials_onJob (f := fun j => { j with told := true }) fun _ => rfl

/-- Whatever a job does that is neither told to stop nor ends. -/
theorem Single.onJob (h : Single s) {f : Job T → Job T} (hf : ∀ j, handle (f j) = handle j)
    (htold : ∀ j, (f j).told = j.told) : Single (s.onJob n f) := by
  have hserials : (s.onJob n f).serials = s.serials :=
    serials_onJob fun j => congrArg Handle.serial (hf j)
  have hsame : ∀ j : Job T, handle (if j.serial = n then f j else j) = handle j ∧
      (if j.serial = n then f j else j).told = j.told := by
    intro j
    split
    · exact ⟨hf j, htold j⟩
    · exact ⟨rfl, rfl⟩
  refine ⟨hserials ▸ h.numbered, hserials ▸ h.distinct, ?_⟩
  rw [show (s.onJob n f).current = s.current from rfl, ← h.own]
  simp only [untold, Scheduler.onJob, List.filter_map, List.map_map, Function.comp_def,
    (hsame _).1, (hsame _).2]

theorem Single.cases (h : Single s) :
    (s.untold = [] ∧ s.current = none) ∨ ∃ j, s.untold = [j] ∧ s.current = some (handle j) := by
  have hown := h.own
  cases hc : s.current with
  | none =>
    rw [hc] at hown
    exact .inl ⟨List.map_eq_nil_iff.1 hown, rfl⟩
  | some c =>
    rw [hc] at hown
    obtain ⟨j, hj, rfl⟩ := List.map_eq_singleton_iff.1 hown
    exact .inr ⟨j, hj, rfl⟩

/-- The job that the scheduler counts as its own has not ended, for nobody has told it to stop. -/
theorem Single.active?_eq (h : Single s) : s.active? = s.current := by
  obtain ⟨-, hc⟩ | ⟨j, hu, hc⟩ := h.cases
  · rw [active?, hc, Option.filter_none]
  · have hj : j ∈ s.untold := by simp [hu]
    have hmem : j ∈ s.jobs := (List.mem_filter.1 hj).1
    rw [active?, hc, Option.filter_some, if_pos]
    exact List.any_eq_true.2 ⟨j, hmem, decide_eq_true rfl⟩

/-- A scheduler that dismisses its own job has told every job to stop. -/
theorem Single.untold_dismiss (h : Single s) : s.dismiss.untold = [] := by
  unfold dismiss
  obtain ⟨hu, hc⟩ | ⟨j, hu, hc⟩ := h.cases
  · rw [hc]
    exact hu
  · rw [hc]
    refine List.filter_eq_nil_iff.2 fun i hi => ?_
    obtain ⟨k, hk, rfl⟩ := List.mem_map.1 hi
    split
    · simp
    · next hne =>
      -- another job would be its own too, had it not been told
      intro hnot
      have hmem : k ∈ s.untold := List.mem_filter.2 ⟨hk, hnot⟩
      rw [hu] at hmem
      exact hne (congrArg Job.serial (List.mem_singleton.1 hmem))

theorem Single.dismiss (h : Single s) : Single s.dismiss where
  numbered := by
    rw [serials_dismiss, started_dismiss]
    exact h.numbered
  distinct := by
    rw [serials_dismiss]
    exact h.distinct
  own := by
    rw [h.untold_dismiss, current_dismiss]
    rfl

/-- A start puts a new job behind the others, which it has dismissed. -/
theorem eq_of_start {now intervalMs : Nat} {events : List Log.Event}
    (hs : s.start now intervalMs = .ok (u, events)) :
    u = ⟨s.dismiss.jobs ++ [⟨s.started, .start .skip intervalMs now, false, none⟩],
      some ⟨s.started, intervalMs⟩, s.dismiss.lastTick, s.started + 1⟩ := by
  unfold Scheduler.start at hs
  split at hs
  · cases hs
  · cases hs
    rw [started_dismiss]

/-- The new job is the only one that has not been told to stop. -/
theorem Single.start (h : Single s) {now intervalMs : Nat} {events : List Log.Event}
    (hs : s.start now intervalMs = .ok (u, events)) : Single u := by
  obtain rfl := eq_of_start hs
  have hbefore : ∀ k ∈ s.dismiss.serials, k < s.started := by
    rw [serials_dismiss]
    exact h.numbered
  have huntold : List.filter (!·.told) s.dismiss.jobs = [] := h.untold_dismiss
  refine ⟨fun k hk => ?_, ?_, ?_⟩
  · rw [serials, List.map_append, List.mem_append] at hk
    rcases hk with hk | hk
    · exact Nat.lt_succ_of_lt (hbefore k hk)
    · obtain rfl := List.mem_singleton.1 hk
      exact Nat.lt_succ_self _
  · rw [serials, List.map_append, List.map_singleton]
    refine List.nodup_append.2 ⟨h.dismiss.distinct, List.nodup_singleton _, fun a ha b hb => ?_⟩
    obtain rfl := List.mem_singleton.1 hb
    exact Nat.ne_of_lt (hbefore a ha)
  · simp [untold, huntold, handle, Timer.start]

/-- A job that ends has been told to stop, and no other has its number. -/
theorem Single.quit (h : Single s) (hq : s.quit? n = some u) : Single u := by
  obtain ⟨j, hj, htold, -, rfl⟩ := quit?_eq_some_iff.1 hq
  have hserial : j.serial = n := serial_of_job? hj
  have hsub : List.Sublist (List.map (·.serial) (s.jobs.filter (·.serial ≠ n))) s.serials :=
    List.filter_sublist.map _
  refine ⟨fun k hk => h.numbered k (hsub.subset hk), h.distinct.sublist hsub, ?_⟩
  have huntold : List.filter (!·.told) (s.jobs.filter (·.serial ≠ n)) = s.untold := by
    rw [List.filter_filter, untold]
    refine List.filter_congr fun i hi => ?_
    by_cases hin : i.serial = n
    · have heq := List.inj_on_of_nodup_map h.distinct hi (List.mem_of_find?_eq_some hj)
        (hin.trans hserial.symm)
      simp [heq, htold]
    · simp [hin]
  rw [untold, huntold]
  exact h.own

/-- **The one job that goes on.** Every event leaves the scheduler with the one job that has not
been told to stop as its own. -/
theorem Single.happens {dispatcher : Dispatcher} {s u : Scheduler Ongoing} {e : Event}
    (h : Single s) (he : Happens dispatcher s e u) : Single u := by
  cases he with
  | started hs => exact h.start hs
  | refused | told | toldRunning => exact h
  | stopped => exact h.dismiss
  | began hb =>
    obtain ⟨j, -, -, -, rfl⟩ := begin?_eq_some_iff.1 hb
    exact h.onJob (fun i => by simp [handle]) fun _ => rfl
  | worked => exact h.onJob (fun _ => rfl) fun _ => rfl
  | @finished j =>
    have hsingle : Single (s.onJob j.serial fun i => { i with inTick := none }) :=
      h.onJob (fun _ => rfl) fun _ => rfl
    exact ⟨hsingle.numbered, hsingle.distinct, hsingle.own⟩
  | ended hq => exact h.quit hq

/-! ## What the scheduler tells -/

section Events

variable {dispatcher : Dispatcher} {s u : Scheduler Ongoing} {e : Event} {es : List Event}

theorem current_of_happens (he : Happens dispatcher s e u) :
    u.current.map (·.intervalMs) = e.orders?.getD (s.current.map (·.intervalMs)) := by
  cases he with
  | started hs =>
    rw [eq_of_start hs]
    rfl
  | stopped =>
    rw [stop, current_dismiss]
    rfl
  | refused | told | toldRunning | worked | finished => rfl
  | began hb =>
    obtain ⟨j, -, -, -, rfl⟩ := begin?_eq_some_iff.1 hb
    rfl
  | ended hq =>
    obtain ⟨j, -, -, -, rfl⟩ := quit?_eq_some_iff.1 hq
    rfl

theorem lastTick_dismiss : s.dismiss.lastTick = s.lastTick := by
  unfold dismiss
  split <;> rfl

theorem lastTick_of_happens (he : Happens dispatcher s e u) :
    u.lastTick = e.result?.or s.lastTick := by
  cases he with
  | started hs =>
    rw [eq_of_start hs]
    exact lastTick_dismiss
  | stopped => exact lastTick_dismiss
  | refused | told | toldRunning | worked | finished => rfl
  | began hb =>
    obtain ⟨j, -, -, -, rfl⟩ := begin?_eq_some_iff.1 hb
    rfl
  | ended hq =>
    obtain ⟨j, -, -, -, rfl⟩ := quit?_eq_some_iff.1 hq
    rfl

/-! ## Ticks under way -/

/-- The calls that a tick under way has made, and behind them any that it can still make, are the
calls of one tick. -/
def Whole (dispatcher : Dispatcher) (es : List Event) (s : Scheduler Ongoing) : Prop :=
  ∀ j ∈ s.jobs, ∀ x, j.inTick = some x → ∀ rest tick, x.Runs rest tick →
    (Scheduler.tick dispatcher).Runs (calls j.serial es ++ rest) tick

/-- An event that begins no tick and goes on with none. -/
theorem Whole.of_jobs (h : Whole dispatcher es s)
    (hjobs : ∀ j ∈ u.jobs, j.inTick = none ∨
      ∃ i ∈ s.jobs, i.serial = j.serial ∧ i.inTick = j.inTick)
    (hcalls : ∀ n before, e.calls n before = before) : Whole dispatcher (es ++ [e]) u := by
  intro j hj x hx
  rcases hjobs j hj with hnone | ⟨i, hi, hserial, hin⟩
  · rw [hnone] at hx
    cases hx
  · rw [calls_snoc, hcalls, ← hserial]
    exact h i hi x (hin.trans hx)

theorem mem_dismiss {j : Job Ongoing} (hj : j ∈ s.dismiss.jobs) :
    ∃ i ∈ s.jobs, i.serial = j.serial ∧ i.inTick = j.inTick := by
  unfold dismiss at hj
  split at hj
  · exact ⟨j, hj, rfl, rfl⟩
  · obtain ⟨i, hi, rfl⟩ := List.mem_map.1 hj
    refine ⟨i, hi, ?_⟩
    split <;> exact ⟨rfl, rfl⟩

/-- **What a tick under way has called.** Every event leaves each tick that is under way with the
calls of one tick. -/
theorem Whole.happens (h : Whole dispatcher es s) (he : Happens dispatcher s e u) :
    Whole dispatcher (es ++ [e]) u := by
  cases he with
  | started hs =>
    obtain rfl := eq_of_start hs
    refine h.of_jobs (fun j hj => ?_) fun _ _ => rfl
    rcases List.mem_append.1 hj with hj | hj
    · exact .inr (mem_dismiss hj)
    · obtain rfl := List.mem_singleton.1 hj
      exact .inl rfl
  | stopped => exact h.of_jobs (fun j hj => .inr (mem_dismiss hj)) fun _ _ => rfl
  | refused | told | toldRunning =>
    exact h.of_jobs (fun j hj => .inr ⟨j, hj, rfl, rfl⟩) fun _ _ => rfl
  | @began _ n _ hb =>
    -- the calls of a tick that begins are taken down anew
    obtain ⟨-, -, -, -, rfl⟩ := begin?_eq_some_iff.1 hb
    intro j hj x hx rest tick hrest
    obtain ⟨i, hi, rfl⟩ := List.mem_map.1 hj
    rw [calls_snoc, Event.calls]
    by_cases hn : i.serial = n
    · simp only [hn, if_true] at hx ⊢
      cases hx
      exact hrest
    · simp only [hn, Ne.symm hn, if_false] at hx ⊢
      exact h i hi x hx rest tick hrest
  | @worked k x y xs hk hkx hstep =>
    -- whatever is still called after the step was still to be called before it
    intro j hj z hz rest tick hrest
    obtain ⟨i, hi, rfl⟩ := List.mem_map.1 hj
    rw [calls_snoc, Event.calls]
    by_cases hn : i.serial = k.serial
    · simp only [hn, if_true] at hz ⊢
      cases hz
      rw [List.append_assoc]
      exact h k hk x hkx (xs ++ rest) tick (.step hstep hrest)
    · simp only [hn, Ne.symm hn, if_false] at hz ⊢
      exact h i hi z hz rest tick hrest
  | finished =>
    refine h.of_jobs (fun j hj => ?_) fun _ _ => rfl
    obtain ⟨i, hi, rfl⟩ := List.mem_map.1 hj
    split
    · exact .inl rfl
    · exact .inr ⟨i, hi, rfl, rfl⟩
  | ended hq =>
    obtain ⟨-, -, -, -, rfl⟩ := quit?_eq_some_iff.1 hq
    exact h.of_jobs (fun j hj => .inr ⟨j, (List.mem_filter.1 hj).1, rfl, rfl⟩) fun _ _ => rfl

/-- A tick that is told that somebody else has the scope comes to nothing. -/
theorem eq_none_of_skipped {startedAt : Instant} {rest : List (Exchange Call.signature)}
    {tick : Option Sweep.Tick}
    (h : (Scheduler.tick dispatcher).Runs
      (⟨.now, startedAt⟩ :: ⟨.acquire Sweep.scope, .ok none⟩ :: rest) tick) : tick = none := by
  obtain ⟨_, _, heq, hasked⟩ := Sweep.runs_call_iff.1 h
  cases heq
  obtain ⟨_, _, heq, hanswered⟩ := Sweep.runs_call_iff.1 hasked
  cases heq
  obtain ⟨_, _, -, hlogged⟩ := Sweep.runs_call_iff.1 hanswered
  exact (Sweep.runs_done_iff.1 hlogged).2.symm

theorem Whole.runs_of_finish (h : Whole dispatcher es s) {n : Nat} {tick : Option Sweep.Tick}
    (he : Happens dispatcher s (.finish n tick) u) :
    (Scheduler.tick dispatcher).Runs (calls n es) tick ∧ u.lastTick = tick.or s.lastTick := by
  cases he with
  | finished hj hx =>
    have hwhole := h _ hj _ hx [] tick (.done tick)
    rw [List.append_nil] at hwhole
    exact ⟨hwhole, rfl⟩

/-! ## After any events -/

theorem happens_status_iff {reply : Status} :
    Happens dispatcher s (.status reply) u ↔ reply = s.status ∧ u = s := by
  constructor
  · intro h
    cases h
    exact ⟨rfl, rfl⟩
  · rintro ⟨rfl, rfl⟩
    exact .told _

theorem happens_isRunning_iff {reply : Bool} :
    Happens dispatcher s (.isRunning reply) u ↔ reply = s.isRunning ∧ u = s := by
  constructor
  · intro h
    cases h
    exact ⟨rfl, rfl⟩
  · rintro ⟨rfl, rfl⟩
    exact .toldRunning _

theorem happens_stop_iff {events : List Log.Event} :
    Happens dispatcher s (.stop events) u ↔ (u, events) = s.stop := by
  constructor
  · intro h
    cases h
    rfl
  · intro h
    obtain ⟨rfl, rfl⟩ := Prod.mk.inj h
    exact .stopped s

theorem happens_start_zero_iff {now : Nat} {reply : Except Fault (List Log.Event)} :
    Happens dispatcher s (.start now 0 reply) u ↔
      reply = .error (.validation "scheduler interval must be greater than zero") ∧ u = s := by
  constructor
  · intro h
    cases h with
    | started hs =>
      rw [start_zero] at hs
      cases hs
    | refused hs =>
      rw [start_zero] at hs
      cases hs
      exact ⟨rfl, rfl⟩
  · rintro ⟨rfl, rfl⟩
    exact .refused (start_zero _ now)

/-- What every history keeps. -/
theorem kept_of_history (h : History dispatcher es s) :
    Single s ∧ s.current.map (·.intervalMs) = ordered es ∧ s.lastTick = lastResult es ∧
      Whole dispatcher es s := by
  induction h with
  | nil => exact ⟨single_idle, rfl, rfl, nofun⟩
  | snoc _ he ih =>
    obtain ⟨hsingle, hcurrent, hlast, hwhole⟩ := ih
    refine ⟨hsingle.happens he, ?_, ?_, hwhole.happens he⟩
    · rw [current_of_happens he, hcurrent, ordered_snoc]
    · rw [lastTick_of_happens he, hlast, lastResult_snoc]

/-- **One timer.** After any starts, stops, questions and ticks, in any order, at most one job has
not been told to stop: there is one exactly if the last start came after the last stop, it is the
one that the scheduler counts as its own, and it has the interval of that start. The scheduler tells
just that, and what the last tick came to that came to something. An interval of nothing is refused
and changes nothing, a scheduler that does not run can be stopped and changes nothing, and a tick
that was told that somebody else has the scope leaves the last tick as it was. -/
theorem one_timer (h : History dispatcher es s) :
    s.untold.length ≤ 1 ∧
    (∀ n, ordered es = some n ↔
      ∃ j, s.untold = [j] ∧ s.current = some ⟨j.serial, n⟩ ∧ j.timer.period = n) ∧
    (ordered es = none ↔ s.untold = [] ∧ s.current = none) ∧
    (∀ reply u, Happens dispatcher s (.status reply) u ↔
      reply = ⟨(ordered es).isSome, ordered es, lastResult es⟩ ∧ u = s) ∧
    (∀ reply u, Happens dispatcher s (.isRunning reply) u ↔
      reply = (ordered es).isSome ∧ u = s) ∧
    (∀ now reply u, Happens dispatcher s (.start now 0 reply) u ↔
      reply = .error (.validation "scheduler interval must be greater than zero") ∧ u = s) ∧
    (ordered es = none → ∀ events u, Happens dispatcher s (.stop events) u ↔
      events = [] ∧ u = s) ∧
    ∀ n tick u startedAt rest,
      calls n es = ⟨.now, startedAt⟩ :: ⟨.acquire Sweep.scope, .ok none⟩ :: rest →
      Happens dispatcher s (.finish n tick) u → tick = none ∧ u.lastTick = s.lastTick := by
  obtain ⟨hsingle, hcurrent, hlast, hwhole⟩ := kept_of_history h
  rw [← hcurrent, ← hlast]
  refine ⟨?_, ?_, ?_, fun _ _ => ?_, fun _ _ => ?_, fun _ _ _ => happens_start_zero_iff,
    fun hnone _ _ => ?_, fun n tick u startedAt rest hcalls hfinish => ?_⟩
  · obtain ⟨hu, -⟩ | ⟨j, hu, -⟩ := hsingle.cases <;> simp [hu]
  · intro n
    obtain ⟨hu, hc⟩ | ⟨j, hu, hc⟩ := hsingle.cases <;> simp [hu, hc, handle]
  · obtain ⟨hu, hc⟩ | ⟨j, hu, hc⟩ := hsingle.cases <;> simp [hu, hc]
  · rw [happens_status_iff, status, isRunning, hsingle.active?_eq, Option.isSome_map]
  · rw [happens_isRunning_iff, isRunning, hsingle.active?_eq, Option.isSome_map]
  · rw [happens_stop_iff, stop_idle (Option.map_eq_none_iff.1 hnone), Prod.mk.injEq, and_comm]
  · obtain ⟨hruns, hu⟩ := hwhole.runs_of_finish hfinish
    rw [hcalls] at hruns
    obtain rfl := eq_none_of_skipped hruns
    exact ⟨rfl, hu⟩

/-! ### A scheduler that is started anew during a tick -/

/-- A job with an interval of 2 is in its first tick when one with an interval of 5 takes its place;
then the tick is told that somebody else has the scope. -/
def replacedInTick : List Event :=
  [.start 0 2 (.ok [.schedulerStarted 2]), .begin 0 2,
    .start 3 5 (.ok [.schedulerReplaced 2, .schedulerStarted 5]), .work 0 [⟨.now, ⟨3⟩⟩],
    .work 0 [⟨.acquire Sweep.scope, .ok none⟩], .work 0 [⟨.log .tickSkipped, ()⟩]]

/-- The first job lingers in its tick, which is still to do `x`. -/
def lingering (x : Ongoing) : Scheduler Ongoing where
  jobs := [⟨0, ⟨.skip, 2, 4⟩, true, some x⟩, ⟨1, ⟨.skip, 5, 8⟩, false, none⟩]
  current := some ⟨1, 5⟩
  lastTick := none
  started := 2

theorem lingering_work {x y : Ongoing} {calls : List (Exchange Call.signature)}
    (h : Sweep.Step x calls y) :
    Happens dispatcher (lingering x) (.work 0 calls) (lingering y) :=
  .worked (j := ⟨0, ⟨.skip, 2, 4⟩, true, some x⟩) List.mem_cons_self rfl h

theorem lingering_finish (tick : Option Sweep.Tick) :
    Happens dispatcher (lingering (.done tick)) (.finish 0 tick)
      ((lingering (.done tick)).finish 0 tick) :=
  .finished (j := ⟨0, ⟨.skip, 2, 4⟩, true, some (.done tick)⟩) List.mem_cons_self rfl

theorem history_replacedInTick :
    History (toNode 5000) replacedInTick (lingering (.done none)) := by
  have hlingers : History (toNode 5000) (replacedInTick.take 3)
      (lingering (Scheduler.tick (toNode 5000))) :=
    ((History.nil.snoc (.started rfl)).snoc (.began rfl)).snoc (.started rfl)
  exact ((hlingers.snoc (lingering_work (.call _ _ _))).snoc
    (lingering_work (.call _ _ _))).snoc (lingering_work (.call _ _ _))

theorem one_timer_replacedInTick :
    History (toNode 5000) replacedInTick (lingering (.done none)) ∧
    (∃ j, (lingering (.done none)).untold = [j] ∧
      (lingering (.done none)).current = some ⟨j.serial, 5⟩ ∧ j.timer.period = 5) ∧
    (∀ reply u, Happens (toNode 5000) (lingering (.done none)) (.status reply) u ↔
      reply = ⟨true, some 5, none⟩ ∧ u = lingering (.done none)) ∧
    ∃ u, Happens (toNode 5000) (lingering (.done none)) (.finish 0 none) u ∧
      u.lastTick = none := by
  obtain ⟨-, hrunning, -, hstatus, -, -, -, hskipped⟩ := one_timer history_replacedInTick
  have hfinish : Happens (toNode 5000) (lingering (.done none)) (.finish 0 none) _ :=
    lingering_finish none
  exact ⟨history_replacedInTick, (hrunning 5).1 rfl, hstatus, _, hfinish,
    (hskipped 0 none _ ⟨3⟩ _ rfl hfinish).2⟩

end Events

end PeerRules.Scheduler
