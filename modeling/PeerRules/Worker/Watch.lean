import PeerRules.Schedule

/-!
# A worker on the timer

A worker that is not told to run once starts the scheduler and waits for an interrupt. When it
comes, the worker stops the scheduler, says what the last tick came to, and ends; it waits for no
tick, and what is under way then ends with it.

`Step` says how a worker goes on, whenever ticks begin and however calls are answered. `plan` is one
way to go on: some whole ticks, and then perhaps one that the interrupt meets.

* `Runs.leave`: an interrupt can end the worker wherever it is.
-/
namespace PeerRules.Worker

open Dispatch

/-- A tick under way: what it still does. -/
abbrev Ongoing : Type := Sweep (Option Sweep.Tick)

/-- A worker on the timer. -/
inductive Watch where
  /-- At work, with the scheduler's jobs beside; the interrupt has come, or is waited for. -/
  | atWork (interrupted : Bool) (scheduler : Scheduler Ongoing)
  /-- Ended, with the ticks that were under way. -/
  | ended (cut : List Ongoing)

namespace Watch

variable {T : Type}

def lastWord (workerId : String) (s : Scheduler T) : Log.Event :=
  .workerStopped workerId (s.status.lastTick.map (·.executed))

/-- What the log is told when the worker ends as soon as the interrupt comes. -/
def farewell (workerId : String) (s : Scheduler T) : List Log.Event :=
  let (stopped, events) := s.stop
  events ++ [lastWord workerId stopped]

def underWay (s : Scheduler T) : List T := s.jobs.filterMap (·.inTick)

/-- What telling the log is as exchanges. -/
def told (events : List Log.Event) : List (Exchange Call.signature) :=
  events.map fun e => ⟨.log e, ()⟩

/-- One way for a worker to go on, with the calls it takes. Between the interrupt and the end the
jobs go on beside. -/
inductive Step (workerId : String) (dispatcher : Dispatcher) :
    Watch → List (Exchange Call.signature) → Watch → Prop where
  /-- A job begins a tick. -/
  | begin {b : Bool} {s t : Scheduler Ongoing} (serial now : Nat)
      (h : s.begin? serial now (Scheduler.tick dispatcher) = some t) :
      Step workerId dispatcher (.atWork b s) [] (.atWork b t)
  /-- A job's tick goes on. -/
  | work {b : Bool} {s : Scheduler Ongoing} {j : Job Ongoing} {x y : Ongoing}
      {es : List (Exchange Call.signature)} (hj : j ∈ s.jobs) (hx : j.inTick = some x)
      (h : Sweep.Step x es y) :
      Step workerId dispatcher (.atWork b s) es (.atWork b (s.resume j.serial y))
  /-- A job's tick comes to its end. -/
  | finish {b : Bool} {s : Scheduler Ongoing} {j : Job Ongoing} {tick : Option Sweep.Tick}
      (hj : j ∈ s.jobs) (hx : j.inTick = some (.done tick)) :
      Step workerId dispatcher (.atWork b s) [] (.atWork b (s.finish j.serial tick))
  /-- A job that was told to stop ends. -/
  | quit {b : Bool} {s t : Scheduler Ongoing} (serial : Nat)
      (h : s.quit? serial = some t) : Step workerId dispatcher (.atWork b s) [] (.atWork b t)
  /-- The interrupt comes, and the scheduler is stopped. -/
  | interrupt (s : Scheduler Ongoing) :
      Step workerId dispatcher (.atWork false s) (told s.stop.2) (.atWork true s.stop.1)
  /-- The worker ends. -/
  | leave (s : Scheduler Ongoing) :
      Step workerId dispatcher (.atWork true s) (told [lastWord workerId s]) (.ended (underWay s))

inductive Runs (workerId : String) (dispatcher : Dispatcher) :
    Watch → List (Exchange Call.signature) → Watch → Prop where
  | nil (w : Watch) : Runs workerId dispatcher w [] w
  | snoc {u v w : Watch} {xs ys : List (Exchange Call.signature)}
      (h : Runs workerId dispatcher u xs v) (hs : Step workerId dispatcher v ys w) :
      Runs workerId dispatcher u (xs ++ ys) w

def tellAll : List Log.Event → Sweep Unit
  | [] => .done ()
  | e :: rest => do
    Sweep.ofPlan (RulesPlan.log e)
    tellAll rest

/-- Whole ticks of the first job, each at the moment it is due. -/
def ticks (dispatcher : Dispatcher) : Nat → Scheduler Ongoing → Sweep (Scheduler Ongoing)
  | 0, s => .done s
  | count + 1, s =>
    match s.jobs with
    | [] => .done s
    | j :: _ =>
      match s.begin? j.serial j.timer.deadline (Scheduler.tick dispatcher) with
      | none => .done s
      | some t => do
        let tick ← Scheduler.tick dispatcher
        ticks dispatcher count (t.finish j.serial tick)

def tells (message : String) : Call → Bool
  | .log e => e.message = message
  | _ => false

/-- A plan that an interrupt meets when the log has been told a message: it makes no further call
that somebody else has to answer. Nothing comes of it unless it ends before that. -/
def metAt {α : Type} (message : String) : Bool → RulesPlan α → RulesPlan (Option α)
  | _, .done a => .done (some a)
  | heard, .call c next =>
    if heard && !c.isAside then .done none
    else .call c fun r => metAt message (heard || tells message c) (next r)

/-- A tick of the first job that an interrupt meets when the log has been told a message. -/
def tickMetAt (dispatcher : Dispatcher) (message : String) (s : Scheduler Ongoing) :
    Sweep (Scheduler Ongoing) :=
  match s.jobs with
  | [] => .done s
  | j :: _ =>
    match s.begin? j.serial j.timer.deadline (Scheduler.tick dispatcher) with
    | none => .done s
    | some t => do
      match ← Sweep.ofPlan (metAt message false (Scheduler.tick dispatcher).unrenewed) with
      | none => return t
      | some tick => return t.finish j.serial tick

/-- A worker on the timer that is interrupted after a number of whole ticks, or in the tick after
them, when the log has been told a message. -/
def plan (workerId : String) (intervalMs : Nat) (dispatcher : Dispatcher) (count : Nat)
    (message : Option String) : Sweep (Except Fault Unit) :=
  match (Scheduler.idle : Scheduler Ongoing).start 0 intervalMs with
  | .error f => .done (.error f)
  | .ok (s, events) => do
    tellAll events
    let s ← ticks dispatcher count s
    let s ← message.elim (.done s) (tickMetAt dispatcher · s)
    tellAll (farewell workerId s)
    return .ok ()

variable {workerId : String} {dispatcher : Dispatcher}

theorem underWay_stop (s : Scheduler T) : underWay s.stop.1 = underWay s := by
  unfold underWay Scheduler.stop Scheduler.dismiss
  split
  · rfl
  · simp only [Scheduler.onJob, List.filterMap_map]
    refine congrArg (List.filterMap · s.jobs) (funext fun j => ?_)
    simp only [Function.comp_apply]
    split <;> rfl

/-- The interrupt can come at any moment, and the worker can end at once. -/
theorem Runs.leave {w : Watch} {s : Scheduler Ongoing} {es : List (Exchange Call.signature)}
    (h : Runs workerId dispatcher w es (.atWork false s)) :
    Runs workerId dispatcher w (es ++ told (farewell workerId s)) (.ended (underWay s)) := by
  have hend := (h.snoc (.interrupt s)).snoc (.leave s.stop.1)
  rw [underWay_stop, List.append_assoc] at hend
  simpa [farewell, told] using hend

end Watch

end PeerRules.Worker
