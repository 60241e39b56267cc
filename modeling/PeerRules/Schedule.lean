import PeerRules.Sweep
import PeerRules.Timer

/-!
# The scheduler

The scheduler runs sweeps on a timer. Starting it makes a job; starting it again makes another and
tells the one before to stop, and so does stopping it. A job that is told to stop ends when it next
looks up: a tick under way is not cut short.

A job that is not inside a tick looks up as soon as its timer is due or it has been told to stop.
When both are the case it may do either; `begin?` and `quit?` are the two ways.

* `start_zero`: an interval of nothing is refused and changes nothing.
* `stop_idle`: stopping when there is no current job changes nothing.
* `begin?_eq_some_iff`, `quit?_eq_some_iff`: when a job can begin a tick, and when it can end.
-/
namespace PeerRules

open RulesPlan Dispatch

/-- A recurring job (`ScheduledJob`). `T` is what a tick under way is known by. -/
structure Job (T : Type) where
  serial : Nat
  timer : Timer
  /-- Told to stop. -/
  told : Bool
  /-- The tick under way. -/
  inTick : Option T

/-- The job that the scheduler counts as its own. -/
structure Handle where
  serial : Nat
  intervalMs : Nat
  deriving DecidableEq, Repr

/-- The scheduler (`RuleScheduler`): every job that has not ended, the one it counts as its own, and
the last tick that came to something. -/
structure Scheduler (T : Type) where
  jobs : List (Job T)
  current : Option Handle
  lastTick : Option Sweep.Tick
  /-- How many jobs there have been. -/
  started : Nat

namespace Scheduler

variable {T : Type}

/-- A scheduler that has never been started. -/
def idle : Scheduler T := ⟨[], none, none, 0⟩

def defaultIntervalMs : Nat := 300000

/-- Changes the job with a serial number. -/
def onJob (s : Scheduler T) (serial : Nat) (f : Job T → Job T) : Scheduler T :=
  { s with jobs := s.jobs.map fun j => if j.serial = serial then f j else j }

/-- Tells the current job to stop, and counts it as its own no longer. -/
def dismiss (s : Scheduler T) : Scheduler T :=
  match s.current with
  | none => s
  | some h =>
    let t := s.onJob h.serial fun j => { j with told := true }
    { t with current := none }

/-- Starts a job, in place of the current one (`RuleScheduler.start`). -/
def start (s : Scheduler T) (now intervalMs : Nat) : Except Fault (Scheduler T × List Log.Event) :=
  if intervalMs = 0 then .error (.validation "scheduler interval must be greater than zero")
  else
    let replaced := (s.current.map fun h => Log.Event.schedulerReplaced h.intervalMs).toList
    let t := s.dismiss
    let job : Job T := ⟨t.started, .start .skip intervalMs now, false, none⟩
    let u : Scheduler T :=
      ⟨t.jobs ++ [job], some ⟨t.started, intervalMs⟩, t.lastTick, t.started + 1⟩
    .ok (u, replaced ++ [.schedulerStarted intervalMs])

/-- Stops the current job, if there is one (`RuleScheduler.stop`). -/
def stop (s : Scheduler T) : Scheduler T × List Log.Event :=
  (s.dismiss, (s.current.map fun h => Log.Event.schedulerStopped h.intervalMs).toList)

/-- The current job, unless it has ended: the one that `RuleScheduler.is_running` and
`RuleScheduler.status` tell about. -/
def active? (s : Scheduler T) : Option Handle :=
  s.current.filter fun h => s.jobs.any (·.serial = h.serial)

def isRunning (s : Scheduler T) : Bool := s.active?.isSome

/-- The state of the scheduler as it is told (`SchedulerStatus`). -/
structure Status where
  running : Bool
  intervalMs : Option Nat
  lastTick : Option Sweep.Tick
  deriving DecidableEq

def status (s : Scheduler T) : Status := ⟨s.isRunning, s.active?.map (·.intervalMs), s.lastTick⟩

/-- A job begins the tick `t`, if it is inside none and its timer is due. -/
def begin? (s : Scheduler T) (serial now : Nat) (t : T) : Option (Scheduler T) :=
  match s.jobs.find? (·.serial = serial) with
  | some j =>
    if j.inTick.isNone && j.timer.isDue now then
      some (s.onJob serial fun j => { j with timer := j.timer.fire now, inTick := some t })
    else none
  | none => none

def resume (s : Scheduler T) (serial : Nat) (t : T) : Scheduler T :=
  s.onJob serial fun j => { j with inTick := some t }

/-- A job's tick ends. One that was skipped leaves the last tick as it was. -/
def finish (s : Scheduler T) (serial : Nat) (tick : Option Sweep.Tick) : Scheduler T :=
  let t := s.onJob serial fun j => { j with inTick := none }
  { t with lastTick := tick.or s.lastTick }

/-- A job that has been told to stop ends, if it is inside no tick. -/
def quit? (s : Scheduler T) (serial : Nat) : Option (Scheduler T) :=
  match s.jobs.find? (·.serial = serial) with
  | some j =>
    if j.told && j.inTick.isNone then some { s with jobs := s.jobs.filter (·.serial ≠ serial) }
    else none
  | none => none

/-- What a job does when its timer is due (`run_schedule`): a tick, and a warning if it came to
nothing. -/
def tick (dispatcher : Dispatcher) : Sweep (Option Sweep.Tick) := do
  let t ← Sweep.tick dispatcher
  match t.bind (·.error) with
  | some e => do
    Sweep.ofPlan (log (.tickFailed e))
    return t
  | none => return t

theorem start_zero (s : Scheduler T) (now : Nat) :
    s.start now 0 = .error (.validation "scheduler interval must be greater than zero") := by
  simp [start]

theorem stop_idle {s : Scheduler T} (h : s.current = none) : s.stop = (s, []) := by
  simp [stop, dismiss, h]

theorem begin?_eq_some_iff {s u : Scheduler T} {n now : Nat} {t : T} :
    s.begin? n now t = some u ↔ ∃ j, s.jobs.find? (·.serial = n) = some j ∧ j.inTick = none ∧
      j.timer.isDue now = true ∧
      u = s.onJob n fun i => { i with timer := i.timer.fire now, inTick := some t } := by
  unfold begin?
  cases s.jobs.find? (·.serial = n) with
  | none => simp
  | some j => simp [and_assoc, @eq_comm _ u]

theorem quit?_eq_some_iff {s u : Scheduler T} {n : Nat} :
    s.quit? n = some u ↔ ∃ j, s.jobs.find? (·.serial = n) = some j ∧ j.told = true ∧
      j.inTick = none ∧ u = { s with jobs := s.jobs.filter (·.serial ≠ n) } := by
  unfold quit?
  cases s.jobs.find? (·.serial = n) with
  | none => simp
  | some j => simp [and_assoc, @eq_comm _ u]

end Scheduler

end PeerRules
