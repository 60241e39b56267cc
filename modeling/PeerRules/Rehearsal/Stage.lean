import PeerRules.Rehearsal.Thread
import PeerRules.Schedule

/-!
# A stage: somebody acting while the scheduler runs

On a stage one actor does one thing after another, and the scheduler's jobs run beside. The clock
moves only when everybody waits, and then to the next moment at which something is due. When several
are due at one moment the actor comes first and the jobs follow in the order of their starts; a job
that could either stop or tick ticks.

The number of turns is bounded; `perform` gives nothing when it is used up.
-/
namespace PeerRules.Rehearsal

/-- How long calls may take, and what the sweeps are made of. -/
structure Setting where
  /-- How actions are applied. -/
  dispatcher : Dispatch.Dispatcher
  /-- The time between two renewals of a permit. -/
  renewMs : Nat

/-- The world, and the scheduler that acts in it. -/
structure Stage where
  world : World
  scheduler : Scheduler (Thread (Option Sweep.Tick))

namespace Stage

variable {α : Type}

/-- Something that an actor does: a sweep, or waiting. -/
inductive Act (α : Type) where
  | sweep (s : Sweep α)
  | sleep (ms : Nat) (result : α)

/-- Starts an act, and does what can be done at once. -/
def begin (setting : Setting) (s : Stage) : Act α → Thread α × Stage
  | .sweep sweep =>
    let (t, w) := s.world.proceedSweep setting.renewMs sweep
    (t, { s with world := w })
  | .sleep ms result => (.sleeping (s.world.clock + ms) result, s)

/-- Keeps what a job's tick has come to. -/
def keep (s : Stage) (serial : Nat) : Thread (Option Sweep.Tick) → Stage
  | .done tick => { s with scheduler := s.scheduler.finish serial tick }
  | t => { s with scheduler := s.scheduler.resume serial t }

/-- Whether a job has something to do now. -/
def isReady (now : Nat) (j : Job (Thread (Option Sweep.Tick))) : Bool :=
  match j.inTick with
  | some t => t.wake?.all (· ≤ now)
  | none => j.told || j.timer.isDue now

/-- A job does one thing: goes on with its tick, ends, or begins a tick. -/
def turn (setting : Setting) (s : Stage) (j : Job (Thread (Option Sweep.Tick))) : Stage :=
  match j.inTick with
  | some t =>
    let (t, w) := t.poll setting.renewMs s.world
    keep { s with world := w } j.serial t
  | none =>
    let (t, w) := s.world.proceedSweep setting.renewMs (Scheduler.tick setting.dispatcher)
    match s.scheduler.begin? j.serial s.world.clock t with
    | some scheduler => keep { s with world := w, scheduler } j.serial t
    | none =>
      match s.scheduler.quit? j.serial with
      | some scheduler => { s with scheduler }
      | none => s

/-- Lets the jobs do everything that can be done without the clock moving. -/
def settle (setting : Setting) : Nat → Stage → Stage
  | 0, s => s
  | fuel + 1, s =>
    match s.scheduler.jobs.find? (isReady s.world.clock) with
    | none => s
    | some j => settle setting fuel (turn setting s j)

def jobWake (j : Job (Thread (Option Sweep.Tick))) : Nat :=
  match j.inTick with
  | some t => t.wake?.getD 0
  | none => j.timer.deadline

/-- Goes on until the actor is done. -/
def await (setting : Setting) : Nat → Stage → Thread α → Option (α × Stage)
  | 0, _, _ => none
  | _ + 1, s, .done a => some (a, s)
  | fuel + 1, s, t =>
    if t.wake?.all (· ≤ s.world.clock) then
      let (t, w) := t.poll setting.renewMs s.world
      await setting fuel { s with world := w } t
    else
      match s.scheduler.jobs.find? (isReady s.world.clock) with
      | some j => await setting fuel (turn setting s j) t
      | none =>
        let next := s.scheduler.jobs.foldl (fun n j => min n (jobWake j)) (t.wake?.getD 0)
        await setting fuel { s with world := { s.world with clock := max s.world.clock next } } t

def turns : Nat := 1000000

def perform (setting : Setting) (s : Stage) (act : Act α) : Option (α × Stage) :=
  let (t, s) := s.begin setting act
  (await setting turns s t).map fun (a, s) => (a, settle setting turns s)

def startScheduler (setting : Setting) (s : Stage) (intervalMs : Nat) : Except Fault Stage := do
  let (scheduler, events) ← s.scheduler.start s.world.clock intervalMs
  pure (settle setting turns { world := { s.world with log := s.world.log ++ events }, scheduler })

def stopScheduler (setting : Setting) (s : Stage) : Stage :=
  let (scheduler, events) := s.scheduler.stop
  settle setting turns { world := { s.world with log := s.world.log ++ events }, scheduler }

/-- The dispatcher of a rehearsal: the scripted channel, and behind it the node. -/
def dispatcher (limitMs : Nat) : Dispatch.Dispatcher := fun peer action => do
  match ← RulesPlan.dispatch peer action with
  | .error f => return .error f
  | .ok _ => Dispatch.toNode limitMs peer action

end Stage

end PeerRules.Rehearsal
