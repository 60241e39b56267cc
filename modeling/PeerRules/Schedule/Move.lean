import PeerRules.Schedule

/-!
# Histories of a scheduler

What can happen to a scheduler, as a list of moves: somebody starts or stops it, a job begins a tick
or ends one, a job that was told to stop ends. Only a move that can be made is in a history; when a
job could either begin a tick or end, either move can be made.

* `after?_append`: a history goes on where another ended.
-/
namespace PeerRules.Scheduler

variable {T : Type}

/-- Something that happens to a scheduler. -/
inductive Move where
  | start (now intervalMs : Nat)
  | stop
  | begin (serial now : Nat)
  | finish (serial : Nat) (tick : Option Sweep.Tick)
  | quit (serial : Nat)
  deriving DecidableEq

def isInTick (s : Scheduler T) (serial : Nat) : Bool :=
  s.jobs.any fun j => j.serial = serial && j.inTick.isSome

/-- The scheduler after a move, if it can be made. A tick that begins is known by `t`. -/
def move? (t : T) (s : Scheduler T) : Move → Option (Scheduler T)
  | .start now intervalMs => (s.start now intervalMs).toOption.map (·.1)
  | .stop => some s.stop.1
  | .begin serial now => s.begin? serial now t
  | .finish serial tick => if s.isInTick serial then some (s.finish serial tick) else none
  | .quit serial => s.quit? serial

/-- The scheduler after a history, if all of its moves can be made. -/
def after? (t : T) (s : Scheduler T) : List Move → Option (Scheduler T)
  | [] => some s
  | m :: ms => (s.move? t m).bind fun s => s.after? t ms

theorem after?_append (t : T) (s : Scheduler T) (ls ms : List Move) :
    s.after? t (ls ++ ms) = (s.after? t ls).bind fun u => u.after? t ms := by
  induction ls generalizing s with
  | nil => rfl
  | cons l ls ih =>
    simp only [List.cons_append, after?]
    cases s.move? t l with
    | none => rfl
    | some u => exact ih u

end PeerRules.Scheduler
