import PeerRules.Rehearsal.World
import PeerRules.Sweep
import PeerRules.Timer

/-!
# Plans and sweeps in time

A thread is a plan or a sweep that has come to a call whose answer is not due yet. A sweep whose
batch is under way waits for two things at once, the answer to the batch's call and the timer of the
renewals; while a renewal is under way it waits for that alone.

`poll` does what is due at the clock's time, one thing at a time; `wake?` says when something will
be.
-/
namespace PeerRules.Rehearsal

/-- A plan in time: done, or waiting for the answer to a call. -/
inductive Progress (α : Type) where
  | done (result : α)
  | waiting (c : Call) (flight : Flight) (next : c.Reply → RulesPlan α)

/-- A sweep in time. -/
inductive Thread (α : Type) where
  | done (result : α)
  | sleeping (wakeAt : Nat) (result : α)
  | waiting (c : Call) (flight : Flight) (next : c.Reply → Sweep α)
  | batch (permit : Permit) (timer : Timer) (work : Progress Batch.Result)
      (renewal : Option (Progress Unit)) (next : Batch.Result → Sweep α)

namespace World

variable {α : Type}

/-- Goes on with a plan until it waits. -/
def proceed (w : World) : RulesPlan α → Progress α × World
  | .done a => (.done a, w)
  | .call c next =>
    let (f, w) := w.send c
    if f.due ≤ w.clock then
      let (r, w) := w.receive c f
      proceed w (next r)
    else (.waiting c f next, w)

/-- Goes on with a sweep until it waits. Renewals fall due `renewMs` apart, counted from the start
of the batch. -/
def proceedSweep (renewMs : Nat) (w : World) : Sweep α → Thread α × World
  | .done a => (.done a, w)
  | .call c next =>
    let (f, w) := w.send c
    if f.due ≤ w.clock then
      let (r, w) := w.receive c f
      proceedSweep renewMs w (next r)
    else (.waiting c f next, w)
  | .guarded p batch next =>
    let timer := Timer.start .delay renewMs w.clock
    match w.proceed batch with
    | (.done result, w) => proceedSweep renewMs w (next result)
    | (work, w) => (.batch p timer work none next, w)

def pollProgress (w : World) : Progress α → Progress α × World
  | .done a => (.done a, w)
  | .waiting c f next =>
    if f.due ≤ w.clock then
      let (r, w) := w.receive c f
      w.proceed (next r)
    else (.waiting c f next, w)

end World

/-- When something will be due for a plan. -/
def Progress.wake? {α : Type} : Progress α → Option Nat
  | .done _ => none
  | .waiting _ f _ => some f.due

namespace Thread

variable {α : Type}

def wake? : Thread α → Option Nat
  | .done _ => none
  | .sleeping wakeAt _ => some wakeAt
  | .waiting _ f _ => some f.due
  | .batch _ _ _ (some renewal) _ => renewal.wake?
  | .batch _ timer work none _ => some (min ((work.wake?).getD 0) timer.deadline)

/-- A renewal that is over is none. -/
def underWay : Progress Unit → Option (Progress Unit)
  | .done () => none
  | p => some p

/-- Does one thing that is due: first what the batch waits for, then a renewal. -/
def poll (renewMs : Nat) (w : World) : Thread α → Thread α × World
  | .done a => (.done a, w)
  | .sleeping wakeAt a => if wakeAt ≤ w.clock then (.done a, w) else (.sleeping wakeAt a, w)
  | .waiting c f next =>
    if f.due ≤ w.clock then
      let (r, w) := w.receive c f
      w.proceedSweep renewMs (next r)
    else (.waiting c f next, w)
  | .batch p timer work (some renewal) next =>
    let (renewal, w) := w.pollProgress renewal
    (.batch p timer work (underWay renewal) next, w)
  | .batch p timer work none next =>
    if (work.wake?).all (· ≤ w.clock) then
      match w.pollProgress work with
      | (.done result, w) => w.proceedSweep renewMs (next result)
      | (work, w) => (.batch p timer work none next, w)
    else if timer.isDue w.clock then
      let (renewal, w) := w.proceed (Sweep.renewal p)
      (.batch p (timer.fire w.clock) work (underWay renewal) next, w)
    else (.batch p timer work none next, w)

end Thread

end PeerRules.Rehearsal
