import PeerRules.Batch

/-!
# Sweeps: batches under a guard

A sweep asks for the permit of its scope, runs a batch, and gives the permit back. While the batch
runs, the permit is renewed from time to time; nothing that a renewal answers changes the batch.

A sweep is a plan with one part set apart, the batch that is run under the permit. How it can go on
is `Step`: by its next call, or by a renewal while its batch runs.
-/
namespace PeerRules

open RulesPlan Dispatch

/-- A plan, part of which is a batch under a permit. -/
inductive Sweep (α : Type) : Type where
  | done (result : α)
  | call (c : Call) (next : c.Reply → Sweep α)
  | guarded (permit : Permit) (batch : RulesPlan Batch.Result) (next : Batch.Result → Sweep α)

namespace Sweep

variable {α β : Type}

/-- One sweep, and then another that depends on its result. -/
def bind : Sweep α → (α → Sweep β) → Sweep β
  | .done a, f => f a
  | .call c next, f => .call c fun r => (next r).bind f
  | .guarded p batch next, f => .guarded p batch fun r => (next r).bind f

instance : Monad Sweep where
  pure := .done
  bind := bind

/-- A plan without a batch. -/
def ofPlan : RulesPlan α → Sweep α
  | .done a => .done a
  | .call c next => .call c fun r => ofPlan (next r)

/-- The sweep as a plan, when no renewal falls due. -/
def unrenewed : Sweep α → RulesPlan α
  | .done a => .done a
  | .call c next => .call c fun r => (next r).unrenewed
  | .guarded _ batch next => batch.bind fun r => (next r).unrenewed

/-- One way for a sweep to go on, with the calls it takes. -/
inductive Step : Sweep α → List (Exchange Call.signature) → Sweep α → Prop where
  /-- The next call is answered. -/
  | call (c : Call) (next : c.Reply → Sweep α) (r : c.Reply) :
      Step (.call c next) [⟨c, r⟩] (next r)
  /-- The batch's next call is answered. -/
  | batch (p : Permit) (c : Call) (rest : c.Reply → RulesPlan Batch.Result)
      (next : Batch.Result → Sweep α) (r : c.Reply) :
      Step (.guarded p (.call c rest) next) [⟨c, r⟩] (.guarded p (rest r) next)
  /-- The permit is renewed while the batch waits for a reply. -/
  | renewal (p : Permit) (c : Call) (rest : c.Reply → RulesPlan Batch.Result)
      (next : Batch.Result → Sweep α) (r : Except Fault Bool) :
      Step (.guarded p (.call c rest) next) [⟨.renew p, r⟩] (.guarded p (.call c rest) next)
  /-- The batch has come to its result. -/
  | finish (p : Permit) (result : Batch.Result) (next : Batch.Result → Sweep α) :
      Step (.guarded p (.done result) next) [] (next result)

def scope : String := "execute-active-rules"

/-- Renews a permit, and tells the log how it went (`RuleEngineService.renew`). -/
def renewal (p : Permit) : RulesPlan Unit := do
  match ← renew p with
  | .ok true => log (.renewed p.scope)
  | .ok false => log (.lapsed p.scope)
  | .error f => log (.renewFailed p.scope f)

/-- Gives a permit back, and tells the log if that failed (`RuleEngineService.release`). -/
def giveBack (p : Permit) : RulesPlan Unit := do
  match ← release p with
  | .ok () => return ()
  | .error f => log (.releaseFailed p.scope f)

/-- Runs a batch under a permit, and gives the permit back (`run_guarded`). -/
def under (dispatcher : Dispatcher) (p : Permit) : Sweep Batch.Result :=
  .guarded p (Batch.plan dispatcher) fun result => do
    ofPlan (giveBack p)
    return result

/-- Runs every active rule, for a caller who waits for the reports
(`RuleEngineService.run_all_active`). -/
def runAll (dispatcher : Dispatcher) : Sweep Batch.Result := do
  match ← ofPlan (acquire scope) with
  | .error f => return .error f
  | .ok none => return .error (.conflict "active rule execution is already in progress")
  | .ok (some p) => under dispatcher p

/-- What came of a tick of the timer (`TickSummary`). -/
structure Tick where
  startedAt : Instant
  finishedAt : Instant
  executed : Nat
  failed : Nat
  /-- Why there was no batch, or why it listed no rules. -/
  error : Option String
  deriving DecidableEq

def Tick.aborted (startedAt finishedAt : Instant) (f : Fault) : Tick :=
  ⟨startedAt, finishedAt, 0, 0, some f.message⟩

def Tick.ofReports (startedAt finishedAt : Instant) (rs : List Batch.Report) : Tick :=
  let failed := rs.countP (·.isFailure)
  ⟨startedAt, finishedAt, rs.length - failed, failed, none⟩

/-- What a tick makes of the result of its batch. -/
def conclude (startedAt : Instant) : Batch.Result → RulesPlan Tick
  | .ok rs => do
    let t := Tick.ofReports startedAt (← now) rs
    log (.tickFinished t.executed t.failed)
    return t
  | .error f => do
    log (.listingFailed f)
    let t := Tick.aborted startedAt (← now) f
    log (.tickFinished t.executed t.failed)
    return t

/-- Runs every active rule, for the timer (`RuleEngineService.run_scheduled_tick`). There is nothing
to tell when another sweep is still running. -/
def tick (dispatcher : Dispatcher) : Sweep (Option Tick) := do
  let startedAt ← ofPlan now
  match ← ofPlan (acquire scope) with
  | .error f => do
    ofPlan (log (.acquireFailed f))
    return some (.aborted startedAt (← ofPlan now) f)
  | .ok none => do
    ofPlan (log .tickSkipped)
    return none
  | .ok (some p) => do
    let result ← under dispatcher p
    return some (← ofPlan (conclude startedAt result))

end Sweep

end PeerRules
