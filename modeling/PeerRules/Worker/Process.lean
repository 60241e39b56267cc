import PeerRules.Worker.Config
import PeerRules.Worker.Parties
import PeerRules.Worker.Seed
import PeerRules.Worker.Watch

/-!
# A worker from its start to its end

A worker reads its configuration, connects with its parties, seeds its store, says that it has
started, and then either runs the active rules once or runs them on the timer. The first fault ends
it, and is what it leaves behind.
-/
namespace PeerRules.Worker

open Dispatch RulesPlan

/-- What a worker is told to do. -/
inductive Mode where
  | once
  /-- On the timer, up to an interrupt after a number of whole ticks. -/
  | timer (ticks : Nat)
  /-- On the timer, up to an interrupt in the tick after a number of whole ticks, when the log has
  been told a message. -/
  | timerUntil (ticks : Nat) (message : String)
  deriving DecidableEq, Repr

/-- What the keys of all leases have in common. -/
def leaseKeyFront : String := "peerwarden:rules"

def badKeyServer (r : Lease.Server.Refusal) : Fault :=
  .validation ("invalid REDIS_URL: " ++ r.message)

/-- The leases of a worker, if it has a key server (`build_guard`). -/
def Config.leases (c : Config) : Except Fault (Option Lease.Client) :=
  match c.redisUrl with
  | none => .ok none
  | some url =>
    match Lease.Server.ofText url with
    | .error r => .error (badKeyServer r)
    | .ok server =>
      (Lease.Settings.make leaseKeyFront c.workerId c.leaseSeconds).map fun terms =>
        some ⟨server, terms⟩

def unreachableTables (reason : String) : Fault :=
  .internal ("failed to connect to database: " ++ reason)

def unmadeTables (reason : String) : Fault :=
  .internal ("failed to run migrations: while executing migration 1: " ++ reason)

/-- Connects with the database, if there is one, and makes the tables (`connect_and_migrate`). The
result says whether there is one. -/
def Config.openTables (c : Config) : WirePlan (Except Fault Bool) :=
  match c.databaseUrl with
  | none => .done (.ok false)
  | some url =>
    match Table.Server.ofText url with
    | .error r => .done (.error (unreachableTables r.message))
    | .ok server => do
      match ← WirePlan.openTables server with
      | .error reason => return .error (unreachableTables reason)
      | .ok () =>
        match ← WirePlan.change .migrate with
        | .error r => return .error (unmadeTables r.text)
        | .ok _ => return .ok true

def Config.connect (c : Config) : WirePlan (Except Fault Parties) := do
  match ← c.openTables with
  | .error f => return .error f
  | .ok isPersistent =>
    return c.leases.map fun leases => ⟨c.endpoint, c.dispatchTimeoutMs, isPersistent, leases⟩

def Config.started (c : Config) : Log.Event :=
  .workerStarted c.workerId c.nodeUrl c.databaseUrl.isSome c.redisUrl.isSome c.ruleIntervalMs

/-- Seeds the store, if there is a file, and says that the worker has started. -/
def Config.prepare (c : Config) : RulesPlan (Except Fault Unit) := do
  match ← c.seedPath.elim (.done (.ok ())) Seed.plan with
  | .error f => return .error f
  | .ok () => do
    log c.started
    return .ok ()

def reported (workerId : String) (r : Batch.Report) : Log.Event :=
  match r.result with
  | .ok s => .ruleExecuted workerId r.ruleId r.ruleName s.matched s.executed s.message
  | .error f => .ruleExecutionFailed workerId r.ruleId r.ruleName f.message

/-- Runs the active rules once (`run_active_rules_once`). -/
def once (workerId : String) (dispatcher : Dispatcher) : Sweep (Except Fault Unit) := do
  match ← Sweep.runAll dispatcher with
  | .error f => return .error f
  | .ok reports => do
    Watch.tellAll (reports.map (reported workerId) ++ [.onceFinished workerId reports.length])
    return .ok ()

/-- What a worker does once it is connected. -/
def Config.work (c : Config) (mode : Mode) : Sweep (Except Fault Unit) := do
  match ← Sweep.ofPlan c.prepare with
  | .error f => return .error f
  | .ok () =>
    let dispatcher := toNode c.dispatchTimeoutMs
    match mode with
    | .once => once c.workerId dispatcher
    | .timer count => Watch.plan c.workerId c.ruleIntervalMs dispatcher count none
    | .timerUntil count message =>
      Watch.plan c.workerId c.ruleIntervalMs dispatcher count (some message)

/-- A worker, when no renewal falls due (`main`). -/
def run (env : Config.Lookup) (fallbackId : String) (mode : Mode) : WirePlan (Except Fault Unit) :=
  match Config.ofLookup env fallbackId with
  | .error f => .done (.error f)
  | .ok c => do
    match ← c.connect with
    | .error f => return .error f
    | .ok parties => parties.perform (c.work mode).unrenewed

def lastLine (f : Fault) : String :=
  "Error: " ++ f.kind.name ++ "(" ++ Text.Quoted.quote f.text ++ ")"

end PeerRules.Worker
