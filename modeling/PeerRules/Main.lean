import PeerRules.Json.Reader
import PeerRules.Wire.Document
import PeerRules.Worker.Process

/-!
# The command line

The worker speaks with its parties over its standard streams: what it sends is a line on the output,
and the reply is a line on the input. Files, random numbers and the log are its own; the log and the
last line of a failure go to the error stream. The end of the input is the interrupt.
-/
namespace PeerRules.Main

open Json Worker

/-- Sends a document, and reads the reply; nothing at the end of the input. -/
def speak (v : Value) : IO (Option Value) := do
  let output ← IO.getStdout
  output.putStrLn v.text
  output.flush
  let line ← (← IO.getStdin).getLine
  if line.isEmpty then return none
  return some ((Reader.parse line).toOption.getD .null)

def reply {α : Type} (c : Wire.Call) (read : Value → α) : IO α := do
  match ← speak ((Wire.sent? c).getD .null) with
  | some v => return read v
  | none => throw (IO.userError "the input has ended")

def logLine (e : Log.Event) : String :=
  let shown := e.fields.map fun (name, f) => match f with
    | .text s => " " ++ name ++ "=" ++ s
    | .number n => " " ++ name ++ "=" ++ toString n
    | .flag b => " " ++ name ++ "=" ++ toString b
  e.message ++ String.join shown

def contents (path : String) : IO (Except String String) := do
  try
    return .ok (← IO.FS.readFile path)
  catch
    | .noFileOrDirectory .. => return .error "No such file or directory (os error 2)"
    | e => return .error (toString e)

def randomId : IO RuleId := do
  let bytes ← IO.getRandomBytes 16
  return .ofRandom (bytes.toList.foldl (fun n b => n * 256 + b.toNat) 0)

def exchange : (c : Wire.Call) → IO c.Reply
  | .post p => reply (.post p) Wire.toResponse
  | .postWithin p limitMs => reply (.postWithin p limitMs) Wire.toTimelyResponse
  | .openKeys server => reply (.openKeys server) Wire.toOpened
  | .command c => reply (.command c) Wire.toKeyReply
  | .openTables server => reply (.openTables server) Wire.toOpened
  | .ruleRows s => reply (.ruleRows s) Wire.toRuleRows
  | .entryRows s => reply (.entryRows s) Wire.toEntryRows
  | .numbers s => reply (.numbers s) Wire.toNumbers
  | .change s => reply (.change s) Wire.toChange
  | .now => reply .now Wire.toInstant
  | .readText path => contents path
  | .log e => IO.eprintln (logLine e)
  | .freshId => randomId

/-- A worker at work: it knows its parties, and keeps its memory. -/
abbrev WorkM := ReaderT Parties (StateT Memory IO)

def answer (c : Call) : WorkM c.Reply := fun parties memory =>
  (parties.answer c memory).answer exchange

/-- Runs a batch, and renews its permit whenever that is due before the next call. -/
def batch {α : Type} (renewMs : Nat) (p : Permit) (t : Timer) : RulesPlan α → WorkM α
  | .done a => pure a
  | .call c next => do
    let now ← IO.monoMsNow
    if t.isDue now then
      (Sweep.renewal p).answer answer
      let r ← answer c
      batch renewMs p (t.fire now) (next r)
    else
      let r ← answer c
      batch renewMs p t (next r)

def sweep {α : Type} (renewMs : Nat) : Sweep α → WorkM α
  | .done a => pure a
  | .call c next => do
    let r ← answer c
    sweep renewMs (next r)
  | .guarded p work next => do
    let t := Timer.start .delay renewMs (← IO.monoMsNow)
    let r ← batch renewMs p t work
    sweep renewMs (next r)

/-- Waits for the timer of the current job, and runs ticks until the interrupt. -/
partial def ticks (c : Config) (s : Scheduler Unit) : WorkM (Scheduler Unit) := do
  match s.jobs with
  | [] => return s
  | j :: _ =>
    let ahead := j.timer.deadline - (← IO.monoMsNow)
    match ← speak (.object [("waitMs", .ofNat ahead)]) with
    | none => return s
    | some _ =>
      match s.begin? j.serial (← IO.monoMsNow) () with
      | none => ticks c s
      | some t =>
        let tick ← sweep c.renewIntervalMs (Scheduler.tick (Dispatch.toNode c.dispatchTimeoutMs))
        ticks c (t.finish j.serial tick)

/-- Runs the scheduler until the interrupt. -/
def watch (c : Config) : WorkM (Except Fault Unit) := do
  match (Scheduler.idle : Scheduler Unit).start (← IO.monoMsNow) c.ruleIntervalMs with
  | .error f => return .error f
  | .ok (s, events) =>
    sweep c.renewIntervalMs (Watch.tellAll events)
    let s ← ticks c s
    sweep c.renewIntervalMs (Watch.tellAll (Watch.farewell c.workerId s))
    return .ok ()

def work (c : Config) (runsOnce : Bool) : WorkM (Except Fault Unit) := do
  if runsOnce then sweep c.renewIntervalMs (c.work .once)
  else
    match ← sweep c.renewIntervalMs (Sweep.ofPlan c.prepare) with
    | .error f => return .error f
    | .ok () => watch c

def run (env : Config.Lookup) (fallbackId : String) (runsOnce : Bool) : IO (Except Fault Unit) := do
  match Config.ofLookup env fallbackId with
  | .error f => return .error f
  | .ok c =>
    match ← c.connect.answer exchange with
    | .error f => return .error f
    | .ok parties => return (← (work c runsOnce parties).run Memory.empty).1

/-- The name of a worker that is given none: the number of its process. -/
def ownName : IO String := do
  match ← contents "/proc/self/stat" with
  | .ok s => return "worker-" ++ String.ofList (s.toList.takeWhile (· ≠ ' '))
  | .error _ => return "worker"

def settings : List String :=
  ["DATABASE_URL", "NODE_RPC_URL", "NODE_RPC_USER", "NODE_RPC_PASSWORD", "RULE_INTERVAL_MS",
    "DISPATCH_TIMEOUT_MS", "RPC_TIMEOUT_MS", "REDIS_URL", "RULE_LOCK_LEASE_SECONDS", "WORKER_ID",
    "RULES_SEED_PATH"]

def environment : IO Config.Lookup := do
  let values ← settings.mapM fun name => return (name, ← IO.getEnv name)
  return fun name => (values.find? (·.1 = name)).bind (·.2)

end PeerRules.Main

/-- The worker; with the argument run-once it runs the active rules once, and else on the timer. -/
def main (args : List String) : IO UInt32 := do
  let runsOnce := args.head? = some "run-once"
  let result ← PeerRules.Main.run (← PeerRules.Main.environment) (← PeerRules.Main.ownName) runsOnce
  match result with
  | .ok () => return 0
  | .error f =>
    IO.eprintln (PeerRules.Worker.lastLine f)
    return 1
