import PeerRules.Fault
import PeerRules.Node.Endpoint
import PeerRules.Text.Blank
import PeerRules.Text.Numeral

/-!
# The configuration of a worker

A worker is configured by named texts. A text that is blank counts as unset, all others are trimmed,
but for the node's password, which is taken as it is. Four settings are positive numbers, checked in
a fixed order.

* `pos_of_positive`: an accepted number is positive.
-/
namespace PeerRules.Worker

/-- The configuration of a worker (`WorkerConfig`). -/
structure Config where
  databaseUrl : Option String
  nodeUrl : String
  nodeUser : Option String
  nodePassword : Option String
  ruleIntervalMs : Nat
  dispatchTimeoutMs : Nat
  rpcTimeoutMs : Nat
  redisUrl : Option String
  leaseSeconds : Nat
  workerId : String
  seedPath : Option String
  deriving DecidableEq

namespace Config

/-- The settings, by name. -/
abbrev Lookup := String → Option String

/-- A setting that says something, trimmed. -/
def setting (env : Lookup) (name : String) : Option String := (env name).bind Text.trimmed?

def defaultNodeUrl : String := "http://127.0.0.1:8332"

def dropSlashes (s : String) : String :=
  String.ofList (s.toList.reverse.dropWhile (· = '/')).reverse

/-- A setting that is a number of 64 bits. -/
def natural (env : Lookup) (name : String) (default : Nat) : Except Fault Nat :=
  match setting env name with
  | none => .ok default
  | some s =>
    match Text.Numeral.unsigned? s.toList with
    | .ok n => .ok n
    | .error r => .error (.validation ("invalid " ++ name ++ " value '" ++ s ++ "': " ++ r.message))

def requirePositive (name : String) (n : Nat) : Except Fault Nat :=
  if n = 0 then .error (.validation (name ++ " must be greater than zero")) else .ok n

/-- A setting that is a positive number of 64 bits (`parse_positive_u64`). -/
def positive (env : Lookup) (name : String) (default : Nat) : Except Fault Nat :=
  (natural env name default).bind (requirePositive name)

/-- The configuration that the settings make (`WorkerConfig.from_lookup`); `fallbackId` names a
worker that is given no name. -/
def ofLookup (env : Lookup) (fallbackId : String) : Except Fault Config := do
  let ruleIntervalMs ← positive env "RULE_INTERVAL_MS" 300000
  let dispatchTimeoutMs ← positive env "DISPATCH_TIMEOUT_MS" 10000
  let rpcTimeoutMs ← positive env "RPC_TIMEOUT_MS" 15000
  let leaseSeconds ← positive env "RULE_LOCK_LEASE_SECONDS" 600
  pure {
    databaseUrl := setting env "DATABASE_URL"
    nodeUrl := dropSlashes ((setting env "NODE_RPC_URL").getD defaultNodeUrl)
    nodeUser := setting env "NODE_RPC_USER"
    nodePassword := env "NODE_RPC_PASSWORD"
    ruleIntervalMs, dispatchTimeoutMs, rpcTimeoutMs
    redisUrl := setting env "REDIS_URL"
    leaseSeconds
    workerId := (setting env "WORKER_ID").getD fallbackId
    seedPath := setting env "RULES_SEED_PATH" }

/-- Credentials are sent when there is a user (`node_rpc_credentials`). -/
def credentials? (c : Config) : Option Node.Credentials := c.nodeUser.map (⟨·, c.nodePassword⟩)

def endpoint (c : Config) : Node.Endpoint := ⟨c.nodeUrl, c.credentials?⟩

/-- The lease is renewed three times in its life (`lease_renew_interval`): the product is taken in
64 bits, as milliseconds. -/
def renewIntervalMs (c : Config) : Nat :=
  max 1 ((UInt64.ofNat c.leaseSeconds * 1000 / 3).toNat)

theorem pos_of_requirePositive {name : String} {m n : Nat} (h : requirePositive name m = .ok n) :
    0 < n := by
  unfold requirePositive at h
  split at h
  · cases h
  · cases h
    omega

theorem pos_of_positive {env : Lookup} {name : String} {default n : Nat}
    (h : positive env name default = .ok n) : 0 < n := by
  unfold positive at h
  cases hn : natural env name default with
  | error e => rw [hn] at h; cases h
  | ok m => rw [hn] at h; exact pos_of_requirePositive h

end Config

end PeerRules.Worker
