import PeerRules.Audit
import PeerRules.Log
import PeerRules.Peer
import PeerRules.Plan
import PeerRules.Rule.Basic

/-!
# The calls that running rules makes

Everything outside the rules themselves is reached by a call: the node that knows the peers, the
store, the audit log, the guard that keeps runs apart, the files, the log, the clock and the source
of identifiers. Every reply is a value; a party that fails replies with a fault.
-/
namespace PeerRules

/-- What came of an action against one peer (`ActionOutcome`). -/
structure Outcome where
  success : Bool
  message : String
  deriving DecidableEq, Repr

def Outcome.failed (message : String) : Outcome := ⟨false, message⟩

def Outcome.succeeded (message : String) : Outcome := ⟨true, message⟩

/-- An order to the node about one peer. -/
inductive Control where
  | ban (address : String) (seconds : UInt64)
  | disconnect (peerId : String)
  deriving DecidableEq

/-- The right to run in a scope (`ExecutionPermit`): the scope, and a token that nobody else has. -/
structure Permit where
  scope : String
  token : String
  deriving DecidableEq, Repr

/-- A stored rule as a listing gives it (`StoredRule`): if it cannot be loaded, its identifier and
name stay known. -/
structure Record where
  ruleId : RuleId
  ruleName : String
  decoded : Except Fault Rule

/-- A record of a rule that was loaded (`StoredRule.decoded`). -/
def Record.ofRule (r : Rule) : Record := ⟨r.id, r.name.text, .ok r⟩

/-- The fault of asking for a rule that is not stored. -/
def RuleId.notStored (id : RuleId) : Fault := .notFound ("rule '" ++ id.text ++ "' does not exist")

/-- The fault of storing a rule as new that is stored already. -/
def RuleId.alreadyStored (id : RuleId) : Fault :=
  .conflict ("rule '" ++ id.text ++ "' already exists")

/-- A call: of the ports `PeerSource`, `PeerActionDispatcher`, `PeerControl`, `RuleAuditRepository`,
`RuleRepository` and `ExecutionGuard`, or to what every process has. -/
inductive Call where
  /-- The peers that are connected now. -/
  | listPeers
  /-- Applies an action to a peer. -/
  | dispatch (peer : Peer) (action : Action)
  /-- Gives the node an order, and waits for at most a number of milliseconds. -/
  | control (order : Control) (limitMs : Nat)
  | append (entry : Audit.NewEntry)
  | listEntries (query : Audit.Query)
  | insertRule (rule : Rule)
  | updateRule (rule : Rule)
  | findRule (id : RuleId)
  | listRules
  | listActive
  | deleteRule (id : RuleId)
  | acquire (scope : String)
  | renew (permit : Permit)
  | release (permit : Permit)
  /-- The contents of a file. -/
  | readText (path : String)
  | log (event : Log.Event)
  | freshId
  | now

/-- The reply to a call. A file that cannot be read is answered with the reason, a control call with
nothing when no reply came in time, and a request for a permit with nothing while another holder has
the scope. -/
def Call.Reply : Call → Type
  | .listPeers => Except Fault (List Peer)
  | .dispatch _ _ => Except Fault Outcome
  | .control _ _ => Option (Except Fault Outcome)
  | .append _ => Except Fault Audit.Entry
  | .listEntries _ => Except Fault Audit.Page
  | .insertRule _ | .updateRule _ => Except Fault Rule
  | .findRule _ => Except Fault (Option Rule)
  | .listRules => Except Fault (List Rule)
  | .listActive => Except Fault (List Record)
  | .deleteRule _ => Except Fault Unit
  | .acquire _ => Except Fault (Option Permit)
  | .renew _ => Except Fault Bool
  | .release _ => Except Fault Unit
  | .readText _ => Except String String
  | .log _ => Unit
  | .freshId => RuleId
  | .now => Instant

/-- Whether a call only tells the log or looks at the clock. -/
def Call.isAside : Call → Bool
  | .log _ | .now => true
  | _ => false

/-- All calls, with their replies. -/
def Call.signature : Signature := ⟨Call, Call.Reply⟩

/-- A plan of calls. -/
abbrev RulesPlan (α : Type) : Type := Plan Call.signature α

namespace RulesPlan

def ask (c : Call) : RulesPlan c.Reply := .call c .done

def listPeers : RulesPlan (Except Fault (List Peer)) := ask .listPeers

def dispatch (peer : Peer) (action : Action) : RulesPlan (Except Fault Outcome) :=
  ask (.dispatch peer action)

/-- Gives the node an order, and waits for at most a number of milliseconds. -/
def control (order : Control) (limitMs : Nat) : RulesPlan (Option (Except Fault Outcome)) :=
  ask (.control order limitMs)

def append (entry : Audit.NewEntry) : RulesPlan (Except Fault Audit.Entry) := ask (.append entry)

def listEntries (query : Audit.Query) : RulesPlan (Except Fault Audit.Page) :=
  ask (.listEntries query)

def insertRule (rule : Rule) : RulesPlan (Except Fault Rule) := ask (.insertRule rule)

/-- Stores a rule in place of the one with its identifier. -/
def updateRule (rule : Rule) : RulesPlan (Except Fault Rule) := ask (.updateRule rule)

def findRule (id : RuleId) : RulesPlan (Except Fault (Option Rule)) := ask (.findRule id)

def listRules : RulesPlan (Except Fault (List Rule)) := ask .listRules

/-- The record of every stored rule that is active, oldest first. -/
def listActive : RulesPlan (Except Fault (List Record)) := ask .listActive

/-- Deletes a stored rule and its audit entries. -/
def deleteRule (id : RuleId) : RulesPlan (Except Fault Unit) := ask (.deleteRule id)

/-- Asks for the permit of a scope; there is none while another holder has it. -/
def acquire (scope : String) : RulesPlan (Except Fault (Option Permit)) := ask (.acquire scope)

def renew (permit : Permit) : RulesPlan (Except Fault Bool) := ask (.renew permit)

def release (permit : Permit) : RulesPlan (Except Fault Unit) := ask (.release permit)

def readText (path : String) : RulesPlan (Except String String) := ask (.readText path)

def log (event : Log.Event) : RulesPlan Unit := ask (.log event)

def freshId : RulesPlan RuleId := ask .freshId

def now : RulesPlan Instant := ask .now

end RulesPlan

end PeerRules
