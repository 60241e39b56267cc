import PeerRules.Lease.Command
import PeerRules.Lease.Server
import PeerRules.Node.Message
import PeerRules.Table.Server
import PeerRules.Table.Statement

/-!
# The exchanges of a worker

Behind the calls of the rules stand exchanges with the machines that answer them: posts to the node,
commands to the key server, statements to the database, and the worker's own files, log, clock and
identifiers. A plan of exchanges is all that a worker does.
-/
namespace PeerRules

/-- A refusal by the database. -/
structure Table.Refusal where
  code : String
  message : String
  deriving DecidableEq, Repr

def Table.Refusal.text (r : Table.Refusal) : String := "error returned from database: " ++ r.message

namespace Wire

/-- An exchange. -/
inductive Call where
  /-- Posts to the node. -/
  | post (p : Node.Post)
  /-- Posts to the node, and waits for at most a number of milliseconds. -/
  | postWithin (p : Node.Post) (limitMs : Nat)
  /-- Connects with a key server. -/
  | openKeys (server : Lease.Server)
  /-- Gives the key server a command. -/
  | command (c : Lease.Command)
  /-- Connects with a database. -/
  | openTables (server : Table.Server)
  /-- Executes a statement for the rows of rules that it gives. -/
  | ruleRows (s : Table.Statement)
  /-- Executes a statement for the rows of entries that it gives. -/
  | entryRows (s : Table.Statement)
  /-- Executes a statement for the numbers that it gives. -/
  | numbers (s : Table.Statement)
  /-- Executes a statement for the number of rows that it touches. -/
  | change (s : Table.Statement)
  | readText (path : String)
  | log (event : Log.Event)
  | freshId
  | now

/-- The reply to an exchange. A post with a limit is answered with nothing when no reply came in
time. -/
def Call.Reply : Call → Type
  | .post _ => Except Node.Trouble Node.Response
  | .postWithin _ _ => Option (Except Node.Trouble Node.Response)
  | .openKeys _ | .openTables _ => Except String Unit
  | .command _ => Lease.Reply
  | .ruleRows _ => Except Table.Refusal (List Table.RuleCells)
  | .entryRows _ => Except Table.Refusal (List Table.EntryCells)
  | .numbers _ => Except Table.Refusal (List (Option Int))
  | .change _ => Except Table.Refusal Nat
  | .readText _ => Except String String
  | .log _ => Unit
  | .freshId => RuleId
  | .now => Instant

def Call.signature : Signature := ⟨Call, Call.Reply⟩

end Wire

abbrev WirePlan (α : Type) : Type := Plan Wire.Call.signature α

namespace WirePlan

def ask (c : Wire.Call) : WirePlan c.Reply := .call c .done

def post (p : Node.Post) : WirePlan (Except Node.Trouble Node.Response) := ask (.post p)

def postWithin (p : Node.Post) (limitMs : Nat) :
    WirePlan (Option (Except Node.Trouble Node.Response)) := ask (.postWithin p limitMs)

def openKeys (server : Lease.Server) : WirePlan (Except String Unit) := ask (.openKeys server)

def command (c : Lease.Command) : WirePlan Lease.Reply := ask (.command c)

def openTables (server : Table.Server) : WirePlan (Except String Unit) :=
  ask (.openTables server)

def ruleRows (s : Table.Statement) : WirePlan (Except Table.Refusal (List Table.RuleCells)) :=
  ask (.ruleRows s)

def entryRows (s : Table.Statement) : WirePlan (Except Table.Refusal (List Table.EntryCells)) :=
  ask (.entryRows s)

def numbers (s : Table.Statement) : WirePlan (Except Table.Refusal (List (Option Int))) :=
  ask (.numbers s)

def change (s : Table.Statement) : WirePlan (Except Table.Refusal Nat) := ask (.change s)

def readText (path : String) : WirePlan (Except String String) := ask (.readText path)

def log (event : Log.Event) : WirePlan Unit := ask (.log event)

def freshId : WirePlan RuleId := ask .freshId

def now : WirePlan Instant := ask .now

end WirePlan

end PeerRules
