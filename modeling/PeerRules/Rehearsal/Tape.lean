import PeerRules.Rehearsal.World
import PeerRules.Wire.Document

/-!
# Tapes: exchanges answered in turn

A tape holds the replies that the node, the key server and the database give, each in turn, and
keeps what they were sent. A script that is handed over is answered without a reply from the tape.
When the replies run out, the usual ones follow.
-/
namespace PeerRules.Rehearsal

open Json

/-- The replies that are left, and what was sent. -/
structure Tape where
  nodeReplies : List Value
  keyReplies : List Value
  tableReplies : List Value
  /-- Where the key server listens, if it does. -/
  keySocket : Option String
  /-- Where the database listens. -/
  tableSocket : String
  /-- The files there are. -/
  files : List (String × String)
  posts : List Node.Post
  commands : List Lease.Command
  statements : List Table.Statement
  log : List Log.Event
  /-- How many identifiers have been drawn. -/
  drawn : Nat
  /-- The last reading of the calendar clock. -/
  calendar : Instant

namespace Tape

def keySocketPath : String := "/keys.sock"

def tableSocketPath : String := "/tables/.s.PGSQL.5432"

def start (nodeReplies keyReplies tableReplies : List Value) : Tape where
  nodeReplies
  keyReplies
  tableReplies
  keySocket := some keySocketPath
  tableSocket := tableSocketPath
  files := []
  posts := []
  commands := []
  statements := []
  log := []
  drawn := 0
  calendar := ⟨1750000000000⟩

/-- What is said of a machine at which nobody listens. -/
def nobody : String := "Connection refused (os error 111)"

/-- Connects with the key server, if it is behind that socket. No other machine has one. -/
def openedKeys (t : Tape) (s : Lease.Server) : Except String Unit :=
  match s.place with
  | .socket path => if t.keySocket = some path then .ok () else .error World.noFile
  | .machine _ _ => .error nobody

/-- Connects with the database, which offers no secrecy. Another machine is asked until time is
up. -/
def openedTables (t : Tape) (s : Table.Server) : Except String Unit :=
  match s.place with
  | .socket path =>
    if path ≠ t.tableSocket then .error ("error communicating with database: " ++ World.noFile)
    else if s.secrecy.isRequired then
      .error ("error occurred while attempting to establish a TLS connection: "
        ++ "server does not support TLS")
    else .ok ()
  | .machine _ _ => .error "pool timed out while waiting for an open connection"

/-- The next reply of the node, which cannot be reached in secret. -/
def post (t : Tape) (p : Node.Post) : Except Node.Trouble Node.Response × Tape :=
  if p.address.scheme ≠ "http" then (.error .unsent, t)
  else
    let t := { t with posts := t.posts ++ [p] }
    match t.nodeReplies with
    | [] => (.ok Wire.usualResponse, t)
    | v :: rest => (Wire.toResponse v, { t with nodeReplies := rest })

def command (t : Tape) (c : Lease.Command) : Lease.Reply × Tape :=
  let t := { t with commands := t.commands ++ [c] }
  match c, t.keyReplies with
  | .load script, _ => (.text script.digest, t)
  | _, [] => (.nothing, t)
  | _, v :: rest => (Wire.toKeyReply v, { t with keyReplies := rest })

def statement {α : Type} (t : Tape) (s : Table.Statement) (read : Value → α) : α × Tape :=
  let t := { t with statements := t.statements ++ [s] }
  match t.tableReplies with
  | [] => (read .null, t)
  | v :: rest => (read v, { t with tableReplies := rest })

def reply : (c : Wire.Call) → StateM Tape c.Reply
  | .post p => fun t => t.post p
  | .postWithin p _ => fun t =>
    let (r, t) := t.post p
    (some r, t)
  | .openKeys server => fun t => (t.openedKeys server, t)
  | .command c => fun t => t.command c
  | .openTables server => fun t => (t.openedTables server, t)
  | .ruleRows s => fun t => t.statement s Wire.toRuleRows
  | .entryRows s => fun t => t.statement s Wire.toEntryRows
  | .numbers s => fun t => t.statement s Wire.toNumbers
  | .change s => fun t => t.statement s Wire.toChange
  | .readText path => fun t =>
    (((t.files.find? (·.1 = path)).map (·.2)).elim (.error World.noFile) .ok, t)
  | .log e => fun t => ((), { t with log := t.log ++ [e] })
  | .freshId => fun t => (World.drawnId t.drawn, { t with drawn := t.drawn + 1 })
  | .now => fun t =>
    let now : Instant := ⟨t.calendar.millis + 1⟩
    (now, { t with calendar := now })

def play {α : Type} (t : Tape) (p : WirePlan α) : α × Tape := (p.answer reply).run t

def identifiers (t : Tape) : List RuleId := (List.range t.drawn).map World.drawnId

end Tape

end PeerRules.Rehearsal
