import PeerRules.Json.Reader
import PeerRules.RuleId.Parser
import PeerRules.Wire.Call

/-!
# Exchanges as documents

Exchanges can be written down: what is sent as a document, and the reply as another. A reply that is
left out has its usual value, and what a reply does not say is absent or empty.
-/
namespace PeerRules.Wire

open Json

/-! ## Documents in the database -/

/-- A document as the database keeps it: it is written and read once more. -/
def kept (v : Value) : Value := ((Reader.parse v.text).toOption).getD v

/-! ## What is sent -/

def ofPost (p : Node.Post) : Value :=
  .object [
    ("authorization", .ofText? p.authorization),
    ("body", p.body),
    ("contentType", .string Node.contentType),
    ("request", .string ("POST " ++ String.ofList p.address.target))]

def ofCommand (c : Lease.Command) : Value := .array (c.words.map .string)

/-- What stands at a place of a statement; a moment as milliseconds. -/
def ofParam : Table.Param → Value
  | .null => .null
  | .id id => .string id.text
  | .text s => .string s
  | .document v => kept v
  | .flag b => .bool b
  | .number n => .number (.int n)
  | .moment t => .number (.int t.millis)

def ofStatement (s : Table.Statement) : Value :=
  .object [("params", .array (s.params.map ofParam)), ("sql", .string s.sql)]

/-- A post in full, with where it goes. -/
def addressed (p : Node.Post) : List (String × Value) :=
  [("post", ofPost p), ("url", .string p.address.text)]

def ofPlace : Place → Value
  | .socket path => .object [("socket", .string path)]
  | .machine host number => .object [("host", .string host), ("number", .ofNat number)]

def ofKeyServer (s : Lease.Server) : Value :=
  .object [
    ("database", .number (.int s.database)),
    ("password", .ofText? s.password),
    ("place", ofPlace s.place),
    ("user", .ofText? s.user),
    ("version", .ofNat s.version.number)]

def ofTableServer (s : Table.Server) : Value :=
  .object [
    ("database", .ofText? s.database),
    ("password", .ofText? s.password),
    ("place", ofPlace s.place),
    ("secrecy", .string s.secrecy.name),
    ("user", .ofText? s.user)]

/-- What is sent in an exchange with another machine, and as the question for the time. -/
def sent? : Call → Option Value
  | .post p => some (.object (addressed p))
  | .postWithin p limitMs => some (.object (("limitMs", .ofNat limitMs) :: addressed p))
  | .openKeys server => some (.object [("openKeys", ofKeyServer server)])
  | .command c => some (.object [("command", ofCommand c)])
  | .openTables server => some (.object [("openTables", ofTableServer server)])
  | .ruleRows s | .entryRows s | .numbers s | .change s =>
    some (.object [("statement", ofStatement s)])
  | .now => some (.object [("now", .bool true)])
  | .readText _ | .log _ | .freshId => none

/-! ## What comes back -/

def text? (v : Value) (key : String) : Option String := (v.get? key).bind Value.text?

def textAt (v : Value) (key : String) : String := (text? v key).getD ""

def int? (v : Value) (key : String) : Option Int :=
  match v.get? key with
  | some (.number (.int n)) => if n ≤ Text.Numeral.maxSigned then some n else none
  | _ => none

def flag? (v : Value) (key : String) : Option Bool :=
  match v.get? key with
  | some (.bool b) => some b
  | _ => none

def isSet (v : Value) (key : String) : Bool := (flag? v key).getD false

def moment? (v : Value) (key : String) : Option Instant := (int? v key).map .mk

def id? (v : Value) (key : String) : Option RuleId :=
  (text? v key).bind fun s => (RuleId.ofText s).toOption

/-- The document at a key; one that is left out is `null`. -/
def keptAt (v : Value) (key : String) : Value := kept ((v.get? key).getD .null)

def usualBody : String := "\x7b\"result\":null,\"error\":null\x7d"

/-- A reply of the node when none is given. -/
def usualResponse : Node.Response := ⟨⟨200⟩, usualBody⟩

/-- A reply of the node. One that breaks off in its body is still whole when it has none. -/
def toResponse (v : Value) : Except Node.Trouble Node.Response :=
  let status : Node.Status := ⟨((v.get? "status").bind Value.natural?).getD 200⟩
  if isSet v "drop" || !status.isFinal then .error .unsent
  else if isSet v "truncate" && !status.hasNoBody then .error .unread
  else .ok ⟨status, (text? v "body").getD usualBody⟩

/-- A reply of the node that may have come too late. -/
def toTimelyResponse (v : Value) : Option (Except Node.Trouble Node.Response) :=
  if isSet v "late" then none else some (toResponse v)

def toOpened (v : Value) : Except String Unit :=
  match (v.get? "error").bind Value.text? with
  | some reason => .error reason
  | none => .ok ()

def toInstant : Value → Instant
  | .number (.int n) => ⟨n⟩
  | _ => ⟨0⟩

def firstLine : List Char → List Char
  | '\r' :: '\n' :: _ => []
  | c :: cs => c :: firstLine cs
  | [] => []

/-- A reply of the key server. A status and a refusal are lines. -/
def toKeyReply : Value → Lease.Reply
  | .number (.int n) => .ofInt n
  | .number _ => .garbled
  | .string s => .text s
  | .object ms =>
    match Members.find? "status" ms, Members.find? "error" ms with
    | some (.string s), _ => .status (String.ofList (firstLine s.toList))
    | _, some (.string s) => .ofRefusal (String.ofList (firstLine s.toList))
    | _, _ => .nothing
  | _ => .nothing

/-- A reply of the database, unless it is a refusal. -/
def toTableReply {α : Type} (read : Value → α) (v : Value) : Except Table.Refusal α :=
  match v.get? "error" with
  | some e => .error ⟨textAt e "code", textAt e "message"⟩
  | none => .ok (read v)

def rowsOf {α : Type} (row : Value → α) (v : Value) : List α :=
  (((v.get? "rows").bind Value.items?).getD []).map row

def toRuleCells (v : Value) : Table.RuleCells where
  id := id? v "id"
  name := text? v "name"
  description := text? v "description"
  conditions := some (keptAt v "conditions")
  actions := some (keptAt v "actions")
  isActive := flag? v "isActive"
  createdAt := moment? v "createdAtMs"
  updatedAt := moment? v "updatedAtMs"

def toEntryCells (v : Value) : Table.EntryCells where
  entryId := id? v "entryId"
  ruleId := id? v "ruleId"
  triggeredAt := moment? v "triggeredAtMs"
  peerSnapshot := some (keptAt v "snapshot")
  actionTaken := text? v "action"
  result := text? v "result"

def toRuleRows : Value → Except Table.Refusal (List Table.RuleCells) :=
  toTableReply (rowsOf toRuleCells)

def toEntryRows : Value → Except Table.Refusal (List Table.EntryCells) :=
  toTableReply (rowsOf toEntryCells)

def toNumbers : Value → Except Table.Refusal (List (Option Int)) :=
  toTableReply (rowsOf fun row => int? row "count")

def toChange : Value → Except Table.Refusal Nat :=
  toTableReply fun v => ((int? v "affected").getD 0).toNat

end PeerRules.Wire
