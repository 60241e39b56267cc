import PeerRules.Fault
import PeerRules.Json.Printer
import PeerRules.Json.Shape
import PeerRules.Node.Endpoint
import PeerRules.Node.Status
import PeerRules.Text.Blank

/-!
# What is said between a worker and its node

The node offers procedures. A request names one and gives its arguments; it is posted as a document,
with the credentials in a header of their own. The answer is a document too, whatever its status: a
result, or an error with a number and a text.

* `answer_ok_iff`: only a success without an error has a result.
-/
namespace PeerRules.Node

open Json

/-- A procedure with its arguments. -/
structure Request where
  method : String
  params : List Value

namespace Request

def body (r : Request) : Value :=
  .object [
    ("id", .string "peerwarden"),
    ("jsonrpc", .string "1.0"),
    ("method", .string r.method),
    ("params", .array r.params)]

def listPeers : Request := ⟨"getpeerinfo", []⟩

def ban (host : String) (seconds : UInt64) : Request :=
  ⟨"setban", [.string host, .string "add", .ofNat seconds.toNat]⟩

def disconnect (id : Int) : Request := ⟨"disconnectnode", [.string "", .number (.int id)]⟩

end Request

/-- A request on its way: where to, the header for the credentials and the body. -/
structure Post where
  address : Url
  authorization : Option String
  body : Value

def contentType : String := "application/json"

/-- Whether the name of a host cannot stand in the head of a post. -/
def isUnfitForHead (c : Char) : Bool := c == '"' || c.toNat == 0x60 || c == '\x7b' || c == '\x7d'

def isPostable (u : Url) : Bool :=
  (u.scheme = "http" || u.scheme = "https")
    && u.host?.any fun host => !host.text.toList.any isUnfitForHead

/-- An address without a login that spells credentials, and these. -/
def shown (u : Url) : Url × Option Credentials :=
  match u.login?.bind Credentials.ofLogin? with
  | some c => (u.withoutLogin, some c)
  | none => (u, none)

/-- The post that carries a request, or why an endpoint cannot be posted to. The credentials of the
endpoint go before those in its address. -/
def Request.post (e : Endpoint) (r : Request) : Except String Post :=
  match Url.parse e.url with
  | .error _ => .error "builder error"
  | .ok u =>
    let (address, credentials) := shown u
    if isPostable address then
      .ok ⟨address, (e.credentials <|> credentials).map Credentials.header, r.body⟩
    else .error ("builder error for url (" ++ address.text ++ ")")

/-- A reply: its status and its text. -/
structure Response where
  status : Status
  body : String
  deriving DecidableEq, Repr

/-- Why there is no reply. -/
inductive Trouble where
  /-- The request did not get through, or nothing came back. -/
  | unsent
  /-- The reply broke off in its body. -/
  | unread
  deriving DecidableEq, Repr

def Request.fault (r : Request) (text : String) : Fault :=
  .internal ("node RPC '" ++ r.method ++ "' " ++ text)

def Request.troubled (r : Request) (p : Post) : Trouble → Fault
  | .unsent => r.fault ("transport error: error sending request for url (" ++ p.address.text ++ ")")
  | .unread =>
    .internal ("failed to read node RPC '" ++ r.method
      ++ "' response: error decoding response body for url (" ++ p.address.text ++ ")")

/-- An error that the node answers with. -/
structure Complaint where
  code : Int
  message : String
  deriving DecidableEq, Repr

/-- What a document says that the node answered with. -/
structure Answer where
  result : Value
  complaint : Option Complaint

namespace Answer

def complaintShape : Shape :=
  .record "Complaint" [⟨"code", .signed, false, false⟩, ⟨"message", .text, false, false⟩]

def shape : Shape :=
  .record "Answer" [⟨"result", .any, false, false⟩, ⟨"error", complaintShape, false, true⟩]

def complaintOf (v : Value) : Complaint where
  code := match v.get? "code" with
    | some (.number (.int n)) => n
    | _ => 0
  message := ((v.get? "message").bind Value.text?).getD ""

/-- The answer that a document of the shape holds; what is left out has its usual value. -/
def ofNormal (v : Value) : Answer where
  result := (v.get? "result").getD .null
  complaint := match v.get? "error" with
    | none | some .null => none
    | some w => some (complaintOf w)

def read? (text : String) : Option Answer := (shape.parse text).toOption.map ofNormal

end Answer

/-- The text that a reply is read as: a mark of the order of bytes in front does not belong to it,
and some replies have none. -/
def Response.text (r : Response) : String :=
  if r.status.hasNoBody then ""
  else
    match r.body.toList with
    | c :: cs => if c.toNat = 0xFEFF then String.ofList cs else r.body
    | [] => ""

/-- The result of a request, given its reply (`parse_rpc_response`). -/
def Request.answer (r : Request) (reply : Response) : Except Fault Value :=
  match Answer.read? reply.text with
  | none =>
    .error (r.fault ("failed with status " ++ reply.status.text ++ ": " ++ Text.trim reply.text))
  | some ⟨result, none⟩ =>
    if reply.status.isSuccess then .ok result
    else .error (r.fault ("failed with status " ++ reply.status.text))
  | some ⟨_, some c⟩ =>
    .error (r.fault ("error " ++ toString c.code ++ ": " ++ c.message))

theorem answer_ok_iff {r : Request} {reply : Response} {v : Value} :
    r.answer reply = .ok v ↔
      reply.status.isSuccess = true ∧ Answer.read? reply.text = some ⟨v, none⟩ := by
  unfold Request.answer
  split
  · next h => simp [h]
  · next result h =>
    split
    · next hs => simp [h, hs]
    · next hs => simp [hs]
  · next h => simp [h]

end PeerRules.Node
