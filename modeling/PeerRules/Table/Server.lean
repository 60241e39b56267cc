import PeerRules.Place
import PeerRules.Text.Numeral
import PeerRules.Text.Quoted
import PeerRules.Url.Parser

/-!
# Databases

The address of a database says where its server listens, who asks and for which database; the
members of the query say the same and more, and the last one counts. A server can be behind a
socket, which is then in a directory that was given and is named for the number of the server.
-/
namespace PeerRules.Table

/-- Whether a conversation with the database is kept secret. -/
inductive Secrecy where
  | disable
  | allow
  | prefer
  | require
  | verifyCa
  | verifyFull
  deriving DecidableEq, Repr

namespace Secrecy

def all : List Secrecy := [.disable, .allow, .prefer, .require, .verifyCa, .verifyFull]

def name : Secrecy → String
  | .disable => "disable"
  | .allow => "allow"
  | .prefer => "prefer"
  | .require => "require"
  | .verifyCa => "verify-ca"
  | .verifyFull => "verify-full"

/-- The choice with a name, in letters of any size. -/
def ofName? (s : String) : Option Secrecy :=
  let letters := String.ofList (s.toList.map Char.toLower)
  all.find? (·.name = letters)

def isRequired : Secrecy → Bool
  | .disable | .allow | .prefer => false
  | .require | .verifyCa | .verifyFull => true

end Secrecy

/-- A database, and as whom it is asked. What is not given has its usual value. -/
structure Server where
  host : String
  number : Nat
  /-- The directory of the socket, if the server is behind one. -/
  directory : Option String
  user : Option String
  password : Option String
  database : Option String
  secrecy : Secrecy
  deriving DecidableEq, Repr

namespace Server

def usual : Server := ⟨"localhost", 5432, none, none, none, none, .prefer⟩

def place (s : Server) : Place :=
  match s.directory with
  | some d => .socket (d ++ "/.s.PGSQL." ++ toString s.number)
  | none =>
    if s.host.toList.head? = some '/' then
      .socket (s.host ++ "/.s.PGSQL." ++ toString s.number)
    else .machine s.host s.number

/-- Why there is no database at an address. -/
inductive Refusal where
  | notUrl (r : Url.Refusal)
  /-- A part is no text. -/
  | notText (r : Text.Utf8.Refusal)
  | badNumber (r : Text.Numeral.Refusal)
  | badIp
  | badSecrecy (given : String)
  deriving DecidableEq, Repr

def label : String := "error with configuration: "

def Refusal.message : Refusal → String
  | .notUrl r => label ++ r.message
  | .notText r => label ++ r.message
  | .badNumber r => label ++ r.message
  | .badIp => label ++ "invalid IP address syntax"
  | .badSecrecy given =>
    label ++ label ++ "unknown value " ++ Text.Quoted.quote given ++ " for \x60ssl_mode\x60"

def unescaped (cs : List Char) : Except Refusal (Option String) :=
  if cs.isEmpty then .ok none else ((Url.unescapeText cs).mapError .notText).map some

/-- A server with a host, which is a directory when it begins with a slash. -/
def withHost (s : Server) (host : String) : Server :=
  if host.toList.head? = some '/' then { s with directory := some host } else { s with host }

/-- A server with the host of an address: escapes are read in a directory only. -/
def withHostOf (s : Server) (host : Url.Host) : Except Refusal Server :=
  match Url.unescape host.text.toList with
  | 0x2F :: _ => ((Url.unescapeText host.text.toList).mapError .notText).map s.withHost
  | _ => .ok { s with host := host.text }

def maxNumber : Nat := 65535

def numberOf (limit : Nat) (text : String) : Except Refusal Nat :=
  match text.toList with
  | [] => .error (.badNumber .empty)
  | '+' :: cs => (Text.Numeral.digits limit .tooLarge cs).mapError .badNumber
  | cs => (Text.Numeral.digits limit .tooLarge cs).mapError .badNumber

/-- Whether a text is the number of a machine. -/
def isIp (text : String) : Bool :=
  (Url.Ipv6.parse? text.toList).isSome || (Url.Ipv6.bytes? text.toList).isSome

/-- A server with a member of the query. Members that are not known are passed over. -/
def withMember (s : Server) (m : String × String) : Except Refusal Server :=
  match m with
  | ("sslmode", v) | ("ssl-mode", v) =>
    match Secrecy.ofName? v with
    | some secrecy => .ok { s with secrecy }
    | none => .error (.badSecrecy v)
  | ("statement-cache-capacity", v) => (numberOf Text.Numeral.maxUnsigned v).map fun _ => s
  | ("host", v) => .ok (s.withHost v)
  | ("hostaddr", v) => if isIp v then .ok { s with host := v } else .error .badIp
  | ("port", v) => (numberOf maxNumber v).map fun number => { s with number }
  | ("dbname", v) => .ok { s with database := some v }
  | ("user", v) => .ok { s with user := some v }
  | ("password", v) => .ok { s with password := some v }
  | _ => .ok s

def ofUrl (u : Url) : Except Refusal Server := do
  let s ← u.host?.elim (pure usual) usual.withHostOf
  let user ← unescaped u.user
  let password ← u.password?.elim (pure none) unescaped
  let database ← unescaped (u.path.dropWhile (· = '/'))
  let s := { s with number := u.number?.getD s.number, user, password, database }
  u.members.foldlM withMember s

def ofText (s : String) : Except Refusal Server :=
  match Url.parse s with
  | .ok u => ofUrl u
  | .error r => .error (.notUrl r)

/-- A socket in a directory. -/
example : (ofText "postgres:///peers?host=/run").toOption.map place =
    some (.socket "/run/.s.PGSQL.5432") := by decide +kernel

end Server

end PeerRules.Table
