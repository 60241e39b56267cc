import PeerRules.Place
import PeerRules.Text.Numeral
import PeerRules.Url.Parser

/-!
# Key servers

The address of a key server says where it listens, who asks, in which of its databases the keys are,
and in which version it is spoken with. A server of another machine has the database in the path and
the user in front of the host; behind a socket the path is the socket's, and all else is in the
query.
-/
namespace PeerRules.Lease

/-- The version of the language that is spoken with a key server. -/
inductive Version where
  | two
  | three
  deriving DecidableEq, Repr

def Version.number : Version → Nat
  | .two => 2
  | .three => 3

/-- A key server, and as whom it is asked. -/
structure Server where
  place : Place
  user : Option String
  password : Option String
  database : Int
  version : Version
  deriving DecidableEq, Repr

namespace Server

/-- Why there is no server at an address. -/
inductive Refusal where
  /-- It is no address of a key server. -/
  | unreadable
  | noHost
  /-- The address of no machine in particular. -/
  | anyHost
  /-- Secret conversations are not offered. -/
  | secret
  | badDatabase
  | badUser
  | badPassword
  | noSocket
  | badVersion (given : String)
  deriving DecidableEq, Repr

def Refusal.subject : Refusal → String
  | .unreadable => "Redis URL did not parse"
  | .noHost => "Missing hostname"
  | .anyHost => "Cannot connect to a wildcard address (0.0.0.0 or ::)"
  | .secret => "can't connect with TLS, the feature is not enabled"
  | .badDatabase => "Invalid database number"
  | .badUser => "Username is not valid UTF-8 string"
  | .badPassword => "Password is not valid UTF-8 string"
  | .noSocket => "Missing path"
  | .badVersion _ => "Invalid protocol version"

def Refusal.message (r : Refusal) : String :=
  r.subject ++ " - InvalidClientConfig" ++
    match r with
    | .badVersion given => ": " ++ given
    | _ => ""

/-- The number at which key servers listen. -/
def usualNumber : Nat := 6379

/-- The schemes of servers of other machines; the second two ask for secrecy. -/
def machineSchemes : List String := ["redis", "valkey", "rediss", "valkeys"]

def secretSchemes : List String := ["rediss", "valkeys"]

def socketSchemes : List String := ["redis+unix", "valkey+unix", "unix"]

def machineOf (u : Url) : Except Refusal Place :=
  match u.host? with
  | none => .error .noHost
  | some host =>
    if host.bare = "0.0.0.0" ∨ host.bare = "::" then .error .anyHost
    else if secretSchemes.contains u.scheme then .error .secret
    else .ok (.machine host.bare (u.number?.getD usualNumber))

def databaseOf (cs : List Char) : Except Refusal Int :=
  (Text.Numeral.signed? cs).mapError fun _ => .badDatabase

def trimSlashes (cs : List Char) : List Char :=
  ((cs.dropWhile (· = '/')).reverse.dropWhile (· = '/')).reverse

/-- The number of the database in a path; the first one when there is none. -/
def databaseInPath (u : Url) : Except Refusal Int :=
  match trimSlashes u.path with
  | [] => .ok 0
  | cs => databaseOf cs

def unescaped (r : Refusal) (cs : List Char) : Except Refusal String :=
  (Url.unescapeText cs).mapError fun _ => r

/-- The version that an address asks for. -/
def versionOf (u : Url) : Except Refusal Version :=
  match u.lastMember? "protocol" with
  | none => .ok .two
  | some s =>
    if s = "2" ∨ s = "resp2" then .ok .two
    else if s = "3" ∨ s = "resp3" then .ok .three
    else .error (.badVersion s)

def onMachine (u : Url) : Except Refusal Server := do
  let place ← machineOf u
  let database ← databaseInPath u
  let user ← if u.user.isEmpty then pure none else (unescaped .badUser u.user).map some
  let password ← u.password?.mapM (unescaped .badPassword)
  let version ← versionOf u
  pure ⟨place, user, password, database, version⟩

/-- The socket that the path of an address is: one of this machine. -/
def socketOf (u : Url) : Except Refusal Place :=
  if u.path.head? = some '/' ∧ u.host?.all (· = .name "localhost") then
    .ok (.socket (String.ofList (Text.Utf8.lossy (Url.unescape u.path))))
  else .error .noSocket

def behindSocket (u : Url) : Except Refusal Server := do
  let place ← socketOf u
  let database ← (u.lastMember? "db").elim (pure 0) fun s => databaseOf s.toList
  let version ← versionOf u
  pure ⟨place, u.lastMember? "user", u.lastMember? "pass", database, version⟩

def ofUrl (u : Url) : Except Refusal Server :=
  if machineSchemes.contains u.scheme then onMachine u
  else if socketSchemes.contains u.scheme then behindSocket u
  else .error .unreadable

def ofText (s : String) : Except Refusal Server :=
  match Url.parse s with
  | .ok u => ofUrl u
  | .error _ => .error .unreadable

/-- A socket with a database. -/
example : (ofText "unix:///run/keys?db=2").toOption =
    some ⟨.socket "/run/keys", none, none, 2, .two⟩ := by decide +kernel

end Server

end PeerRules.Lease
