import PeerRules.Url.Host

/-!
# Addresses of services

An address has a scheme, which says how the service is spoken with. Most have an authority: the
machine, the number at which it listens, and who asks. The rest says what is asked for.
-/
namespace PeerRules

/-- Who asks: a name and a password, both as they stand in an address. -/
structure Url.Login where
  user : List Char
  password : Option (List Char)
  deriving DecidableEq, Repr

/-- Which machine is asked, at which number, and who asks. A number that is usual for the scheme is
left out. -/
structure Url.Authority where
  login : Option Url.Login
  host : Option Url.Host
  number : Option Nat
  deriving DecidableEq, Repr

/-- An address. All its parts are escaped. -/
structure Url where
  scheme : String
  authority : Option Url.Authority
  path : List Char
  query : Option (List Char)
  fragment : Option (List Char)
  deriving DecidableEq, Repr

namespace Url

/-! ## As text -/

/-- A login in front of its machine. -/
def Login.chars (l : Login) : List Char :=
  l.user ++ (l.password.elim [] (':' :: ·)) ++ ['@']

/-- An authority behind its two slashes. -/
def Authority.chars (a : Authority) : List Char :=
  (a.login.elim [] Login.chars) ++ (a.host.elim [] (·.text.toList))
    ++ (a.number.elim [] fun n => ':' :: (toString n).toList)

def target (u : Url) : List Char := u.path ++ u.query.elim [] ('?' :: ·)

/-- What stands between the scheme and the path. A path with two slashes is kept apart from what
would be an authority. -/
def front (u : Url) : List Char :=
  match u.authority, u.path with
  | some a, _ => '/' :: '/' :: a.chars
  | none, '/' :: '/' :: _ => ['/', '.']
  | none, _ => []

def text (u : Url) : String :=
  u.scheme ++ ":" ++ String.ofList (u.front ++ u.target ++ u.fragment.elim [] ('#' :: ·))

/-! ## Parts -/

def host? (u : Url) : Option Host := u.authority.bind (·.host)

def number? (u : Url) : Option Nat := u.authority.bind (·.number)

def login? (u : Url) : Option Login := u.authority.bind (·.login)

def user (u : Url) : List Char := u.login?.elim [] (·.user)

def password? (u : Url) : Option (List Char) := u.login?.bind (·.password)

/-- The address without its login. -/
def withoutLogin (u : Url) : Url :=
  { u with authority := u.authority.map fun a => { a with login := none } }

/-! ## Queries -/

/-- A part of a query as text: a plus stands for a blank, and bytes that are no text for a mark. -/
def queryText (cs : List Char) : String :=
  String.ofList (Text.Utf8.lossy (unescape (cs.map fun c => if c = '+' then ' ' else c)))

def member (cs : List Char) : String × String :=
  (queryText (cs.takeWhile (· ≠ '=')), queryText ((cs.dropWhile (· ≠ '=')).drop 1))

def members (u : Url) : List (String × String) :=
  (((u.query.getD []).splitOn '&').filter (!·.isEmpty)).map member

def lastMember? (u : Url) (name : String) : Option String :=
  (u.members.reverse.find? (·.1 = name)).map (·.2)

end Url

end PeerRules
