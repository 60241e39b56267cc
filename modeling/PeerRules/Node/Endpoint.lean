import PeerRules.Text.Base64
import PeerRules.Url.Parser

/-!
# Where the node is

A node is reached at an address of the web. Who has a user name at the node shows it with the
password in a header of every post. A login in the address serves as well.
-/
namespace PeerRules.Node

/-- User and password for the node (`NodeRpcCredentials`). -/
structure Credentials where
  user : String
  password : Option String
  deriving DecidableEq

/-- The value of the header that carries credentials. -/
def Credentials.header (c : Credentials) : String :=
  "Basic " ++ Text.Base64.ofText (c.user ++ ":" ++ c.password.getD "")

/-- The credentials that a login in an address spells. A password that is no text does not count. -/
def Credentials.ofLogin? (l : Url.Login) : Option Credentials := do
  let user ← (Url.unescapeText l.user).toOption
  let password := l.password.bind fun p => (Url.unescapeText p).toOption
  if user.isEmpty ∧ password.isNone then none else some ⟨user, password⟩

/-- Where the node is, and how to be let in. -/
structure Endpoint where
  url : String
  credentials : Option Credentials
  deriving DecidableEq

/-- A user without a password has an empty one. -/
example : Credentials.header ⟨"u", none⟩ = "Basic dTo=" := by decide +kernel

end PeerRules.Node
