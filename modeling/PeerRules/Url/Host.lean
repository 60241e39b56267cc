import PeerRules.Url.Domain
import PeerRules.Url.Ipv4
import PeerRules.Url.Ipv6

/-!
# Hosts

A host is a name or a number. In the addresses of the web a name is brought to ASCII, and a name
that looks like a number is one. In other addresses a name is kept as it is.
-/
namespace PeerRules

namespace Url

open Text

/-- Why a text is no address. -/
inductive Refusal where
  /-- It has no scheme, so it means something only beside another address. -/
  | noScheme
  | emptyHost
  /-- A name that cannot be brought to ASCII. -/
  | badName
  | badPort
  | badIpv4
  | badIpv6
  /-- A character that cannot stand in the name of a host. -/
  | badCharacter
  deriving DecidableEq, Repr

def Refusal.message : Refusal → String
  | .noScheme => "relative URL without a base"
  | .emptyHost => "empty host"
  | .badName => "invalid international domain name"
  | .badPort => "invalid port number"
  | .badIpv4 => "invalid IPv4 address"
  | .badIpv6 => "invalid IPv6 address"
  | .badCharacter => "invalid domain character"

/-- A host. -/
inductive Host where
  | name (s : String)
  | ipv4 (n : Nat)
  | ipv6 (words : List Nat)
  deriving DecidableEq, Repr

namespace Host

def bare : Host → String
  | .name s => s
  | .ipv4 n => Ipv4.text n
  | .ipv6 ws => Ipv6.text ws

def text : Host → String
  | .ipv6 ws => "[" ++ Ipv6.text ws ++ "]"
  | h => h.bare

/-- The host in brackets, of which the first has been read. -/
def ofBrackets (cs : List Char) : Except Refusal Host :=
  match cs.reverse with
  | ']' :: inside =>
    match Ipv6.parse? inside.reverse with
    | some ws => .ok (.ipv6 ws)
    | none => .error .badIpv6
  | _ => .error .badIpv6

def ofAscii (cs : List Char) : Except Refusal Host :=
  if cs.isEmpty then .error .emptyHost
  else if Ipv4.isNumeric cs then
    match Ipv4.parse? cs with
    | some n => .ok (.ipv4 n)
    | none => .error .badIpv4
  else .ok (.name (String.ofList cs))

/-- A host of the web. -/
def ofWeb (cs : List Char) : Except Refusal Host :=
  match cs with
  | '[' :: rest => ofBrackets rest
  | cs =>
    match (Utf8.decode (unescape cs)).toOption.bind Domain.toAscii? with
    | some ascii => ofAscii ascii
    | none => .error .badName

/-- Whether a character cannot stand in a name that is kept as it is. -/
def isUnfit (c : Char) : Bool :=
  [0x0, 0x9, 0xA, 0xD, 0x20].contains c.toNat
    || ['#', '/', ':', '<', '>', '?', '@', '[', '\\', ']', '^', '|'].contains c

/-- A host of an address that is not of the web; nothing when the text is empty. -/
def ofOpaque (cs : List Char) : Except Refusal (Option Host) :=
  match cs with
  | [] => .ok none
  | '[' :: rest => (ofBrackets rest).map some
  | cs =>
    if cs.any isUnfit then .error .badCharacter
    else .ok (some (.name (String.ofList (escape escapedAnywhere cs))))

end Host

end Url

end PeerRules
