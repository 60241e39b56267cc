import PeerRules.Fault
import PeerRules.Lease.Digest
import PeerRules.Text.Numeral
import PeerRules.Text.Quoted

/-!
# What is said between a worker and the key server

A lease is a key of the server with the holder's token under it, which the server drops after a
time. The key is claimed by one command. It is renewed and released by scripts, which look at the
token first; a script is called by its digest, and handed over when the server does not know it.
-/
namespace PeerRules.Lease

/-- A script that the server runs as one step. -/
inductive Script where
  | renew
  | release
  deriving DecidableEq, Repr

namespace Script

def effect : Script → String
  | .renew => "return redis.call('EXPIRE', KEYS[1], ARGV[2])"
  | .release => "return redis.call('DEL', KEYS[1])"

def text (s : Script) : String :=
  "\nif redis.call('GET', KEYS[1]) == ARGV[1] then\n  " ++ s.effect ++ "\nelse\n  return 0\nend\n"

/-- The digest by which a script is called. -/
def digest (s : Script) : String := Digest.ofText s.text

end Script

/-- A command. -/
inductive Command where
  /-- Puts the token under the key, if nothing is there, for a number of seconds. -/
  | claim (key token : String) (seconds : Nat)
  /-- Keeps the token under the key for a number of seconds from now, if it is there. -/
  | renew (key token : String) (seconds : Nat)
  /-- Takes the token away, if it is there. -/
  | release (key token : String)
  /-- Hands a script over. -/
  | load (script : Script)
  deriving DecidableEq, Repr

namespace Command

def words : Command → List String
  | .claim key token seconds => ["SET", key, token, "NX", "EX", toString seconds]
  | .renew key token seconds =>
    ["EVALSHA", Script.renew.digest, "1", key, token, toString seconds]
  | .release key token => ["EVALSHA", Script.release.digest, "1", key, token]
  | .load script => ["SCRIPT", "LOAD", script.text]

def script? : Command → Option Script
  | .renew .. => some .renew
  | .release .. => some .release
  | .claim .. | .load _ => none

end Command

/-- A reply of the server. -/
inductive Reply where
  | nothing
  | int (n : Int)
  | text (s : String)
  | status (s : String)
  /-- A code and what else is said. -/
  | refused (code : String) (detail : Option String)
  /-- An integer that is none, or has more than 64 bits. -/
  | garbled
  deriving DecidableEq, Repr

namespace Reply

/-- The codes that have a name of their own. -/
def codes : List (String × String) := [
  ("ERR", "ResponseError"), ("EXECABORT", "ExecAbort"), ("LOADING", "BusyLoading"),
  ("NOSCRIPT", "NoScript"), ("MOVED", "Moved"), ("ASK", "Ask"), ("TRYAGAIN", "TryAgain"),
  ("CLUSTERDOWN", "ClusterDown"), ("CROSSSLOT", "CrossSlot"), ("MASTERDOWN", "MasterDown"),
  ("READONLY", "ReadOnly"), ("NOTBUSY", "NotBusy"), ("NOSUB", "NoSub"), ("NOPERM", "NoPerm")]

/-- How a code is written in a message: by its name, or quoted. -/
def codeText (code : String) : String :=
  ((codes.find? (·.1 = code)).map (·.2)).getD (Text.Quoted.quote code)

/-- The reply that a line of refusal is: its first word is the code. -/
def ofRefusal (line : String) : Reply :=
  let code := line.toList.takeWhile (· ≠ ' ')
  match line.toList.dropWhile (· ≠ ' ') with
  | [] => .refused (String.ofList code) none
  | _ :: detail => .refused (String.ofList code) (some (String.ofList detail))

def refusalText (code : String) (detail : Option String) : String :=
  codeText code ++ (detail.map (": " ++ ·)).getD ""

def mistyped (what found : String) : String :=
  "Incompatible type - " ++ Text.Quoted.quote what ++ " (value was " ++ found ++ ")"

/-- Nothing can be counted in such a reply. -/
def notNumeric : String := "Response type not convertible to numeric."

def garbledText : String :=
  "Incompatible type - Parse error at 1\nExpected integer, got garbage\n"

def ofInt (n : Int) : Reply :=
  if -0x8000_0000_0000_0000 ≤ n ∧ n < 0x8000_0000_0000_0000 then .int n else .garbled

def notNumber : String := "Could not convert from string."

/-- An integer cut to 32 bits, the highest of which is the sign. -/
def cut (n : Int) : Int := Int.bmod n 0x1_0000_0000

/-- The number of 32 bits that a text is. -/
def parse? (s : String) : Option Int :=
  match (Text.Numeral.signed? s.toList).toOption with
  | some n => if -0x8000_0000 ≤ n ∧ n < 0x8000_0000 then some n else none
  | none => none

def number : Reply → Except String Int
  | .int n => .ok (cut n)
  | .text s =>
    match parse? s with
    | some n => .ok n
    | none => .error (mistyped notNumber ("bulk-string('" ++ Text.Quoted.quote s ++ "')"))
  | .status s =>
    if s = "OK" then .error (mistyped notNumeric "ok")
    else
      match parse? s with
      | some n => .ok n
      | none => .error (mistyped notNumber ("simple-string(" ++ Text.Quoted.quote s ++ ")"))
  | .nothing => .error (mistyped notNumeric "nil")
  | .refused code detail => .error (refusalText code detail)
  | .garbled => .error garbledText

def granted : Reply → Except String Bool
  | .nothing => .ok false
  | .refused code detail => .error (refusalText code detail)
  | .garbled => .error garbledText
  | .int _ | .text _ | .status _ => .ok true

end Reply

end PeerRules.Lease
