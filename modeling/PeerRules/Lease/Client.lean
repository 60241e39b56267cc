import PeerRules.Lease.Settings
import PeerRules.Wire.Call

/-!
# Speaking with the key server

A permit is a key that was claimed. Renewing and releasing call a script, which is handed over first
when the server does not know it; the call is repeated once.

* `acquire_blank`: a scope that says nothing is refused, and nothing is sent.
-/
namespace PeerRules.Lease

open WirePlan

/-- The server that keeps the leases, and the terms on which they are taken (`RedisExecutionGuard`).
-/
structure Client where
  server : Server
  terms : Settings
  deriving DecidableEq, Repr

namespace Client

def unreachable (reason : String) : Fault := .internal ("failed to connect to redis: " ++ reason)

def failedTo (what reason : String) : Fault :=
  .internal ("failed to " ++ what ++ " rule execution lease: " ++ reason)

/-- Claims the key of a scope (`RedisExecutionGuard.try_acquire`). -/
def acquire (l : Client) (scope : String) : WirePlan (Except Fault (Option Permit)) := do
  if Text.allBlank scope then
    return .error (.validation "rule execution lease scope_key must not be empty")
  else
    let fresh ← freshId
    let token := l.terms.token fresh.text
    match ← openKeys l.server with
    | .error reason => return .error (unreachable reason)
    | .ok () =>
      let reply ← command (.claim (l.terms.key scope) token l.terms.seconds)
      match reply.granted with
      | .error reason => return .error (failedTo "acquire" reason)
      | .ok false => return .ok none
      | .ok true => return .ok (some ⟨scope, token⟩)

def isUnknownScript : Reply → Bool
  | .refused code _ => code = "NOSCRIPT"
  | _ => false

/-- Calls a script by its command, and hands the script over if need be. -/
def run (c : Command) : WirePlan Reply := do
  let reply ← command c
  match isUnknownScript reply, c.script? with
  | true, some script => do
    match ← command (.load script) with
    | .refused code detail => return .refused code detail
    | .garbled => return .garbled
    | _ => command c
  | _, _ => return reply

/-- Connects, and calls a script for its number. -/
def number (l : Client) (what : String) (c : Command) : WirePlan (Except Fault Int) := do
  match ← openKeys l.server with
  | .error reason => return .error (unreachable reason)
  | .ok () => return (← run c).number.mapError (failedTo what)

/-- Extends a permit (`RedisExecutionGuard.renew`); false once the key has another token, or none.
-/
def renew (l : Client) (p : Permit) : WirePlan (Except Fault Bool) := do
  let n ← l.number "renew" (.renew (l.terms.key p.scope) p.token l.terms.seconds)
  return n.map fun n => 0 < n

/-- Gives a permit back (`RedisExecutionGuard.release`). -/
def release (l : Client) (p : Permit) : WirePlan (Except Fault Unit) := do
  let n ← l.number "release" (.release (l.terms.key p.scope) p.token)
  return n.map fun _ => ()

theorem acquire_blank {l : Client} {scope : String} (h : Text.allBlank scope = true) :
    l.acquire scope =
      .done (.error (.validation "rule execution lease scope_key must not be empty")) := by
  simp [acquire, h]

end Client

end PeerRules.Lease
