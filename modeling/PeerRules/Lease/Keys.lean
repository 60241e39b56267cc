import PeerRules.Lease.Command

/-!
# The key server

The server holds one token under a key, until the key's time is up. Every command is one step. A
script must have been handed over before it can be called.

* `execute_claim_held`: a key that is there is granted to nobody.
-/
namespace PeerRules.Lease

/-- A token under a key, and when its time is up, in milliseconds of the server's clock. -/
structure Holding where
  key : String
  token : String
  endsAt : Nat
  deriving DecidableEq, Repr

/-- The server: its clock, in milliseconds, what it holds, and the scripts that it knows. -/
structure Keys where
  clock : Nat
  holdings : List Holding
  known : List Script
  deriving DecidableEq, Repr

namespace Keys

def empty : Keys := ⟨0, [], []⟩

/-- The holding of a key, while its time is not up. -/
def holding? (k : Keys) (key : String) : Option Holding :=
  k.holdings.find? fun h => h.key = key && k.clock < h.endsAt

def token? (k : Keys) (key : String) : Option String := (k.holding? key).map (·.token)

def advance (k : Keys) (ms : Nat) : Keys := { k with clock := k.clock + ms }

def drop (k : Keys) (key : String) : Keys :=
  { k with holdings := k.holdings.filter (·.key ≠ key) }

def put (k : Keys) (key token : String) (seconds : Nat) : Keys :=
  { k with holdings := ⟨key, token, k.clock + 1000 * seconds⟩ :: (k.drop key).holdings }

def unknownScript : Reply := .refused "NOSCRIPT" (some "No matching script.")

/-- Runs a known script: what it does when the token is under the key. -/
def call (k : Keys) (script : Script) (key token : String) (effect : Keys) : Reply × Keys :=
  if script ∈ k.known then
    if k.token? key = some token then (.int 1, effect) else (.int 0, k)
  else (unknownScript, k)

def execute (k : Keys) : Command → Reply × Keys
  | .claim key token seconds =>
    match k.token? key with
    | some _ => (.nothing, k)
    | none => (.status "OK", k.put key token seconds)
  | .renew key token seconds => k.call .renew key token (k.put key token seconds)
  | .release key token => k.call .release key token (k.drop key)
  | .load script => (.text script.digest, { k with known := script :: k.known })

theorem execute_claim_held {k : Keys} {key token other : String} {seconds : Nat}
    (h : k.token? key = some other) : k.execute (.claim key token seconds) = (.nothing, k) := by
  simp [execute, h]

end Keys

end PeerRules.Lease
