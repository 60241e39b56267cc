import PeerRules.Call

/-!
# The guard of one process

A scope has at most one holder. The holder is known by its token: a permit with another token
extends nothing and gives nothing back.
-/
namespace PeerRules

/-- The scopes that are held, with the tokens of their holders (`InProcessExecutionGuard`). -/
structure Guard where
  holders : List (String × String)

namespace Guard

def free : Guard := ⟨[]⟩

def holder? (g : Guard) (scope : String) : Option String :=
  (g.holders.find? (·.1 = scope)).map (·.2)

/-- Whether a permit is the one that its scope is held by (`InProcessExecutionGuard.renew`). -/
def owns (g : Guard) (p : Permit) : Bool := g.holder? p.scope = some p.token

/-- Grants a scope that is free, with a token that is used for nothing else
(`InProcessExecutionGuard.try_acquire`). -/
def acquire (g : Guard) (token scope : String) : Option Permit × Guard :=
  match g.holder? scope with
  | some _ => (none, g)
  | none => (some ⟨scope, token⟩, ⟨(scope, token) :: g.holders⟩)

/-- Takes a permit back (`InProcessExecutionGuard.release`). -/
def release (g : Guard) (p : Permit) : Guard :=
  if g.owns p then ⟨g.holders.filter (·.1 ≠ p.scope)⟩ else g

/-- How the guard answers a call. The tokens are given to it; calls that are not about permits are
answered by others, in any way. -/
def Answers (g : Guard) : (c : Call) → c.Reply → Guard → Prop
  | .acquire scope, reply, h =>
    ∃ token, reply = .ok (g.acquire token scope).1 ∧ h = (g.acquire token scope).2
  | .renew permit, reply, h => reply = .ok (g.owns permit) ∧ h = g
  | .release permit, reply, h => reply = .ok () ∧ h = g.release permit
  | _, _, h => h = g

end Guard

end PeerRules
