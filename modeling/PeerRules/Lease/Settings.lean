import PeerRules.Fault
import PeerRules.Text.Blank

/-!
# The terms of a lease

A lease is taken by a named holder, for a time, and its key has a front part in common with the
other keys of its kind.
-/
namespace PeerRules.Lease

/-- The terms on which leases are taken. -/
structure Settings where
  keyFront : String
  holder : String
  seconds : Nat
  deriving DecidableEq, Repr

namespace Settings

/-- Terms that can be kept (`RedisExecutionGuard.new`). -/
def make (keyFront holder : String) (seconds : Nat) : Except Fault Settings :=
  if Text.allBlank holder then
    .error (.validation "rule execution lease holder_id must not be empty")
  else if seconds = 0 then
    .error (.validation "rule execution lease_seconds must be greater than zero")
  else .ok ⟨keyFront, holder, seconds⟩

def key (s : Settings) (scope : String) : String := s.keyFront ++ ":" ++ scope

/-- The token made of an identifier that nothing else has. -/
def token (s : Settings) (fresh : String) : String := s.holder ++ ":" ++ fresh

end Settings

end PeerRules.Lease
