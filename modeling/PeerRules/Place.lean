/-!
# Where servers listen

A server listens at a number of a machine, or behind a socket, which is a file of its own machine.
-/
namespace PeerRules

/-- Where a server listens. -/
inductive Place where
  | socket (path : String)
  | machine (host : String) (number : Nat)
  deriving DecidableEq, Repr

end PeerRules
