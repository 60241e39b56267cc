import PeerRules.Lease.Client
import PeerRules.Lease.Keys
import PeerRules.Party

/-!
# Leases of a shared key server

The key server answers commands as `Keys` says, and time passes for it between them. A worker that
takes its permits as leases makes its calls about permits out of exchanges with the server, so the
server is a party to those calls, too.

* `serves_command`: a command has the reply and the effect that `Keys.execute` gives it.
-/
namespace PeerRules.Lease

namespace Keys

/-- How the key server answers an exchange. Exchanges with others, and attempts to connect, have any
reply. -/
def Answers (k : Keys) : (c : Wire.Call) → c.Reply → Keys → Prop
  | .command c, reply, l => reply = (k.execute c).1 ∧ l = (k.execute c).2
  | _, _, l => l = k

def Passes (k l : Keys) : Prop := ∃ ms, l = k.advance ms

/-- The key server as a party to exchanges. -/
def party : Party Wire.Call.signature Keys := ⟨Answers, Passes⟩

theorem serves_command {k l : Keys} {c : Command} {reply : Reply} :
    party.Serves k [⟨.command c, reply⟩] l ↔ reply = (k.execute c).1 ∧ l = (k.execute c).2 := by
  constructor
  · intro h
    cases h with
    | cons ha hn =>
      cases hn
      exact ha
  · intro h
    exact .cons h (.nil l)

end Keys

namespace Client

/-- How a call about permits is answered by way of the key server; the exchanges of one call are not
parted. Other calls are answered by others, in any way. -/
def Answers (l : Client) (k : Keys) : (c : Call) → c.Reply → Keys → Prop
  | .acquire scope, reply, k' => ∃ es, (l.acquire scope).Runs es reply ∧ Keys.party.Serves k es k'
  | .renew permit, reply, k' => ∃ es, (l.renew permit).Runs es reply ∧ Keys.party.Serves k es k'
  | .release permit, reply, k' => ∃ es, (l.release permit).Runs es reply ∧ Keys.party.Serves k es k'
  | _, _, k' => k' = k

end Client

end PeerRules.Lease
