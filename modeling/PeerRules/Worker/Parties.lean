import PeerRules.Dispatch
import PeerRules.Guard
import PeerRules.Lease.Client
import PeerRules.Node.Client
import PeerRules.Store
import PeerRules.Table.Client

/-!
# The parties of a worker

A worker has a node. Its rules and entries are in a database, or in its memory as long as it lives;
permits are leases of a key server, or its own guard. Every call of the rules is answered by one of
them.
-/
namespace PeerRules.Worker

/-- What a worker keeps in its memory. -/
structure Memory where
  store : Store
  guard : Guard

def Memory.empty : Memory := ⟨.empty, .free⟩

/-- Who answers the calls of a worker. -/
structure Parties where
  node : Node.Endpoint
  dispatchTimeoutMs : Nat
  /-- Whether rules and entries are in a database. -/
  isPersistent : Bool
  /-- The key server, if permits are leases. -/
  leases : Option Lease.Client

/-- A plan of exchanges by somebody with a memory. -/
abbrev MemoryPlan : Type → Type := StateT Memory (Plan Wire.Call.signature)

namespace MemoryPlan

variable {α : Type}

/-- Exchanges that leave the memory alone. -/
def ofWire (p : WirePlan α) : MemoryPlan α := fun m => p.bind fun a => .done (a, m)

def look (f : Store → α) : MemoryPlan α := fun m => .done (f m.store, m)

/-- Changes the store in memory, if that works. -/
def change (f : Store → Except Fault (α × Store)) : MemoryPlan (Except Fault α) := fun m =>
  let (reply, store) := m.store.kept (f m.store)
  .done (reply, { m with store })

def guarded (f : Guard → α × Guard) : MemoryPlan α := fun m =>
  let (a, g) := f m.guard
  .done (a, { m with guard := g })

end MemoryPlan

namespace Parties

open MemoryPlan

/-- Asks the database if there is one, and else the memory. -/
def stored {α : Type} (p : Parties) (table : WirePlan α) (memory : MemoryPlan α) : MemoryPlan α :=
  if p.isPersistent then ofWire table else memory

/-- Asks the key server if there is one, and else the guard. -/
def leased {α : Type} (p : Parties) (lease : Lease.Client → WirePlan α) (memory : MemoryPlan α) :
    MemoryPlan α :=
  match p.leases with
  | some l => ofWire (lease l)
  | none => memory

def answer (p : Parties) : (c : Call) → MemoryPlan c.Reply
  | .listPeers => ofWire (Node.listPeers p.node)
  | .dispatch peer action => do
    let o ← Dispatch.planBy (fun e => ofWire (WirePlan.log e))
      (fun o limitMs => ofWire (Node.control p.node o limitMs)) p.dispatchTimeoutMs peer action
    return .ok o
  | .control o limitMs => ofWire (Node.control p.node o limitMs)
  | .append e => p.stored (Table.appendEntry e) do
    let id ← ofWire WirePlan.freshId
    change (·.append id e)
  | .listEntries q => p.stored (Table.listEntries q) (look fun s => .ok (s.page q))
  | .insertRule r => p.stored (Table.insertRule r) do
    let t ← ofWire WirePlan.now
    change (·.insert t r)
  | .updateRule r => p.stored (Table.updateRule r) do
    let t ← ofWire WirePlan.now
    change (·.update t r)
  | .findRule id => p.stored (Table.findRule id) (look fun s => .ok (s.find? id))
  | .listRules => p.stored Table.listRules (look fun s => .ok s.rules)
  | .listActive => p.stored Table.listActive (look fun s => .ok s.active)
  | .deleteRule id => p.stored (Table.deleteRule id) (change (·.delete id))
  | .acquire scope => p.leased (·.acquire scope) do
    let token ← ofWire WirePlan.freshId
    guarded fun g =>
      let (permit, g) := g.acquire token.text scope
      (.ok permit, g)
  | .renew permit => p.leased (·.renew permit) (guarded fun g => (.ok (g.owns permit), g))
  | .release permit => p.leased (·.release permit) (guarded fun g => (.ok (), g.release permit))
  | .readText path => ofWire (WirePlan.readText path)
  | .log e => ofWire (WirePlan.log e)
  | .freshId => ofWire WirePlan.freshId
  | .now => ofWire WirePlan.now

/-- Carries out a plan of calls, starting with nothing in memory. -/
def perform {α : Type} (p : Parties) (plan : RulesPlan α) : WirePlan α :=
  (plan.answer p.answer Memory.empty).bind fun r => .done r.1

end Parties

end PeerRules.Worker
