import PeerRules.Condition.Basic
import PeerRules.Json.Printer
import PeerRules.Json.Shape

/-!
# Peers

A connected peer is what the node says about it: an open set of attributes. Attributes inside
attributes are reached by dotted paths.

* `resolve_append`: a path is followed piece by piece.
-/
namespace PeerRules

open Json

structure Peer where
  attributes : Members

namespace Peer

/-- The peer that an object describes (`Peer.from_value`). -/
def ofValue : Value → Except Fault Peer
  | .object attributes => .ok ⟨attributes⟩
  | v => .error (.validation ("peer entry must be a JSON object, got " ++ v.text))

def snapshot (p : Peer) : Value := .object p.attributes

/-- Decodes a peer from a document of its own. -/
def decode : Value → Except Mismatch Peer
  | .object attributes => .ok ⟨attributes⟩
  | v => .error (.kind v "a map")

/-- Follows segments down into a document. Only objects have members, and an empty segment leads
nowhere. -/
def resolve : List String → Value → Option Value
  | [], v => some v
  | s :: rest, v => if s = "" then none else (v.get? s).bind (resolve rest)

/-- The attribute at a dotted path (`Peer.attribute`). -/
def attributeAt (p : Peer) (path : String) : Option Value :=
  resolve (Condition.segments path) p.snapshot

/-- The text by which the node knows the peer (`Peer.id`): a number as it is written, or a text that
says something. -/
def id? (p : Peer) : Option String :=
  match p.attributes.find? "id" with
  | some (.number n) => some n.text
  | some (.string s) => if Text.allBlank s then none else some s
  | _ => none

/-- The network address, a text that says something (`Peer.address`). -/
def address? (p : Peer) : Option String :=
  match p.attributes.find? "addr" with
  | some (.string s) => if Text.allBlank s then none else some s
  | _ => none

theorem resolve_append (xs ys : List String) (v : Value) :
    resolve (xs ++ ys) v = (resolve xs v).bind (resolve ys) := by
  induction xs generalizing v with
  | nil => rfl
  | cons x xs ih =>
    simp only [List.cons_append, resolve]
    split
    · rfl
    · cases v.get? x with
      | none => rfl
      | some w => exact ih w

end Peer

end PeerRules
