import PeerRules.Peer

/-!
# Which peers meet conditions

A peer meets conditions when every clause holds. A clause fails when the peer lacks the attribute,
whatever it asks; a comparison fails when the kinds do not fit or the operator is not known. Nothing
is an error.

Clauses and their comparisons are looked at in order until one fails. When that one is an operator
that is not known, `unknownReached?` says so, for a warning.

* `meets_iff`: the clauses all hold.
-/
namespace PeerRules

open Json

namespace Condition

/-- Equality of an attribute and an operand (`values_equal`): two numbers by their nearest floats,
all else structurally. -/
def equal : Value → Value → Bool
  | .number a, .number b => a.compare b == .eq
  | a, b => a.same b

def order? : Value → Value → Option Ordering
  | .number a, .number b => some (a.compare b)
  | _, _ => none

def occursIn (needle : List Char) : List Char → Bool
  | [] => needle.isEmpty
  | c :: cs => needle.isPrefixOf (c :: cs) || occursIn needle cs

/-- A test of two texts (`compare_strings`); it fails on anything else. -/
def texts (test : List Char → List Char → Bool) : Value → Value → Bool
  | .string s, .string t => test s.toList t.toList
  | _, _ => false

/-- Whether an attribute stands to an operand as the operator says (`operator_holds`). -/
def Operator.holds (o : Operator) (found operand : Value) : Bool :=
  match o with
  | .eq => equal found operand
  | .neq => !equal found operand
  | .gt => (order? found operand).any (·.isGT)
  | .gte => (order? found operand).any (·.isGE)
  | .lt => (order? found operand).any (·.isLT)
  | .lte => (order? found operand).any (·.isLE)
  | .contains => texts (fun s t => occursIn t s) found operand
  | .startsWith => texts (fun s t => t.isPrefixOf s) found operand
  | .endsWith => texts (fun s t => t.isSuffixOf s) found operand
  | .isIn => (operand.items?.getD []).any (equal found)

/-- Whether an attribute passes a comparison (`comparison_holds`). -/
def Comparison.holds (found : Value) : Comparison → Bool
  | .known o operand => o.holds found operand
  | .unknown _ _ => false

def Spec.holds (found : Value) : Spec → Bool
  | .equals v => equal found v
  | .comparisons list => list.all (Comparison.holds found)

/-- Whether a peer has the attribute, and as specified (`field_condition_matches`). -/
def Clause.holds (p : Peer) (f : Clause) : Bool := (p.attributeAt f.path).any f.spec.holds

/-- An operator that is not known, in the clause of a path. -/
structure UnknownOperator where
  path : String
  name : String
  deriving DecidableEq, Repr

/-- The operator at which a failing clause fails, when it is not known. -/
def Clause.unknownReached? (p : Peer) (f : Clause) : Option UnknownOperator :=
  match p.attributeAt f.path, f.spec with
  | some v, .comparisons list =>
    match list.find? fun c => !c.holds v with
    | some (.unknown name _) => some ⟨f.path, name⟩
    | _ => none
  | _, _ => none

end Condition

namespace Conditions

open Condition

/-- Whether a peer meets the conditions (`matches_conditions`). -/
def meets (c : Conditions) (p : Peer) : Bool := c.clauses.all (Clause.holds p)

/-- The operator at which the conditions fail, when it is not known. -/
def unknownReached? (c : Conditions) (p : Peer) : Option UnknownOperator :=
  (c.clauses.find? fun f => !f.holds p).bind (Clause.unknownReached? p)

theorem meets_iff (c : Conditions) (p : Peer) :
    c.meets p = true ↔ ∀ f ∈ c.clauses, f.holds p = true := by
  simp [meets]

end Conditions

end PeerRules
