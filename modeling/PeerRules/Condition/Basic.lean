import PeerRules.Condition.Operator
import PeerRules.Fault
import PeerRules.Text.Blank

/-!
# Conditions

The conditions of a rule are field conditions that must all hold. A field condition has a dotted
path and either a value, which the attribute must equal, or comparisons, which must all pass.

Conditions are stored as an object keyed by path. Loading is lenient: a comparison whose operator is
not known is kept as it is, so that what was stored can be written back unchanged. `validate` is
the check for writing, and refuses what can never hold.

* `toValue_ofValue_object`: a stored object is given back exactly.
* `ofValue_toValue`: conditions that were loaded survive being stored and loaded again.
-/
namespace PeerRules

open Json

namespace Condition

/-- One comparison of a field. -/
inductive Comparison where
  | known (operator : Operator) (operand : Value)
  /-- An operator that is not known, with the operand it came with. -/
  | unknown (name : String) (operand : Value)

namespace Comparison

def name : Comparison → String
  | .known o _ => o.name
  | .unknown n _ => n

def operand : Comparison → Value
  | .known _ v => v
  | .unknown _ v => v

/-- The comparison that a member of an operator object stands for. -/
def ofMember (m : String × Value) : Comparison :=
  match Operator.ofName? m.1 with
  | some o => .known o m.2
  | none => .unknown m.1 m.2

theorem member_ofMember (m : String × Value) : ((ofMember m).name, (ofMember m).operand) = m := by
  unfold ofMember
  split
  · next o h => simp [name, operand, Operator.name_of_ofName? h]
  · rfl

end Comparison

/-- What is asked of one field (`ConditionSpec`). -/
inductive Spec where
  | equals (value : Value)
  | comparisons (list : List Comparison)

namespace Spec

/-- An object lists comparisons; any other document is the value to equal. -/
def ofValue : Value → Spec
  | .object members => .comparisons (members.map Comparison.ofMember)
  | v => .equals v

def toValue : Spec → Value
  | .equals v => v
  | .comparisons list => .object (list.map fun c => (c.name, c.operand))

theorem toValue_ofValue (v : Value) : (ofValue v).toValue = v := by
  cases v with
  | object members =>
    have h : (fun c : Comparison => (c.name, c.operand)) ∘ Comparison.ofMember = id :=
      funext Comparison.member_ofMember
    simp [ofValue, toValue, h]
  | null | bool | number | string | array => rfl

end Spec

/-- What is asked of the attribute at a path (`FieldCondition`). -/
structure Clause where
  path : String
  spec : Spec

end Condition

/-- Field conditions that must all hold (`ConditionSet`). -/
structure Conditions where
  clauses : List Condition.Clause

namespace Conditions

open Condition

/-- No conditions: every peer meets them. -/
def none : Conditions := ⟨[]⟩

/-- The conditions that a document stands for; `null` stands for none. -/
def ofValue : Value → Except Fault Conditions
  | .null => .ok none
  | .object members => .ok ⟨members.map fun m => ⟨m.1, Spec.ofValue m.2⟩⟩
  | _ => .error (.validation "rule conditions must be a JSON object")

def toValue (c : Conditions) : Value := .object (c.clauses.map fun f => (f.path, f.spec.toValue))

theorem toValue_ofValue_object (members : Members) :
    ∃ c, ofValue (.object members) = .ok c ∧ c.toValue = .object members := by
  refine ⟨_, rfl, ?_⟩
  have h : (fun f : Clause => (f.path, f.spec.toValue)) ∘ (fun m => ⟨m.1, Spec.ofValue m.2⟩) = id :=
    funext fun m => by simp [Spec.toValue_ofValue]
  simp [toValue, h]

theorem ofValue_toValue {v : Value} {c : Conditions} (h : ofValue v = .ok c) :
    ofValue c.toValue = .ok c := by
  cases v with
  | null => cases h; rfl
  | object members =>
    obtain ⟨d, hd, hv⟩ := toValue_ofValue_object members
    have hcd : c = d := Except.ok.inj (h.symm.trans hd)
    subst hcd
    rw [hv, h]
  | bool | number | string | array => cases h

end Conditions

namespace Condition

/-- The pieces between the separators of a list of characters. -/
def splitAt (separator : Char) : List Char → List (List Char)
  | [] => [[]]
  | c :: cs =>
    if c = separator then [] :: splitAt separator cs
    else
      match splitAt separator cs with
      | [] => [[c]]
      | s :: rest => (c :: s) :: rest

/-- The segments of a dotted path; the empty path has one, which is empty. -/
def segments (path : String) : List String := (splitAt '.' path.toList).map String.ofList

/-- What is wrong with a clause that is about to be written. -/
inductive Flaw where
  | blankSegment
  | noOperator
  | unknownOperator (name : String)
  | operand (operator : Operator)
  deriving DecidableEq, Repr

def Flaw.message (path : String) : Flaw → String
  | .blankSegment => "condition field path '" ++ path ++ "' must not contain empty segments"
  | .noOperator => "condition for '" ++ path ++ "' must define at least one operator"
  | .unknownOperator name => "condition for '" ++ path ++ "' uses unknown operator '" ++ name ++ "'"
  | .operand o =>
    "condition for '" ++ path ++ "': operator '" ++ o.name ++ "' requires " ++ o.operand.description

/-- What is wrong with a comparison, if something is (`operand_error`). -/
def Comparison.flaw? : Comparison → Option Flaw
  | .unknown name _ => some (.unknownOperator name)
  | .known o v => if o.operand.admits v then none else some (.operand o)

/-- The first thing that is wrong with a clause (`FieldCondition.validate`): its path, then whether
it asks for anything, then its comparisons in order. -/
def Clause.flaw? (f : Clause) : Option Flaw :=
  if (segments f.path).any Text.allBlank then some .blankSegment
  else
    match f.spec with
    | .equals _ => none
    | .comparisons [] => some .noOperator
    | .comparisons list => list.findSome? Comparison.flaw?

end Condition

namespace Conditions

open Condition

/-- The check before writing (`ConditionSet.validate`): the first flaw of the first clause that has
one. -/
def validate (c : Conditions) : Except Fault Unit :=
  match c.clauses.findSome? fun f => f.flaw?.map (Flaw.message f.path) with
  | some message => .error (.validation message)
  | .none => .ok ()

end Conditions

end PeerRules
