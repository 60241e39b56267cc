/-!
# Faults

What an operation answers when it cannot do what it was asked: the kind of fault, and a text about
the case at hand. The kind decides how the caller goes on, the text is for people.
-/
namespace PeerRules

/-- The four kinds of fault. -/
inductive Fault.Kind where
  | validation
  | notFound
  | conflict
  | internal
  deriving DecidableEq, Repr

/-- A kind of fault with the text about the case at hand (`AppError`). -/
structure Fault where
  kind : Fault.Kind
  text : String
  deriving DecidableEq, Repr

namespace Fault

/-- Input that breaks a rule of the domain. -/
def validation (text : String) : Fault := ⟨.validation, text⟩

def notFound (text : String) : Fault := ⟨.notFound, text⟩

/-- A write against what is stored, or a scope that another holder has. -/
def conflict (text : String) : Fault := ⟨.conflict, text⟩

def internal (text : String) : Fault := ⟨.internal, text⟩

/-- How a kind is announced in front of the text. -/
def Kind.label : Kind → String
  | .validation => "validation error"
  | .notFound => "not found"
  | .conflict => "conflict"
  | .internal => "internal error"

/-- The constructor's name, as it is written when a worker gives up. -/
def Kind.name : Kind → String
  | .validation => "Validation"
  | .notFound => "NotFound"
  | .conflict => "Conflict"
  | .internal => "Internal"

def message (f : Fault) : String := f.kind.label ++ ": " ++ f.text

end Fault

end PeerRules
