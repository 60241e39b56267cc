import PeerRules.Party
import PeerRules.Sweep

/-!
# Crews: sweeps side by side

The members of a crew are callers at work at the same time, each on a sweep of its own, with one
party that answers them all. One member goes on at a time, by one step, in any order; between two
steps the party may change by itself.
-/
namespace PeerRules

/-- Callers at work, and the state of the party that answers them. -/
structure Crew (S α : Type) where
  state : S
  members : List (Sweep α)

namespace Crew

variable {S α : Type} {party : Party Call.signature S}

/-- One way for a crew to go on: who made which calls, and with what replies. -/
inductive Step (party : Party Call.signature S) :
    Crew S α → List (Nat × Exchange Call.signature) → Crew S α → Prop where
  /-- A member goes on. -/
  | turn {c : Crew S α} {i : Nat} {x y : Sweep α} {es : List (Exchange Call.signature)} {t : S} :
      c.members[i]? = some x → Sweep.Step x es y → party.Serves c.state es t →
      Step party c (es.map fun e => (i, e)) ⟨t, c.members.set i y⟩
  /-- The party changes by itself. -/
  | drift {c : Crew S α} {t : S} : party.Drifts c.state t → Step party c [] { c with state := t }

inductive Runs (party : Party Call.signature S) :
    Crew S α → List (Nat × Exchange Call.signature) → Crew S α → Prop where
  | nil (c : Crew S α) : Runs party c [] c
  | cons {c d e : Crew S α} {xs ys : List (Nat × Exchange Call.signature)} :
      Step party c xs d → Runs party d ys e → Runs party c (xs ++ ys) e

end Crew

end PeerRules
