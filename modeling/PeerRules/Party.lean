import PeerRules.Plan

/-!
# Parties

Plans are answered by parties. A party has a state; it says how a call can be answered in a state,
with the state that follows, and how the state can change by itself. Both are relations: a party may
have a choice.

* `serves_append`: calls are answered one after another.
-/
namespace PeerRules

/-- Somebody who answers the calls of a signature. -/
structure Party (P : Signature) (S : Type) where
  /-- The call can be answered so, and leaves that state. -/
  Answers : S → (c : P.Call) → P.Reply c → S → Prop
  /-- The state can change so without a call. -/
  Drifts : S → S → Prop

namespace Party

variable {P : Signature} {S : Type}

/-- The calls can be answered so, one after another, and leave that state. -/
inductive Serves (party : Party P S) : S → List (Exchange P) → S → Prop where
  | nil (s : S) : Serves party s [] s
  | cons {s t u : S} {c : P.Call} {r : P.Reply c} {es : List (Exchange P)} :
      party.Answers s c r t → Serves party t es u → Serves party s (⟨c, r⟩ :: es) u

theorem serves_append {party : Party P S} {s u : S} {xs ys : List (Exchange P)} :
    party.Serves s (xs ++ ys) u ↔ ∃ t, party.Serves s xs t ∧ party.Serves t ys u := by
  induction xs generalizing s with
  | nil =>
    constructor
    · intro h
      exact ⟨s, .nil s, h⟩
    · rintro ⟨_, hn, h⟩
      cases hn
      exact h
  | cons x xs ih =>
    constructor
    · intro h
      cases h with
      | cons ha h =>
        obtain ⟨t, hx, hy⟩ := ih.1 h
        exact ⟨t, .cons ha hx, hy⟩
    · rintro ⟨t, hx, hy⟩
      cases hx with
      | cons ha hx => exact .cons ha (ih.2 ⟨t, hx, hy⟩)

end Party

end PeerRules
