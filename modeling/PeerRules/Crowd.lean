import PeerRules.Party

/-!
# Crowds: plans side by side

The callers of a crowd are at work at the same time, each on a plan of its own, with one party that
answers them all. They go on one call at a time, in any order; between two calls the party may
change by itself.

* `Runs.keeps`: what every step keeps holds after every run.
-/
namespace PeerRules

/-- Plans under way, and the state of the party that answers their calls. -/
structure Crowd (P : Signature) (S α : Type) where
  state : S
  plans : List (Plan P α)

namespace Crowd

variable {P : Signature} {S α : Type} {party : Party P S}

/-- One way for a crowd to go on: who made which call, and with what reply. -/
inductive Step (party : Party P S) :
    Crowd P S α → List (Nat × Exchange P) → Crowd P S α → Prop where
  /-- A caller makes its next call. -/
  | turn {c : Crowd P S α} {i : Nat} {call : P.Call} {next : P.Reply call → Plan P α}
      {reply : P.Reply call} {t : S} (hi : c.plans[i]? = some (.call call next))
      (ha : party.Answers c.state call reply t) :
      Step party c [(i, ⟨call, reply⟩)] ⟨t, c.plans.set i (next reply)⟩
  /-- The party changes by itself. -/
  | drift {c : Crowd P S α} {t : S} (hd : party.Drifts c.state t) :
      Step party c [] ⟨t, c.plans⟩

inductive Runs (party : Party P S) :
    Crowd P S α → List (Nat × Exchange P) → Crowd P S α → Prop where
  | nil (c : Crowd P S α) : Runs party c [] c
  | cons {c d e : Crowd P S α} {xs ys : List (Nat × Exchange P)} :
      Step party c xs d → Runs party d ys e → Runs party c (xs ++ ys) e

/-- The run goes on from the calls `xs`; the induction is over the steps. -/
theorem Runs.keeps {K : List (Nat × Exchange P) → Crowd P S α → Prop}
    (hK : ∀ {xs c ys d}, K xs c → Step party c ys d → K (xs ++ ys) d) {c d : Crowd P S α}
    {xs es : List (Nat × Exchange P)} (h : Runs party c es d) (hc : K xs c) : K (xs ++ es) d := by
  induction h generalizing xs with
  | nil c =>
    rw [List.append_nil]
    exact hc
  | cons hs _ ih =>
    rw [← List.append_assoc]
    exact ih (hK hc hs)

/-- A run goes on from a call. -/
theorem Runs.turn {c d : Crowd P S α} {i : Nat} {call : P.Call} {next : P.Reply call → Plan P α}
    {reply : P.Reply call} {t : S} {es : List (Nat × Exchange P)}
    (hi : c.plans[i]? = some (.call call next)) (ha : party.Answers c.state call reply t)
    (hr : Runs party ⟨t, c.plans.set i (next reply)⟩ es d) :
    Runs party c ((i, ⟨call, reply⟩) :: es) d :=
  .cons (.turn hi ha) hr

/-- A run goes on from a change of the party. -/
theorem Runs.drift {c d : Crowd P S α} {t : S} {es : List (Nat × Exchange P)}
    (hd : party.Drifts c.state t) (hr : Runs party ⟨t, c.plans⟩ es d) : Runs party c es d :=
  .cons (.drift hd) hr

end Crowd

end PeerRules
