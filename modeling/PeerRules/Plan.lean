/-!
# Plans of calls

A signature is a set of calls, each with the kind of reply it gets. A plan is what a caller does
with them, up to what the replies are: it is done, or it makes a call and goes on with the reply.
Nothing happens while a plan is made, so a plan can be answered by a live system, by a script, or by
a proof.

`Runs` says which calls a plan makes, in order, and what comes of it, when they are answered so.

* `runs_bind_iff`: two plans in sequence make the calls of the first and then those of the second.
* `exists_runs`: whatever the replies, a plan comes to an end.
-/
namespace PeerRules

/-- A set of calls, each with its kind of reply. -/
structure Signature where
  Call : Type
  Reply : Call → Type

/-- A call with the reply it got. -/
structure Exchange (P : Signature) where
  call : P.Call
  reply : P.Reply call

/-- What a caller does: nothing more, or a call and then what the reply asks for. -/
inductive Plan (P : Signature) (α : Type) : Type where
  | done (result : α)
  | call (c : P.Call) (next : P.Reply c → Plan P α)

namespace Plan

variable {P Q : Signature} {α β γ : Type}

/-- One plan, and then another that depends on its result. -/
def bind : Plan P α → (α → Plan P β) → Plan P β
  | .done a, f => f a
  | .call c next, f => .call c fun r => (next r).bind f

instance : Monad (Plan P) where
  pure := .done
  bind := bind

def ask (c : P.Call) : Plan P (P.Reply c) := .call c .done

/-- Answers a plan's calls, one after another. -/
def answer {m : Type → Type} [Monad m] (reply : (c : P.Call) → m (P.Reply c)) : Plan P α → m α
  | .done a => pure a
  | .call c next => do answer reply (next (← reply c))

/-- Makes every call of one signature a plan on another. -/
def through (f : (c : P.Call) → Plan Q (P.Reply c)) : Plan P α → Plan Q α
  | .done a => .done a
  | .call c next => (f c).bind fun r => (next r).through f

/-- The plan makes exactly these calls, in this order, and, answered so, comes to the result. -/
inductive Runs : Plan P α → List (Exchange P) → α → Prop where
  | done (a : α) : Runs (.done a) [] a
  | call {c : P.Call} {next : P.Reply c → Plan P α} (r : P.Reply c) {es : List (Exchange P)}
      {a : α} : Runs (next r) es a → Runs (.call c next) (⟨c, r⟩ :: es) a

@[simp] theorem pure_eq (a : α) : (pure a : Plan P α) = .done a := rfl

@[simp] theorem bind_eq (p : Plan P α) (f : α → Plan P β) : (p >>= f) = p.bind f := rfl

@[simp] theorem done_bind (a : α) (f : α → Plan P β) : (Plan.done a).bind f = f a := rfl

@[simp] theorem call_bind (c : P.Call) (next : P.Reply c → Plan P α) (f : α → Plan P β) :
    (Plan.call c next).bind f = .call c fun r => (next r).bind f := rfl

theorem bind_done (p : Plan P α) : p.bind .done = p := by
  induction p with
  | done a => rfl
  | call c next ih => simp [ih]

theorem bind_assoc (p : Plan P α) (f : α → Plan P β) (g : β → Plan P γ) :
    (p.bind f).bind g = p.bind fun a => (f a).bind g := by
  induction p with
  | done a => rfl
  | call c next ih => simp [ih]

theorem runs_done_iff {a b : α} {es : List (Exchange P)} :
    Runs (.done a) es b ↔ es = [] ∧ a = b := by
  constructor
  · intro h
    cases h
    exact ⟨rfl, rfl⟩
  · rintro ⟨rfl, rfl⟩
    exact .done a

theorem runs_call_iff {c : P.Call} {next : P.Reply c → Plan P α} {es : List (Exchange P)} {b : α} :
    Runs (.call c next) es b ↔ ∃ r rest, es = ⟨c, r⟩ :: rest ∧ Runs (next r) rest b := by
  constructor
  · intro h
    cases h with
    | call r h => exact ⟨r, _, rfl, h⟩
  · rintro ⟨r, rest, rfl, h⟩
    exact .call r h

theorem runs_bind_iff {p : Plan P α} {f : α → Plan P β} {es : List (Exchange P)} {b : β} :
    Runs (p.bind f) es b ↔ ∃ xs ys a, es = xs ++ ys ∧ Runs p xs a ∧ Runs (f a) ys b := by
  induction p generalizing es with
  | done a =>
    constructor
    · intro h
      exact ⟨[], es, a, rfl, .done a, h⟩
    · rintro ⟨xs, ys, a', rfl, hp, hf⟩
      obtain ⟨rfl, rfl⟩ := runs_done_iff.1 hp
      exact hf
  | call c next ih =>
    rw [call_bind, runs_call_iff]
    constructor
    · rintro ⟨r, rest, rfl, h⟩
      obtain ⟨xs, ys, a, rfl, hp, hf⟩ := (ih r).1 h
      exact ⟨⟨c, r⟩ :: xs, ys, a, rfl, .call r hp, hf⟩
    · rintro ⟨xs, ys, a, rfl, hp, hf⟩
      obtain ⟨r, rest, rfl, hr⟩ := runs_call_iff.1 hp
      exact ⟨r, rest ++ ys, rfl, (ih r).2 ⟨rest, ys, a, rfl, hr, hf⟩⟩

theorem exists_runs (reply : (c : P.Call) → P.Reply c) (p : Plan P α) : ∃ es a, Runs p es a := by
  induction p with
  | done a => exact ⟨[], a, .done a⟩
  | call c next ih =>
    obtain ⟨es, a, h⟩ := ih (reply c)
    exact ⟨_, a, .call (reply c) h⟩

end Plan

end PeerRules
