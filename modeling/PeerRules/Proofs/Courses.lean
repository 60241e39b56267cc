import PeerRules.Crew

/-!
# Runs of a crew, member by member

What is proved about a crew is proved step by step. A step is one member's, or the party's own; the
member makes its calls and every other member stays where it was.

* `Crew.Runs.keeps`: what every step keeps holds after every run.
* `Crew.Step.cases_turn`: a step is one member's or the party's.
* `Crew.Runs.length_eq`: the members stay the same.
* `Crew.Runs.own_plan`: the calls of one member are a run of its plan.
* `Crew.Runs.serves`: the calls of all members are what the party has answered.
* `Crew.forall_members_set`: what holds of every member when one of them has gone on.
-/
namespace PeerRules

theorem Party.serves_one_iff {P : Signature} {S : Type} {party : Party P S} {s t : S} {c : P.Call}
    {r : P.Reply c} : party.Serves s [⟨c, r⟩] t ↔ party.Answers s c r t := by
  constructor
  · intro h
    cases h with
    | cons ha h =>
      cases h
      exact ha
  · intro h
    exact .cons h (.nil t)

theorem Party.serves_nil_iff {P : Signature} {S : Type} {party : Party P S} {s t : S} :
    party.Serves s [] t ↔ t = s := by
  constructor
  · intro h
    cases h
    rfl
  · rintro rfl
    exact .nil t

/-- Calls that leave the party as it is can be left out. -/
theorem Party.Serves.filter {P : Signature} {S : Type} {party : Party P S} (keep : P.Call → Bool)
    (hk : ∀ {s t : S} {c : P.Call} {r : P.Reply c}, keep c = false → party.Answers s c r t → t = s)
    {s t : S} {es : List (Exchange P)} (h : party.Serves s es t) :
    party.Serves s (es.filter fun e => keep e.call) t := by
  induction h with
  | nil s => exact .nil s
  | @cons s t u c r es ha _ ih =>
    rw [List.filter_cons]
    split
    · exact .cons ha ih
    · next hc =>
      obtain rfl := hk (by simpa using hc) ha
      exact ih

/-- A plan comes to an end with a party that can answer every call, and can do so in a way of its
own choice. -/
theorem Party.exists_served {P : Signature} {S α : Type} {party : Party P S}
    {choice : Exchange P → Prop}
    (hanswer : ∀ s c, ∃ r t, party.Answers s c r t ∧ choice ⟨c, r⟩) (p : Plan P α) (s : S) :
    ∃ es a t, p.Runs es a ∧ party.Serves s es t ∧ ∀ e ∈ es, choice e := by
  induction p generalizing s with
  | done a => exact ⟨[], a, s, .done a, .nil s, by simp⟩
  | call c next ih =>
    obtain ⟨r, m, ha, hc⟩ := hanswer s c
    obtain ⟨es, a, t, hr, hs, hes⟩ := ih r m
    exact ⟨_, a, t, .call r hr, .cons ha hs, List.forall_mem_cons.2 ⟨hc, hes⟩⟩

namespace Crew

variable {S α : Type} {party : Party Call.signature S}

/-- What is called by a crew: who made which call, and with what reply. -/
abbrev Trace : Type := List (Nat × Exchange Call.signature)

def callsOf (i : Nat) (es : Trace) : List (Exchange Call.signature) :=
  es.filterMap fun e => if e.1 = i then some e.2 else none

@[simp] theorem callsOf_nil (i : Nat) : callsOf i [] = [] := rfl

@[simp] theorem callsOf_append (i : Nat) (xs ys : Trace) :
    callsOf i (xs ++ ys) = callsOf i xs ++ callsOf i ys := List.filterMap_append

theorem callsOf_own (i : Nat) (es : List (Exchange Call.signature)) :
    callsOf i (es.map fun e => (i, e)) = es := by
  induction es with
  | nil => rfl
  | cons e es ih =>
    simp only [callsOf, List.map_cons, List.filterMap_cons, if_true] at ih ⊢
    rw [ih]

theorem callsOf_other {i j : Nat} (h : j ≠ i) (es : List (Exchange Call.signature)) :
    callsOf i (es.map fun e => (j, e)) = [] := by
  simp [callsOf, h]

theorem mem_callsOf {i : Nat} {e : Exchange Call.signature} {es : Trace} :
    e ∈ callsOf i es ↔ (i, e) ∈ es := by
  simp only [callsOf, List.mem_filterMap, Prod.exists]
  constructor
  · rintro ⟨j, x, hx, h⟩
    split at h
    · next hj =>
      subst hj
      cases h
      exact hx
    · cases h
  · intro h
    exact ⟨i, e, h, if_pos rfl⟩

/-- The run goes on from the calls `xs`; the induction is over the steps. -/
theorem Runs.keeps {K : Trace → Crew S α → Prop}
    (hK : ∀ {xs c ys d}, K xs c → Step party c ys d → K (xs ++ ys) d) {c d : Crew S α}
    {xs es : Trace} (h : Runs party c es d) (hc : K xs c) : K (xs ++ es) d := by
  induction h generalizing xs with
  | nil c =>
    rw [List.append_nil]
    exact hc
  | cons hs _ ih =>
    rw [← List.append_assoc]
    exact ih (hK hc hs)

/-- A step is a member's, with its calls, or the party's own. -/
theorem Step.cases_turn {c d : Crew S α} {ys : Trace} (h : Step party c ys d) :
    (∃ (i : Nat) (x y : Sweep α) (es : List (Exchange Call.signature)), c.members[i]? = some x ∧
      Sweep.Step x es y ∧ party.Serves c.state es d.state ∧ ys = es.map (fun e => (i, e)) ∧
      d.members = c.members.set i y) ∨
    (party.Drifts c.state d.state ∧ ys = [] ∧ d.members = c.members) := by
  cases h with
  | turn hx hs ht => exact .inl ⟨_, _, _, _, hx, hs, ht, rfl, rfl⟩
  | drift hd => exact .inr ⟨hd, rfl, rfl⟩

/-- A run goes on from a member's call. -/
theorem Runs.turn {c d : Crew S α} {i : Nat} {x y : Sweep α} {e : Exchange Call.signature} {t : S}
    {es : Trace} (hx : c.members[i]? = some x) (hs : Sweep.Step x [e] y)
    (ha : party.Answers c.state e.call e.reply t)
    (hr : Runs party ⟨t, c.members.set i y⟩ es d) : Runs party c ((i, e) :: es) d :=
  .cons (.turn hx hs (.cons ha (.nil t))) hr

/-- A run goes on from a step without a call. -/
theorem Runs.quiet {c d : Crew S α} {i : Nat} {x y : Sweep α} {es : Trace}
    (hx : c.members[i]? = some x) (hs : Sweep.Step x [] y)
    (hr : Runs party ⟨c.state, c.members.set i y⟩ es d) : Runs party c es d :=
  .cons (.turn hx hs (.nil c.state)) hr

/-- Nobody joins a crew or leaves it. -/
theorem Runs.length_eq {c d : Crew S α} {es : Trace} (h : Runs party c es d) :
    d.members.length = c.members.length := by
  induction h with
  | nil => rfl
  | cons hs _ ih =>
    rw [ih]
    rcases hs.cases_turn with ⟨k, x, y, zs, -, -, -, -, hd⟩ | ⟨-, -, hd⟩
    · rw [hd, List.length_set]
    · rw [hd]

/-- A member that carries out a plan, and is done, has run that plan. -/
theorem Runs.own_plan {c d : Crew S α} {es : Trace} (h : Runs party c es d) {i : Nat}
    {p : RulesPlan α} {a : α} (hi : c.members[i]? = some (.ofPlan p))
    (hd : d.members[i]? = some (.done a)) : p.Runs (callsOf i es) a := by
  induction h generalizing p with
  | nil c =>
    have hp : Sweep.ofPlan p = .done a := Option.some.inj (hi.symm.trans hd)
    cases p with
    | done b =>
      cases hp
      exact .done a
    | call c next => cases hp
  | cons hs _ ih =>
    rw [callsOf_append]
    rcases hs.cases_turn with ⟨k, x, y, zs, hk, hxy, -, rfl, hm⟩ | ⟨-, rfl, hm⟩
    · by_cases hki : k = i
      · subst hki
        obtain rfl : x = .ofPlan p := Option.some.inj (hk.symm.trans hi)
        rw [callsOf_own]
        cases p with
        | done b => cases hxy
        | call c next =>
          cases hxy with
          | call _ _ r =>
            refine .call r (ih ?_ hd)
            rw [hm, List.getElem?_set_self']
            simp [hk]
      · rw [callsOf_other hki]
        refine ih ?_ hd
        rw [hm, List.getElem?_set_ne hki]
        exact hi
    · refine ih ?_ hd
      rw [hm]
      exact hi

/-- A party that changes by nothing but calls has answered the calls of a run in their order. -/
theorem Runs.serves {c d : Crew S α} {es : Trace} (h : Runs party c es d)
    (hstill : ∀ s t, ¬party.Drifts s t) : party.Serves c.state (es.map Prod.snd) d.state := by
  induction h with
  | nil c => exact .nil _
  | cons hs _ ih =>
    rw [List.map_append, Party.serves_append]
    rcases hs.cases_turn with ⟨k, x, y, zs, -, -, ht, rfl, -⟩ | ⟨hdrift, -, -⟩
    · refine ⟨_, ?_, ih⟩
      rw [List.map_map]
      simpa [Function.comp_def] using ht
    · exact absurd hdrift (hstill _ _)

/-- Nobody but the members makes calls. -/
theorem Runs.caller_lt {c d : Crew S α} {es : Trace} (h : Runs party c es d) :
    ∀ e ∈ es, e.1 < c.members.length := by
  induction h with
  | nil => simp
  | cons hs hr ih =>
    intro e he
    rcases List.mem_append.1 he with hm | hm
    · rcases hs.cases_turn with ⟨k, x, y, zs, hk, -, -, rfl, -⟩ | ⟨-, rfl, -⟩
      · obtain ⟨z, -, rfl⟩ := List.mem_map.1 hm
        exact (List.getElem?_eq_some_iff.1 hk).1
      · cases hm
    · rw [← (Runs.cons hs (.nil _)).length_eq]
      exact ih e hm

/-- The calls of two members, put together in some order. -/
inductive Merged :
    List (Exchange Call.signature) → List (Exchange Call.signature) → Trace → Prop where
  | nil : Merged [] [] []
  | first {x : Exchange Call.signature} {xs ys : List (Exchange Call.signature)} {es : Trace}
      (h : Merged xs ys es) : Merged (x :: xs) ys ((0, x) :: es)
  | second {y : Exchange Call.signature} {xs ys : List (Exchange Call.signature)} {es : Trace}
      (h : Merged xs ys es) : Merged xs (y :: ys) ((1, y) :: es)

theorem merged_callsOf {es : Trace} (h : ∀ e ∈ es, e.1 < 2) :
    Merged (callsOf 0 es) (callsOf 1 es) es := by
  induction es with
  | nil => exact .nil
  | cons e es ih =>
    obtain ⟨i, x⟩ := e
    have ht := ih fun e he => h e (List.mem_cons_of_mem _ he)
    have hi : i < 2 := h (i, x) List.mem_cons_self
    match i, hi with
    | 0, _ => exact .first ht
    | 1, _ => exact .second ht

theorem callsOf_filter (i : Nat) (keep : Exchange Call.signature → Bool) (es : Trace) :
    callsOf i (es.filter fun e => keep e.2) = (callsOf i es).filter keep := by
  induction es with
  | nil => rfl
  | cons e es ih =>
    obtain ⟨j, x⟩ := e
    by_cases hk : keep x = true <;> by_cases hj : j = i <;> simp_all [callsOf]

section Others

variable {K : Nat → Sweep α → List (Exchange Call.signature) → Prop} {ms : List (Sweep α)}
  {es : Trace} {k : Nat} {y : Sweep α} {zs : List (Exchange Call.signature)}

/-- What holds of the others with their calls still holds when one member has gone on. -/
theorem forall_others_set (h : ∀ j w, j ≠ k → ms[j]? = some w → K j w (callsOf j es)) :
    ∀ j w, j ≠ k → (ms.set k y)[j]? = some w →
      K j w (callsOf j (es ++ zs.map fun e => (k, e))) := by
  intro j w hjk hj
  rw [callsOf_append, callsOf_other (Ne.symm hjk), List.append_nil]
  rw [List.getElem?_set_ne (Ne.symm hjk)] at hj
  exact h j w hjk hj

/-- What holds of every member with its calls still holds when one has gone on, if it holds of that
one. -/
theorem forall_members_set (h : ∀ j w, j ≠ k → ms[j]? = some w → K j w (callsOf j es))
    (hk : K k y (callsOf k es ++ zs)) :
    ∀ j w, (ms.set k y)[j]? = some w → K j w (callsOf j (es ++ zs.map fun e => (k, e))) := by
  intro j w hj
  by_cases hjk : j = k
  · subst hjk
    rw [callsOf_append, callsOf_own]
    rw [List.getElem?_set_self'] at hj
    obtain ⟨_, -, rfl⟩ := Option.map_eq_some_iff.1 hj
    exact hk
  · exact forall_others_set h j w hjk hj

end Others

end Crew

end PeerRules
