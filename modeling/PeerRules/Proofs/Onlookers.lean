import PeerRules.Proofs.Calls

/-!
# What an onlooker sees of a plan

An onlooker sees some of the calls of a plan, perhaps with less in them, and the replies to those.
The rest of the world answers what he sees by what he has seen before, and everything else in any
way. Plans are alike for him when the same replies to what he sees lead both on, past calls that he
does not see, to one result.

* `Alike.bind`, `Alike.left_of_within`, `Alike.call`: plans that are alike in sequence, behind calls
  that he does not see, and behind a call of both.
* `Alike.agree`: runs of plans that are alike come to one result and look the same.
* `Alike.exists_runs`: what one of the plans does, the other can do.
* `course_spec`: in every world, and whatever the other replies, a plan has its run.
-/
namespace PeerRules

/-- What an onlooker makes of a call: nothing, or a call with the same kind of reply. -/
structure View (P : Signature) where
  shown : P.Call → Option P.Call
  reply_eq : ∀ {c d}, shown c = some d → P.Reply c = P.Reply d

/-- How calls are answered, by what has come before. -/
abbrev Signature.World (P : Signature) : Type := List (Exchange P) → (c : P.Call) → P.Reply c

namespace View

variable {P : Signature} (V : View P) (world : P.World)

def see (e : Exchange P) : Option (Exchange P) :=
  match h : V.shown e.call with
  | none => none
  | some d => some ⟨d, cast (V.reply_eq h) e.reply⟩

/-- What the onlooker sees is answered as the world answers it. -/
def Follows : List (Exchange P) → List (Exchange P) → Prop
  | _, [] => True
  | seen, e :: es =>
    match V.see e with
    | none => Follows seen es
    | some x => x.reply = world seen x.call ∧ Follows (seen ++ [x]) es

/-- What the onlooker does not see is answered in a given way. -/
def Beside (aside : P.World) : List (Exchange P) → List (Exchange P) → Prop
  | _, [] => True
  | before, e :: es =>
    (V.shown e.call = none → e.reply = aside before e.call) ∧ Beside aside (before ++ [e]) es

variable {V world} {c d : P.Call} {r : P.Reply c} {seen es : List (Exchange P)}

theorem see_hidden (h : V.shown c = none) : V.see ⟨c, r⟩ = none := by
  unfold see
  split
  · rfl
  · next h' => rw [h] at h'; cases h'

theorem see_shown (h : V.shown c = some d) : V.see ⟨c, r⟩ = some ⟨d, cast (V.reply_eq h) r⟩ := by
  unfold see
  split
  · next h' => rw [h] at h'; cases h'
  · next x h' => obtain rfl : d = x := Option.some.inj (h.symm.trans h'); rfl

theorem follows_hidden_iff (h : V.shown c = none) :
    V.Follows world seen (⟨c, r⟩ :: es) ↔ V.Follows world seen es := by
  rw [Follows, see_hidden h]

theorem follows_shown_iff (h : V.shown c = some d) :
    V.Follows world seen (⟨c, r⟩ :: es) ↔ cast (V.reply_eq h) r = world seen d ∧
      V.Follows world (seen ++ [⟨d, world seen d⟩]) es := by
  rw [Follows, see_shown h]
  refine and_congr_right fun hr => ?_
  dsimp only at hr ⊢
  rw [hr]

end View

namespace Plan

open View

variable {P : Signature} {V : View P} {α β : Type}

/-- An onlooker cannot tell the plans apart: each can go on alone by a call that he does not see,
and both together by calls that he sees as one, with replies that are the same to him. -/
inductive Alike (V : View P) : Plan P α → Plan P α → Prop where
  | done (a : α) : Alike V (.done a) (.done a)
  | left {c : P.Call} {next : P.Reply c → Plan P α} {q : Plan P α} (hc : V.shown c = none)
      (h : ∀ r, Alike V (next r) q) : Alike V (.call c next) q
  | right {c : P.Call} {p : Plan P α} {next : P.Reply c → Plan P α} (hc : V.shown c = none)
      (h : ∀ r, Alike V p (next r)) : Alike V p (.call c next)
  | both {c c' d : P.Call} {next : P.Reply c → Plan P α} {next' : P.Reply c' → Plan P α}
      (hc : V.shown c = some d) (hc' : V.shown c' = some d)
      (h : ∀ r r', HEq r r' → Alike V (next r) (next' r')) : Alike V (.call c next) (.call c' next')

theorem Alike.bind {p q : Plan P α} {f g : α → Plan P β} (hpq : Alike V p q)
    (hfg : ∀ a, Alike V (f a) (g a)) : Alike V (p.bind f) (q.bind g) := by
  induction hpq with
  | done a => exact hfg a
  | left hc _ ih => exact .left hc ih
  | right hc _ ih => exact .right hc ih
  | both hc hc' _ ih => exact .both hc hc' ih

theorem Alike.left_of_within {p : Plan P β} {f : β → Plan P α} {q : Plan P α}
    (hp : Within (fun c => V.shown c = none) p) (h : ∀ b, Alike V (f b) q) :
    Alike V (p.bind f) q := by
  induction hp with
  | done b => exact h b
  | call hc _ ih => exact .left hc ih

theorem Alike.right_of_within {p : Plan P α} {q : Plan P β} {f : β → Plan P α}
    (hq : Within (fun c => V.shown c = none) q) (h : ∀ b, Alike V p (f b)) :
    Alike V p (q.bind f) := by
  induction hq with
  | done b => exact h b
  | call hc _ ih => exact .right hc ih

/-- The onlooker sees the call, or it has one reply at most. -/
def Plain (V : View P) (c : P.Call) : Prop := V.shown c ≠ none ∨ Subsingleton (P.Reply c)

theorem Alike.call {c : P.Call} {next next' : P.Reply c → Plan P α} (hc : Plain V c)
    (h : ∀ r, Alike V (next r) (next' r)) : Alike V (.call c next) (.call c next') := by
  cases hshown : V.shown c with
  | some d =>
    refine .both hshown hshown fun r r' hr => ?_
    obtain rfl := eq_of_heq hr
    exact h r
  | none =>
    have hone : Subsingleton (P.Reply c) := hc.resolve_left (not_not_intro hshown)
    refine .left hshown fun r => .right hshown fun r' => ?_
    obtain rfl : r = r' := Subsingleton.elim r r'
    exact h r

theorem Alike.refl_of_within {p : Plan P α} (h : Within (Plain V) p) : Alike V p p := by
  induction h with
  | done a => exact .done a
  | call hc _ ih => exact .call hc ih

/-- **An onlooker cannot tell plans apart that are alike.** In one world they come to one result,
and he sees the same of both. -/
theorem Alike.agree {p q : Plan P α} (h : Alike V p q) {world : P.World}
    {seen es es' : List (Exchange P)} {a b : α} (hp : p.Runs es a) (hq : q.Runs es' b)
    (hes : V.Follows world seen es) (hes' : V.Follows world seen es') :
    a = b ∧ es.filterMap V.see = es'.filterMap V.see := by
  induction h generalizing seen es es' with
  | done a =>
    obtain ⟨rfl, rfl⟩ := runs_done_iff.1 hp
    obtain ⟨rfl, rfl⟩ := runs_done_iff.1 hq
    exact ⟨rfl, rfl⟩
  | left hc _ ih =>
    obtain ⟨r, rest, rfl, hrest⟩ := runs_call_iff.1 hp
    rw [List.filterMap_cons_none (see_hidden hc)]
    exact ih r hrest hq ((follows_hidden_iff hc).1 hes) hes'
  | right hc _ ih =>
    obtain ⟨r, rest, rfl, hrest⟩ := runs_call_iff.1 hq
    rw [List.filterMap_cons_none (see_hidden hc)]
    exact ih r hp hrest hes ((follows_hidden_iff hc).1 hes')
  | both hc hc' _ ih =>
    obtain ⟨r, rest, rfl, hrest⟩ := runs_call_iff.1 hp
    obtain ⟨r', rest', rfl, hrest'⟩ := runs_call_iff.1 hq
    obtain ⟨hr, hes⟩ := (follows_shown_iff hc).1 hes
    obtain ⟨hr', hes'⟩ := (follows_shown_iff hc').1 hes'
    have hsame : HEq r r' := ((cast_heq _ r).symm.trans (heq_of_eq (hr.trans hr'.symm))).trans
      (cast_heq _ r')
    obtain ⟨hab, hsees⟩ := ih r r' hsame hrest hrest' hes hes'
    rw [List.filterMap_cons_some (see_shown hc), List.filterMap_cons_some (see_shown hc'), hr, hr',
      hsees]
    exact ⟨hab, rfl⟩

/-- What a plan does can be done by a plan that is alike, so that the onlooker sees no difference, if
what he does not see can be answered at all. -/
theorem Alike.exists_runs {p q : Plan P α} (h : Alike V p q)
    (haside : ∀ c, V.shown c = none → Nonempty (P.Reply c)) {es : List (Exchange P)} {a : α}
    (hp : p.Runs es a) : ∃ es', q.Runs es' a ∧ es.filterMap V.see = es'.filterMap V.see := by
  induction h generalizing es with
  | done b =>
    obtain ⟨rfl, rfl⟩ := runs_done_iff.1 hp
    exact ⟨[], .done _, rfl⟩
  | left hc _ ih =>
    obtain ⟨r, rest, rfl, hrest⟩ := runs_call_iff.1 hp
    rw [List.filterMap_cons_none (see_hidden hc)]
    exact ih r hrest
  | @right c _ _ hc _ ih =>
    obtain ⟨r⟩ := haside c hc
    obtain ⟨es', hruns, hsees⟩ := ih r hp
    refine ⟨⟨c, r⟩ :: es', .call r hruns, ?_⟩
    rw [hsees, List.filterMap_cons_none (see_hidden hc)]
  | @both c c' _ _ _ hc hc' _ ih =>
    obtain ⟨r, rest, rfl, hrest⟩ := runs_call_iff.1 hp
    let r' : P.Reply c' := cast ((V.reply_eq hc).trans (V.reply_eq hc').symm) r
    have hsame : HEq r r' := (cast_heq _ r).symm
    obtain ⟨es', hruns, hsees⟩ := ih r r' hsame hrest
    refine ⟨⟨c', r'⟩ :: es', .call r' hruns, ?_⟩
    have hshown : cast (V.reply_eq hc) r = cast (V.reply_eq hc') r' := (cast_cast ..).symm
    rw [List.filterMap_cons_some (see_shown hc), List.filterMap_cons_some (see_shown hc'), hsees,
      hshown]

/-! ## Runs in a world -/

variable (V) (world aside : P.World)

/-- The run of a plan: what the onlooker sees is answered by the world, and the rest aside. -/
def course : List (Exchange P) → List (Exchange P) → Plan P α → List (Exchange P) × α
  | _, _, .done a => ([], a)
  | seen, before, .call c next =>
    match h : V.shown c with
    | none =>
      let e : Exchange P := ⟨c, aside before c⟩
      let rest := course seen (before ++ [e]) (next e.reply)
      (e :: rest.1, rest.2)
    | some d =>
      let e : Exchange P := ⟨c, cast (V.reply_eq h).symm (world seen d)⟩
      let rest := course (seen ++ [⟨d, world seen d⟩]) (before ++ [e]) (next e.reply)
      (e :: rest.1, rest.2)

theorem course_spec (p : Plan P α) (seen before : List (Exchange P)) :
    p.Runs (course V world aside seen before p).1 (course V world aside seen before p).2 ∧
      V.Follows world seen (course V world aside seen before p).1 ∧
      V.Beside aside before (course V world aside seen before p).1 := by
  induction p generalizing seen before with
  | done a => exact ⟨.done a, trivial, trivial⟩
  | call c next ih =>
    unfold course
    split
    · next hc =>
      obtain ⟨hruns, hfollows, hbeside⟩ :=
        ih (aside before c) seen (before ++ [⟨c, aside before c⟩])
      exact ⟨.call _ hruns, (follows_hidden_iff hc).2 hfollows, fun _ => rfl, hbeside⟩
    · next d hc =>
      let r : P.Reply c := cast (V.reply_eq hc).symm (world seen d)
      obtain ⟨hruns, hfollows, hbeside⟩ :=
        ih r (seen ++ [⟨d, world seen d⟩]) (before ++ [⟨c, r⟩])
      have hreply : cast (V.reply_eq hc) r = world seen d := cast_cast ..
      have hseen : V.shown c = none → r = aside before c := by
        intro hnone
        cases hc.symm.trans hnone
      exact ⟨.call r hruns, (follows_shown_iff hc).2 ⟨hreply, hfollows⟩, hseen, hbeside⟩

end Plan

end PeerRules
