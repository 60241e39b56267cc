import PeerRules.Guard
import PeerRules.Proofs.Calls
import PeerRules.Proofs.Courses

/-!
# One sweep at a time

Callers share the guard of one process: some wait for the reports, some run for the timer. Each asks
for the permit of the one scope, and only the one that gets it goes on. The guard's holder is the
caller that is between its permit and the permit's return; that is the invariant (`Flight`), and it
is kept by every step of any caller, by renewals however they are answered, and by outsiders who
renew or release permits that are not the granted one.

A caller's visit goes through four stages, and `Away` and `Inside` say which calls it has made:

* asking: it has only looked at the clock (`Asking`);
* refused: after that it only tells the log (`Telling`);
* inside: it has the permit, and runs its batch or is about to give the permit back (`Holding`);
* gone: it has given the permit back, and only tells the log.

* `Away.step`, `Inside.step`: what a step makes of a caller without the permit, and with it.
* `Flight.step`: the invariant is kept by a step of the crew.
* `Flight.orderly`: how the next call of a member comes behind the calls before it (`Orderly`).
* `single_flight`: what follows for every run, from a guard that nobody holds.
-/
namespace PeerRules

open Plan Dispatch

namespace Call

def isAboutPermits : Call → Bool
  | .acquire _ | .renew _ | .release _ => true
  | _ => false

theorem isAboutPermits_of_isAside {c : Call} (h : c.isAside = true) : c.isAboutPermits = false := by
  cases c <;> first | rfl | cases h

end Call

/-! ## The shape of a sweep -/

namespace Sweep

variable {α β : Type}

/-- Nothing but asides is left, and then a result of the kind. -/
inductive Telling (R : α → Prop) : Sweep α → Prop where
  | done {a : α} (h : R a) : Telling R (.done a)
  | call {c : Call} {next : c.Reply → Sweep α} (hc : c.isAside = true)
      (h : ∀ r, Telling R (next r)) : Telling R (.call c next)

/-- The permit is held: by a batch that makes no calls about permits, or to be given back next. -/
inductive Holding (p : Permit) : Sweep α → Prop where
  | batch {work : RulesPlan Batch.Result} {next : Batch.Result → Sweep α}
      (hw : Within (P := Call.signature) (fun c => c.isAboutPermits = false) work)
      (h : ∀ r, Holding p (next r)) (hr : ∀ r, ∃ k, next r = .call (.release p) k) :
      Holding p (.guarded p work next)
  | leaving {next : Except Fault Unit → Sweep α} (h : ∀ r, Telling (fun _ => True) (next r)) :
      Holding p (.call (.release p) next)

/-- The permit is still to be asked for. A caller that is refused comes to a result of the kind. -/
inductive Asking (R : α → Prop) : Sweep α → Prop where
  | clock {next : Instant → Sweep α} (h : ∀ t, Asking R (next t)) : Asking R (.call .now next)
  | acquire {next : Except Fault (Option Permit) → Sweep α}
      (herror : ∀ f, Telling (fun _ => True) (next (.error f)))
      (hnone : Telling R (next (.ok none))) (hsome : ∀ p, Holding p (next (.ok (some p)))) :
      Asking R (.call (.acquire scope) next)

theorem Telling.bind {R : α → Prop} {Q : β → Prop} {w : Sweep α} {f : α → Sweep β}
    (hw : Telling R w) (hf : ∀ a, R a → Telling Q (f a)) : Telling Q (w.bind f) := by
  induction hw with
  | done h => exact hf _ h
  | call hc _ ih => exact .call hc ih

theorem Telling.ofPlan {plan : RulesPlan α}
    (h : Within (P := Call.signature) (fun c => c.isAside = true) plan) :
    Telling (fun _ => True) (ofPlan plan) := by
  induction h with
  | done a => exact .done trivial
  | call hc _ ih => exact .call hc ih

theorem Holding.bind {p : Permit} {w : Sweep α} {f : α → Sweep β} (hw : Holding p w)
    (hf : ∀ a, Telling (fun _ => True) (f a)) : Holding p (w.bind f) := by
  induction hw with
  | batch hw _ hr ih =>
    refine .batch hw ih fun r => ?_
    obtain ⟨k, hk⟩ := hr r
    exact ⟨fun x => (k x).bind f, by rw [hk]; rfl⟩
  | leaving h => exact .leaving fun r => (h r).bind fun a _ => hf a

theorem Asking.bind {R : α → Prop} {Q : β → Prop} {w : Sweep α} {f : α → Sweep β}
    (hw : Asking R w) (hR : ∀ a, R a → Telling Q (f a))
    (hf : ∀ a, Telling (fun _ => True) (f a)) : Asking Q (w.bind f) := by
  induction hw with
  | clock _ ih => exact .clock ih
  | acquire herror hnone hsome =>
    exact .acquire (fun e => (herror e).bind fun a _ => hf a) (hnone.bind hR)
      fun p => (hsome p).bind hf

/-- A step takes one call at most. -/
theorem Step.calls_eq {w v : Sweep α} {zs : List (Exchange Call.signature)} (h : Step w zs v) :
    zs = [] ∨ ∃ e, zs = [e] := by
  cases h with
  | call | batch | renewal => exact .inr ⟨_, rfl⟩
  | finish => exact .inl rfl

theorem batch_within (limitMs : Nat) :
    Within (P := Call.signature) (fun c => c.isAboutPermits = false)
      (Batch.plan (toNode limitMs)) :=
  Batch.plan_within ⟨rfl, fun _ => rfl, fun _ => rfl, rfl⟩ rfl
    (toNode_within (fun _ => rfl) (fun _ _ => rfl) limitMs)

theorem under_holding (limitMs : Nat) (p : Permit) : Holding p (under (toNode limitMs) p) := by
  refine .batch (batch_within limitMs) (fun result => .leaving fun released => ?_)
    fun result => ⟨_, rfl⟩
  cases released with
  | ok => exact .done trivial
  | error f => exact .call rfl fun _ => .done trivial

/-! ## The calls of a visit -/

def asked (reply : Except Fault (Option Permit)) : Exchange Call.signature :=
  ⟨.acquire scope, reply⟩

def returned (p : Permit) (reply : Except Fault Unit) : Exchange Call.signature :=
  ⟨.release p, reply⟩

/-- Whether a call is made while the permit is held: by the batch, or to extend the permit. -/
def IsWork (p : Permit) (c : Call) : Prop := c = .renew p ∨ c.isAboutPermits = false

/-- A caller without a permit, and its calls: it has not asked yet, was refused, or has given the
permit back. -/
inductive Away (R : α → Prop) : Sweep α → List (Exchange Call.signature) → Prop where
  | asking {w : Sweep α} {xs : List (Exchange Call.signature)} (h : Asking R w)
      (hx : ∀ e ∈ xs, e.call = .now) : Away R w xs
  | refused {w : Sweep α} {pre post : List (Exchange Call.signature)} (h : Telling R w)
      (hpre : ∀ e ∈ pre, e.call = .now) (hpost : ∀ e ∈ post, Call.isAside e.call = true) :
      Away R w (pre ++ asked (.ok none) :: post)
  | gone {w : Sweep α} {p : Permit} {r : Except Fault Unit}
      {pre mid post : List (Exchange Call.signature)} (h : Telling (fun _ => True) w)
      (hpre : ∀ e ∈ pre, e.call = .now) (hmid : ∀ e ∈ mid, IsWork p e.call)
      (hpost : ∀ e ∈ post, Call.isAside e.call = true) :
      Away R w (pre ++ asked (.ok (some p)) :: (mid ++ returned p r :: post))

/-- A caller with a permit, and its calls. -/
inductive Inside (p : Permit) : Sweep α → List (Exchange Call.signature) → Prop where
  | intro {w : Sweep α} {pre mid : List (Exchange Call.signature)} (h : Holding p w)
      (hpre : ∀ e ∈ pre, e.call = .now) (hmid : ∀ e ∈ mid, IsWork p e.call) :
      Inside p w (pre ++ asked (.ok (some p)) :: mid)

end Sweep

/-! ## The guard and those who share it -/

namespace Guard

/-- How the guard answers those who share it. A renewal may be answered in any way. -/
def SharedAnswers (g : Guard) : (c : Call) → c.Reply → Guard → Prop
  | .renew _, _, h => h = g
  | c, reply, h => g.Answers c reply h

/-- The guard with outsiders, who renew and release permits that are not the granted one. -/
def shared : Party Call.signature Guard where
  Answers := SharedAnswers
  Drifts g h := ∃ p, g.owns p = false ∧
    ((∃ r, g.Answers (.renew p) r h) ∨ ∃ r, g.Answers (.release p) r h)

theorem shared_drifts {g h : Guard} (hd : shared.Drifts g h) : h = g := by
  obtain ⟨p, hp, ⟨r, -, rfl⟩ | ⟨r, -, rfl⟩⟩ := hd
  · rfl
  · simp [release, hp]

theorem shared_acquire {g h : Guard} {reply : Except Fault (Option Permit)} {scope : String}
    (ha : shared.Answers g (.acquire scope) reply h) :
    (∃ token, g.holder? scope = none ∧ reply = .ok (some ⟨scope, token⟩) ∧
      h.holder? scope = some token) ∨
    ((g.holder? scope).isSome ∧ reply = .ok none ∧ h = g) := by
  obtain ⟨token, rfl, rfl⟩ := ha
  unfold acquire
  cases hg : g.holder? scope with
  | some other => exact .inr ⟨rfl, rfl, rfl⟩
  | none => exact .inl ⟨token, rfl, rfl, by simp [holder?]⟩

theorem shared_release {g h : Guard} {reply : Except Fault Unit} {p : Permit}
    (ha : shared.Answers g (.release p) reply h) (hg : g.holder? p.scope = some p.token) :
    h.holder? p.scope = none := by
  obtain ⟨-, rfl⟩ := ha
  have hp : g.owns p = true := by simp [owns, hg]
  simp [release, hp, holder?]

theorem shared_other {g h : Guard} {c : Call} {reply : c.Reply} (hc : c.isAboutPermits = false)
    (ha : shared.Answers g c reply h) : h = g := by
  cases c <;> first | exact ha | cases hc

end Guard

/-! ## Visits -/

namespace Crew

/-- What becomes of a permit: a member is let in with it, or gives it back. -/
inductive Visit where
  | entered (member : Nat) (permit : Permit)
  | left (member : Nat) (permit : Permit)
  deriving DecidableEq

/-- What a call does to a permit. -/
def visit? (i : Nat) : Exchange Call.signature → Option Visit
  | ⟨.acquire _, .ok (some p)⟩ => some (.entered i p)
  | ⟨.release p, _⟩ => some (.left i p)
  | _ => none

def visits (es : Trace) : List Visit := es.filterMap fun e => visit? e.1 e.2

/-- One visit after another: who is let in leaves, with the same permit, before the next is let in.
The index is the one who is inside at the end. -/
inductive InTurn : List Visit → Option (Nat × Permit) → Prop where
  | nil : InTurn [] none
  | enter {vs : List Visit} {i : Nat} {p : Permit} (h : InTurn vs none) :
      InTurn (vs ++ [.entered i p]) (some (i, p))
  | leave {vs : List Visit} {i : Nat} {p : Permit} (h : InTurn vs (some (i, p))) :
      InTurn (vs ++ [.left i p]) none

/-- How a call of a member comes behind the calls of everybody before it. At any time there may be an
aside. The request for the permit is the member's first, and is refused if somebody is inside, and
granted if nobody is. Any other call is made inside: behind the member's own grant, and in front of
the return of that permit. -/
inductive Orderly (es : Trace) (i : Nat) : Exchange Call.signature → Prop where
  | aside {e : Exchange Call.signature} (h : Call.isAside e.call = true) : Orderly es i e
  | refused {j : Nat} {p : Permit} (inside : InTurn (visits es) (some (j, p)))
      (first : ∀ r, Sweep.asked r ∉ callsOf i es) : Orderly es i (Sweep.asked (.ok none))
  | granted {p : Permit} (nobody : InTurn (visits es) none)
      (first : ∀ r, Sweep.asked r ∉ callsOf i es) : Orderly es i (Sweep.asked (.ok (some p)))
  | inside {p : Permit} {e : Exchange Call.signature} (inside : InTurn (visits es) (some (i, p)))
      (granted : Sweep.asked (.ok (some p)) ∈ callsOf i es)
      (kept : ∀ r, Sweep.returned p r ∉ callsOf i es)
      (work : Sweep.IsWork p e.call ∨ e.call = .release p) : Orderly es i e

/-- Every call comes so behind those in front of it. -/
def InOrder (es : Trace) : Prop :=
  ∀ xs i e ys, es = xs ++ (i, e) :: ys → Orderly xs i e

theorem InOrder.snoc {es : Trace} {i : Nat} {e : Exchange Call.signature} (h : InOrder es)
    (he : Orderly es i e) : InOrder (es ++ [(i, e)]) := by
  intro xs j x ys heq
  rcases List.eq_nil_or_concat ys with rfl | ⟨ys, y, rfl⟩
  · obtain ⟨rfl, hx⟩ := List.append_inj' heq rfl
    cases hx
    exact he
  · rw [List.concat_eq_append, ← List.cons_append, ← List.append_assoc] at heq
    exact h xs j x ys (List.append_inj' heq rfl).1

theorem visits_append (xs ys : Trace) : visits (xs ++ ys) = visits xs ++ visits ys :=
  List.filterMap_append

theorem visit?_other {c : Call} (hc : c.isAboutPermits = false) (i : Nat) (r : c.Reply) :
    visit? i ⟨c, r⟩ = none := by
  cases c <;> first | rfl | cases hc

theorem visit?_work {p : Permit} {e : Exchange Call.signature} (he : Sweep.IsWork p e.call)
    (i : Nat) : visit? i e = none := by
  obtain ⟨c, r⟩ := e
  rcases he with rfl | hc
  · rfl
  · exact visit?_other hc i r

/-- The permits, when a member has made calls that do nothing to them. -/
theorem visits_snoc_none {i : Nat} {zs : List (Exchange Call.signature)}
    (hz : ∀ e ∈ zs, visit? i e = none) (xs : Trace) :
    visits (xs ++ zs.map fun e => (i, e)) = visits xs := by
  have hnil : visits (zs.map fun e => (i, e)) = [] := by
    simpa [visits, List.filterMap_eq_nil_iff] using hz
  rw [visits_append, hnil, List.append_nil]

end Crew

namespace Sweep

open Crew

variable {α : Type} {R : α → Prop} {w v : Sweep α} {xs zs : List (Exchange Call.signature)}
  {g h : Guard} {p : Permit} {reply : Except Fault (Option Permit)}

theorem asked_not_mem_of_now (hx : ∀ e ∈ xs, e.call = .now) : asked reply ∉ xs := by
  intro hm
  have hnow : Call.acquire scope = .now := hx _ hm
  cases hnow

theorem asked_not_mem_of_aside (hx : ∀ e ∈ xs, Call.isAside e.call = true) : asked reply ∉ xs := by
  intro hm
  have haside : Call.isAside (.acquire scope) = true := hx _ hm
  cases haside

theorem asked_not_mem_of_work (hx : ∀ e ∈ xs, IsWork p e.call) : asked reply ∉ xs := by
  intro hm
  have hwork : IsWork p (.acquire scope) := hx _ hm
  rcases hwork with hwork | hwork <;> cases hwork

theorem asked_inj {a b : Except Fault (Option Permit)} (h : asked a = asked b) : a = b := by
  cases h
  rfl

theorem mem_after {e x : Exchange Call.signature} {pre post : List (Exchange Call.signature)}
    (h : x ∈ pre ++ e :: post) (hpre : x ∉ pre) : x = e ∨ x ∈ post := by
  rcases List.mem_append.1 h with hm | hm
  · exact absurd hm hpre
  · exact List.mem_cons.1 hm

/-- A caller that only tells the log goes on telling the log. -/
theorem Telling.step (hw : Telling R w) (hs : Step w zs v) (ht : Guard.shared.Serves g zs h) :
    Telling R v ∧ h = g ∧ ∃ c r, zs = [⟨c, r⟩] ∧ c.isAside = true := by
  cases hw with
  | done => cases hs
  | @call c next hc hn =>
    cases hs with
    | call c next r =>
      have hh := Guard.shared_other (Call.isAboutPermits_of_isAside hc) (Party.serves_one_iff.1 ht)
      exact ⟨hn r, hh, c, r, rfl, hc⟩

theorem all_snoc {K : Exchange Call.signature → Prop} (hx : ∀ e ∈ xs, K e)
    {e : Exchange Call.signature} (he : K e) : ∀ x ∈ xs ++ [e], K x := by
  intro x hxm
  rcases List.mem_append.1 hxm with hm | hm
  · exact hx x hm
  · rwa [List.mem_singleton.1 hm]

/-- A call of a caller without the permit: an aside, or the one request, if it is refused. -/
def Idles (g : Guard) (xs : List (Exchange Call.signature)) (e : Exchange Call.signature) : Prop :=
  Call.isAside e.call = true ∨
    e = asked (.ok none) ∧ (∀ r, asked r ∉ xs) ∧ (g.holder? scope).isSome

theorem Idles.visit? {e : Exchange Call.signature} (h : Idles g xs e) (i : Nat) :
    visit? i e = none := by
  rcases h with hc | ⟨rfl, -⟩
  · exact visit?_other (Call.isAboutPermits_of_isAside hc) i e.reply
  · rfl

/-- A caller without the permit stays without it, unless nobody has it and it asks. -/
theorem Away.step (hw : Away R w xs) (hs : Step w zs v) (ht : Guard.shared.Serves g zs h) :
    (Away R v (xs ++ zs) ∧ h = g ∧ ∀ e ∈ zs, Idles g xs e) ∨
    ∃ p, Inside p v (xs ++ zs) ∧ g.holder? scope = none ∧ p.scope = scope ∧
      h.holder? scope = some p.token ∧ zs = [asked (.ok (some p))] ∧ ∀ r, asked r ∉ xs := by
  cases hw with
  | asking ha hx =>
    have hfirst : ∀ r, asked r ∉ xs := fun r => asked_not_mem_of_now hx
    cases ha with
    | clock hn =>
      cases hs with
      | call c next r =>
        have hh := Guard.shared_other (c := .now) rfl (Party.serves_one_iff.1 ht)
        exact .inl ⟨.asking (hn r) (all_snoc hx rfl), hh, List.forall_mem_singleton.2 (.inl rfl)⟩
    | acquire herror hnone hsome =>
      cases hs with
      | call c next r =>
        rcases Guard.shared_acquire (Party.serves_one_iff.1 ht) with
          ⟨token, hg, rfl, hh⟩ | ⟨hheld, rfl, rfl⟩
        · exact .inr ⟨⟨scope, token⟩, .intro (hsome _) hx (by simp), hg, rfl, hh, rfl, hfirst⟩
        · exact .inl ⟨.refused hnone hx (by simp), rfl,
            List.forall_mem_singleton.2 (.inr ⟨rfl, hfirst, hheld⟩)⟩
  | refused hw hpre hpost =>
    obtain ⟨hv, hh, c, r, rfl, hc⟩ := hw.step hs ht
    refine .inl ⟨?_, hh, List.forall_mem_singleton.2 (.inl hc)⟩
    rw [List.append_assoc, List.cons_append]
    exact .refused hv hpre (all_snoc hpost hc)
  | gone hw hpre hmid hpost =>
    obtain ⟨hv, hh, c, r, rfl, hc⟩ := hw.step hs ht
    refine .inl ⟨?_, hh, List.forall_mem_singleton.2 (.inl hc)⟩
    rw [List.append_assoc, List.cons_append, List.append_assoc, List.cons_append]
    exact .gone hv hpre hmid (all_snoc hpost hc)

/-- A caller with the permit keeps it until it gives it back. -/
theorem Inside.step {p : Permit} (hw : Inside p w xs) (hs : Step w zs v)
    (ht : Guard.shared.Serves g zs h) (hp : p.scope = scope)
    (hg : g.holder? scope = some p.token) :
    (Inside p v (xs ++ zs) ∧ h = g ∧ ∀ e ∈ zs, IsWork p e.call) ∨
    (Away R v (xs ++ zs) ∧ h.holder? scope = none ∧ ∃ r, zs = [returned p r]) := by
  obtain ⟨hw, hpre, hmid⟩ := hw
  rw [List.append_assoc, List.cons_append]
  cases hw with
  | batch hb hn hr =>
    cases hs with
    | batch p c rest next r =>
      cases hb with
      | call hc hrest =>
        have hh := Guard.shared_other hc (Party.serves_one_iff.1 ht)
        exact .inl ⟨.intro (.batch (hrest r) hn hr) hpre (all_snoc hmid (.inr hc)), hh,
          List.forall_mem_singleton.2 (.inr hc)⟩
    | renewal p c rest next r =>
      have hh : h = g := Party.serves_one_iff.1 ht
      exact .inl ⟨.intro (.batch hb hn hr) hpre (all_snoc hmid (.inl rfl)), hh,
        List.forall_mem_singleton.2 (.inl rfl)⟩
    | finish p result next =>
      obtain rfl := Party.serves_nil_iff.1 ht
      rw [List.append_nil]
      exact .inl ⟨.intro (hn result) hpre hmid, rfl, by simp⟩
  | leaving hn =>
    cases hs with
    | call c next r =>
      have hfree := Guard.shared_release (Party.serves_one_iff.1 ht) (by rw [hp]; exact hg)
      rw [hp] at hfree
      have hpost : ∀ e ∈ ([] : List (Exchange Call.signature)), Call.isAside e.call = true := by
        simp
      exact .inr ⟨.gone (hn r) hpre hmid hpost, hfree, r, rfl⟩

/-! ### What the calls say -/

section Calls

variable {p : Permit} {reply : Except Fault (Option Permit)}

/-- A caller without the permit that was let in has given the permit back, once, after its work. -/
theorem Away.let_in (hw : Away R w xs) (hp : asked (.ok (some p)) ∈ xs) :
    ∃ pre mid r post, xs = pre ++ asked (.ok (some p)) :: (mid ++ returned p r :: post) ∧
      (∀ e ∈ pre, e.call = .now) ∧ (∀ e ∈ mid, IsWork p e.call) ∧
      ∀ e ∈ post, Call.isAside e.call = true := by
  cases hw with
  | asking _ hx => exact absurd hp (asked_not_mem_of_now hx)
  | refused _ hpre hpost =>
    rcases mem_after hp (asked_not_mem_of_now hpre) with heq | hm
    · cases asked_inj heq
    · exact absurd hm (asked_not_mem_of_aside hpost)
  | @gone q r pre mid post _ hpre hmid hpost =>
    rcases mem_after hp (asked_not_mem_of_now hpre) with heq | hm
    · cases asked_inj heq
      exact ⟨pre, mid, r, post, rfl, hpre, hmid, hpost⟩
    · rcases mem_after hm (asked_not_mem_of_work hmid) with heq | hm
      · cases heq
      · exact absurd hm (asked_not_mem_of_aside hpost)

/-- A caller that was refused makes no other call than asides, and comes to its refusal. -/
theorem Away.turned_away (hw : Away R w xs) (hx : asked (.ok none) ∈ xs) :
    (∀ e ∈ xs, e = asked (.ok none) ∨ Call.isAside e.call = true) ∧
      ∀ a, w = .done a → R a := by
  cases hw with
  | asking _ hnow => exact absurd hx (asked_not_mem_of_now hnow)
  | refused h hpre hpost =>
    constructor
    · intro e he
      rcases List.mem_append.1 he with hm | hm
      · exact .inr (by rw [hpre e hm]; rfl)
      · exact (List.mem_cons.1 hm).imp_right (hpost e)
    · rintro a rfl
      cases h with
      | done h => exact h
  | gone _ hpre hmid hpost =>
    rcases mem_after hx (asked_not_mem_of_now hpre) with heq | hm
    · cases asked_inj heq
    · rcases mem_after hm (asked_not_mem_of_work hmid) with heq | hm
      · cases heq
      · exact absurd hm (asked_not_mem_of_aside hpost)

/-- A caller with the permit was answered with that permit, and with nothing else. -/
theorem Inside.asked_eq (hw : Inside p w xs) (hx : asked reply ∈ xs) : reply = .ok (some p) := by
  obtain ⟨-, hpre, hmid⟩ := hw
  rcases mem_after hx (asked_not_mem_of_now hpre) with heq | hm
  · exact asked_inj heq
  · exact absurd hm (asked_not_mem_of_work hmid)

theorem returned_not_mem_of_now {r : Except Fault Unit} (hx : ∀ e ∈ xs, e.call = .now) :
    returned p r ∉ xs := by
  intro hm
  have hnow : Call.release p = .now := hx _ hm
  cases hnow

theorem returned_not_mem_of_work {q : Permit} {r : Except Fault Unit}
    (hx : ∀ e ∈ xs, IsWork q e.call) : returned p r ∉ xs := by
  intro hm
  have hwork : IsWork q (.release p) := hx _ hm
  rcases hwork with hwork | hwork <;> cases hwork

/-- A caller with the permit was granted it, and has not given it back. -/
theorem Inside.has_permit (hw : Inside p w xs) :
    asked (.ok (some p)) ∈ xs ∧ ∀ r, returned p r ∉ xs := by
  obtain ⟨-, hpre, hmid⟩ := hw
  refine ⟨by simp, fun r hm => ?_⟩
  rcases mem_after hm (returned_not_mem_of_now hpre) with heq | hm
  · cases heq
  · exact returned_not_mem_of_work hmid hm

/-- A caller without the permit that is done has asked for it. -/
theorem Away.asked_mem {a : α} (hw : Away R (.done a) xs) : ∃ r, asked r ∈ xs := by
  cases hw with
  | asking h => cases h
  | refused => exact ⟨.ok none, by simp⟩
  | @gone p => exact ⟨.ok (some p), by simp⟩

theorem Inside.not_done {a : α} (hw : Inside p (.done a) xs) : False := by
  obtain ⟨h, -, -⟩ := hw
  cases h

end Calls

end Sweep

/-! ## The crew -/

/-- Somebody who shares the guard: one who waits for the reports, or the timer. -/
inductive Caller where
  | manual (limitMs : Nat)
  | timed (limitMs : Nat)

namespace Caller

/-- What a caller comes to: the reports, or the tick. -/
abbrev Answer : Type := Batch.Result ⊕ Option Sweep.Tick

def sweep : Caller → Sweep Answer
  | .manual limitMs => (Sweep.runAll (toNode limitMs)).bind fun r => .done (.inl r)
  | .timed limitMs => (Sweep.tick (toNode limitMs)).bind fun t => .done (.inr t)

def refusal : Caller → Answer
  | .manual _ => .inl (.error (.conflict "active rule execution is already in progress"))
  | .timed _ => .inr none

end Caller

namespace Sweep

theorem runAll_asking (limitMs : Nat) :
    Asking (· = .error (.conflict "active rule execution is already in progress"))
      (runAll (toNode limitMs)) :=
  .acquire (fun _ => .done trivial) (.done rfl) fun p => under_holding limitMs p

theorem conclude_telling (startedAt : Instant) (result : Batch.Result) :
    Telling (fun _ => True) (ofPlan (conclude startedAt result)) := by
  refine .ofPlan ?_
  cases result with
  | ok rs => exact .bind (.ask rfl) fun _ => .bind (.ask rfl) fun _ => .done _
  | error f =>
    exact .bind (.ask rfl) fun _ => .bind (.ask rfl) fun _ => .bind (.ask rfl) fun _ => .done _

theorem tick_asking (limitMs : Nat) : Asking (· = none) (tick (toNode limitMs)) := by
  refine .clock fun startedAt => .acquire (fun f => ?_) ?_ fun p => ?_
  · exact .call rfl fun _ => .call rfl fun _ => .done trivial
  · exact .call rfl fun _ => .done rfl
  · exact (under_holding limitMs p).bind fun result =>
      (conclude_telling startedAt result).bind fun _ _ => .done trivial

end Sweep

theorem Caller.sweep_asking (c : Caller) : Sweep.Asking (· = c.refusal) c.sweep := by
  cases c with
  | manual limitMs =>
    exact (Sweep.runAll_asking limitMs).bind (fun _ h => .done (h ▸ rfl)) fun _ => .done trivial
  | timed limitMs =>
    exact (Sweep.tick_asking limitMs).bind (fun _ h => .done (h ▸ rfl)) fun _ => .done trivial

/-! ## The invariant -/

namespace Crew

open Sweep Caller

/-- The guard is free and nobody is inside, or it is held by the one who is. `R` says what a member
comes to that is refused. -/
inductive Flight (R : Nat → Answer → Prop) (es : Trace) (c : Crew Guard Answer) : Prop where
  | free (hg : c.state.holder? scope = none) (ht : InTurn (visits es) none)
      (h : ∀ i w, c.members[i]? = some w → Away (R i) w (callsOf i es))
  | busy (i : Nat) (w : Sweep Answer) (p : Permit) (hi : c.members[i]? = some w)
      (hin : Inside p w (callsOf i es)) (hp : p.scope = scope)
      (hg : c.state.holder? scope = some p.token) (ht : InTurn (visits es) (some (i, p)))
      (h : ∀ j v, j ≠ i → c.members[j]? = some v → Away (R j) v (callsOf j es))

variable {R : Nat → Answer → Prop} {xs ys es : Trace} {c d : Crew Guard Answer}
  {zs : List (Exchange Call.signature)} {x y : Sweep Answer} {k : Nat}

theorem Flight.start {callers : List Caller} {g : Guard} (hg : g.holder? scope = none) :
    Flight (fun i a => ∀ caller, callers[i]? = some caller → a = caller.refusal) []
      ⟨g, callers.map Caller.sweep⟩ := by
  refine .free hg .nil fun i w hw => .asking ?_ (by simp)
  simp only [List.getElem?_map, Option.map_eq_some_iff] at hw
  obtain ⟨caller, hc, rfl⟩ := hw
  have hR : (fun a => ∀ k, callers[i]? = some k → a = k.refusal) = (· = caller.refusal) := by
    funext a
    simp [hc]
  rw [hR]
  exact caller.sweep_asking

/-- While nobody is inside, the member that goes on stays away or is let in. -/
theorem Flight.step_free (hg : c.state.holder? scope = none) (hv : InTurn (visits xs) none)
    (h : ∀ i w, c.members[i]? = some w → Away (R i) w (callsOf i xs))
    (hk : c.members[k]? = some x) (hxy : Sweep.Step x zs y)
    (ht : Guard.shared.Serves c.state zs d.state) (hd : d.members = c.members.set k y) :
    Flight R (xs ++ zs.map fun e => (k, e)) d := by
  rcases (h k x hk).step hxy ht with ⟨hy, hgd, hz⟩ | ⟨p, hy, -, hp, hgd, rfl, -⟩
  · have hvisits := visits_snoc_none (fun e he => (hz e he).visit? k) xs
    refine .free (by rw [hgd]; exact hg) (by rw [hvisits]; exact hv) ?_
    rw [hd]
    exact forall_members_set (K := fun j v es => Away (R j) v es) (fun j v _ => h j v) hy
  · refine .busy k y p ?_ ?_ hp hgd ?_ ?_
    · rw [hd, List.getElem?_set_self']
      simp [hk]
    · rw [callsOf_append, callsOf_own]
      exact hy
    · rw [visits_append]
      exact .enter hv
    · rw [hd]
      exact forall_others_set (K := fun j v es => Away (R j) v es) fun j v _ => h j v

/-- The one who is inside goes on: it stays inside, or it leaves and nobody is. -/
theorem Flight.step_holder {p : Permit} (hin : Inside p x (callsOf k xs)) (hp : p.scope = scope)
    (hg : c.state.holder? scope = some p.token) (hv : InTurn (visits xs) (some (k, p)))
    (h : ∀ j v, j ≠ k → c.members[j]? = some v → Away (R j) v (callsOf j xs))
    (hk : c.members[k]? = some x) (hxy : Sweep.Step x zs y)
    (ht : Guard.shared.Serves c.state zs d.state) (hd : d.members = c.members.set k y) :
    Flight R (xs ++ zs.map fun e => (k, e)) d := by
  have hy : d.members[k]? = some y := by
    rw [hd, List.getElem?_set_self']
    simp [hk]
  have hothers : ∀ j v, j ≠ k → d.members[j]? = some v →
      Away (R j) v (callsOf j (xs ++ zs.map fun e => (k, e))) := by
    rw [hd]
    exact forall_others_set (K := fun j v es => Away (R j) v es) h
  have hown : callsOf k (xs ++ zs.map fun e => (k, e)) = callsOf k xs ++ zs := by
    rw [callsOf_append, callsOf_own]
  rcases hin.step (R := R k) hxy ht hp hg with ⟨hin', hgd, hz⟩ | ⟨haway, hgd, r, rfl⟩
  · refine .busy k y p hy (by rw [hown]; exact hin') hp (by rw [hgd]; exact hg) ?_ hothers
    rw [visits_snoc_none fun e he => visit?_work (hz e he) k]
    exact hv
  · refine .free hgd (by rw [visits_append]; exact .leave hv) fun j v hj => ?_
    by_cases hjk : j = k
    · subst hjk
      obtain rfl : y = v := Option.some.inj (hy.symm.trans hj)
      rw [hown]
      exact haway
    · exact hothers j v hjk hj

/-- While another is inside, a member that goes on stays away: the scope is held. -/
theorem Flight.step_other {i : Nat} {w : Sweep Answer} {p : Permit}
    (hi : c.members[i]? = some w) (hin : Inside p w (callsOf i xs)) (hp : p.scope = scope)
    (hg : c.state.holder? scope = some p.token) (hv : InTurn (visits xs) (some (i, p)))
    (h : ∀ j v, j ≠ i → c.members[j]? = some v → Away (R j) v (callsOf j xs)) (hki : k ≠ i)
    (hk : c.members[k]? = some x) (hxy : Sweep.Step x zs y)
    (ht : Guard.shared.Serves c.state zs d.state) (hd : d.members = c.members.set k y) :
    Flight R (xs ++ zs.map fun e => (k, e)) d := by
  rcases (h k x hki hk).step hxy ht with ⟨haway, hgd, hz⟩ | ⟨q, -, hnone, -⟩
  · refine .busy i w p ?_ ?_ hp (by rw [hgd]; exact hg) ?_ ?_
    · rw [hd, List.getElem?_set_ne hki]
      exact hi
    · rw [callsOf_append, callsOf_other hki, List.append_nil]
      exact hin
    · rw [visits_snoc_none fun e he => (hz e he).visit? k]
      exact hv
    · rw [hd]
      exact fun j v hji hj => forall_members_set (K := fun j v es => j ≠ i → Away (R j) v es)
        (fun j v _ hj hji => h j v hji hj) (fun _ => haway) j v hj hji
  · -- nobody is let in while the scope is held
    rw [hg] at hnone
    cases hnone

theorem Flight.step (hf : Flight R xs c) (hs : Step Guard.shared c ys d) :
    Flight R (xs ++ ys) d := by
  rcases hs.cases_turn with ⟨k, x, y, zs, hk, hxy, ht, rfl, hd⟩ | ⟨hdrift, rfl, hd⟩
  · cases hf with
    | free hg hv h => exact step_free hg hv h hk hxy ht hd
    | busy i w p hi hin hp hg hv h =>
      by_cases hki : k = i
      · subst hki
        obtain rfl : x = w := Option.some.inj (hk.symm.trans hi)
        exact step_holder hin hp hg hv h hk hxy ht hd
      · exact step_other hi hin hp hg hv h hki hk hxy ht hd
  · have hgd := Guard.shared_drifts hdrift
    rw [List.append_nil]
    cases hf with
    | free hg hv h => exact .free (by rw [hgd]; exact hg) hv (by rw [hd]; exact h)
    | busy i w p hi hin hp hg hv h =>
      refine .busy i w p (by rw [hd]; exact hi) hin hp (by rw [hgd]; exact hg) hv ?_
      rw [hd]
      exact h

/-- The call that a member makes next comes as it should. -/
theorem Flight.orderly {t : Guard} (hf : Flight R xs c) (hk : c.members[k]? = some x)
    (hxy : Sweep.Step x zs y) (ht : Guard.shared.Serves c.state zs t) :
    ∀ e ∈ zs, Orderly xs k e := by
  cases hf with
  | free hg hv h =>
    rcases (h k x hk).step hxy ht with ⟨-, -, hz⟩ | ⟨p, -, -, -, -, rfl, hfirst⟩
    · intro e he
      rcases hz e he with haside | ⟨-, -, hheld⟩
      · exact .aside haside
      · rw [hg] at hheld
        cases hheld
    · exact List.forall_mem_singleton.2 (.granted hv hfirst)
  | busy i w p hi hin hp hg hv h =>
    by_cases hki : k = i
    · subst hki
      obtain rfl : x = w := Option.some.inj (hk.symm.trans hi)
      obtain ⟨hgranted, hkept⟩ := hin.has_permit
      rcases hin.step (R := R k) hxy ht hp hg with ⟨-, -, hz⟩ | ⟨-, -, r, rfl⟩
      · exact fun e he => .inside hv hgranted hkept (.inl (hz e he))
      · exact List.forall_mem_singleton.2 (.inside hv hgranted hkept (.inr rfl))
    · rcases (h k x hki hk).step hxy ht with ⟨-, -, hz⟩ | ⟨q, -, hnone, -⟩
      · intro e he
        rcases hz e he with haside | ⟨rfl, hfirst, -⟩
        · exact .aside haside
        · exact .refused hv hfirst
      · rw [hg] at hnone
        cases hnone

theorem Flight.inOrder_step (hf : Flight R xs c) (ho : InOrder xs)
    (hs : Step Guard.shared c ys d) : InOrder (xs ++ ys) := by
  rcases hs.cases_turn with ⟨k, x, y, zs, hk, hxy, ht, rfl, -⟩ | ⟨-, rfl, -⟩
  · have hz := hf.orderly hk hxy ht
    rcases hxy.calls_eq with rfl | ⟨e, rfl⟩
    · simpa using ho
    · exact ho.snoc (hz e List.mem_cons_self)
  · simpa using ho

/-! ## Every run -/

/-- **One sweep at a time.** Whoever is let in leaves before the next is let in, and the guard
grants the scope exactly while nobody is inside. Whatever a caller calls besides the clock and the
log, it calls while it is inside, be it done or not; what it calls first is the request for the
permit, and it is refused exactly while somebody is inside. A caller that is refused only looks at
the clock and tells the log, and comes to its refusal. A caller that was let in and is done has given
that permit back once, after its last call but asides; and there is no other way to be done. -/
theorem single_flight {callers : List Caller} {g : Guard} (hg : g.holder? scope = none) {es : Trace}
    {d : Crew Guard Answer} (h : Runs Guard.shared ⟨g, callers.map Caller.sweep⟩ es d) :
    (∃ inside, InTurn (visits es) inside ∧ ∀ token, (d.state.acquire token scope).1 =
      if inside.isNone then some ⟨scope, token⟩ else none) ∧
    (∀ xs i e ys, es = xs ++ (i, e) :: ys → Orderly xs i e) ∧
    ∀ i caller, callers[i]? = some caller → ∃ w, d.members[i]? = some w ∧
      (∀ a, w = .done a → ∃ reply, asked reply ∈ callsOf i es) ∧
      (asked (.ok none) ∈ callsOf i es →
        (∀ e ∈ callsOf i es, e = asked (.ok none) ∨ Call.isAside e.call = true) ∧
          ∀ a, w = .done a → a = caller.refusal) ∧
      ∀ p a, asked (.ok (some p)) ∈ callsOf i es → w = .done a →
        ∃ pre mid r post,
          callsOf i es = pre ++ asked (.ok (some p)) :: (mid ++ returned p r :: post) ∧
          (∀ e ∈ pre, e.call = .now) ∧ (∀ e ∈ mid, IsWork p e.call) ∧
          ∀ e ∈ post, Call.isAside e.call = true := by
  have hkept : Flight (fun i a => ∀ caller, callers[i]? = some caller → a = caller.refusal) es d ∧
      InOrder es :=
    Runs.keeps (K := fun xs c => Flight _ xs c ∧ InOrder xs)
      (fun hc hs => ⟨hc.1.step hs, hc.1.inOrder_step hc.2 hs⟩) h
      ⟨Flight.start hg, fun xs i e ys heq => by simp at heq⟩
  obtain ⟨hflight, horder⟩ := hkept
  refine ⟨?_, horder, ?_⟩
  · cases hflight with
    | free hfree hv _ => exact ⟨none, hv, fun token => by simp [Guard.acquire, hfree]⟩
    | busy i w p _ _ _ hheld hv _ => exact ⟨_, hv, fun token => by simp [Guard.acquire, hheld]⟩
  · intro i caller hcaller
    have hlt : i < d.members.length := by
      rw [h.length_eq, List.length_map]
      exact (List.getElem?_eq_some_iff.1 hcaller).1
    have hw : d.members[i]? = some d.members[i] := List.getElem?_eq_getElem hlt
    have hstage : Away (fun a => ∀ caller, callers[i]? = some caller → a = caller.refusal)
        d.members[i] (callsOf i es) ∨ ∃ p, Inside p d.members[i] (callsOf i es) := by
      cases hflight with
      | free _ _ haway => exact .inl (haway i _ hw)
      | busy j v p hj hin _ _ _ haway =>
        by_cases hij : i = j
        · subst hij
          obtain rfl : d.members[i] = v := Option.some.inj (hw.symm.trans hj)
          exact .inr ⟨p, hin⟩
        · exact .inl (haway i _ hij hw)
    refine ⟨_, hw, fun a ha => ?_, fun hx => ?_, fun p a hx ha => ?_⟩
    · rcases hstage with haway | ⟨p, hin⟩
      · rw [ha] at haway
        exact haway.asked_mem
      · rw [ha] at hin
        exact hin.not_done.elim
    · rcases hstage with haway | ⟨p, hin⟩
      · obtain ⟨hasides, hrefusal⟩ := haway.turned_away hx
        exact ⟨hasides, fun a ha => hrefusal a ha caller hcaller⟩
      · cases hin.asked_eq hx
    · rcases hstage with haway | ⟨q, hin⟩
      · exact haway.let_in hx
      · rw [ha] at hin
        exact hin.not_done.elim

/-! ### A run with a tick that is skipped -/

def threeCallers : List Caller := [.manual 5000, .timed 5000, .manual 5000]

/-- The first is let in and its listing fails; meanwhile the timer is refused. The last is let in
once the first has left. -/
def skippedTick : Trace :=
  [(0, asked (.ok (some ⟨scope, "a"⟩))), (1, ⟨.now, ⟨3⟩⟩), (1, asked (.ok none)),
    (1, ⟨.log .tickSkipped, ()⟩), (0, ⟨.listActive, .error (.internal "gone")⟩),
    (0, returned ⟨scope, "a"⟩ (.ok ())), (2, asked (.ok (some ⟨scope, "b"⟩)))]

theorem single_flight_skippedTick : ∃ d : Crew Guard Answer,
    Guard.free.holder? scope = none ∧
    Runs Guard.shared ⟨.free, threeCallers.map Caller.sweep⟩ skippedTick d ∧
    (∃ inside, InTurn (visits skippedTick) inside ∧ ∀ token, (d.state.acquire token scope).1 =
      if inside.isNone then some ⟨scope, token⟩ else none) ∧
    Orderly (skippedTick.take 4) 0 ⟨.listActive, .error (.internal "gone")⟩ ∧
    ∃ w, d.members[1]? = some w ∧ ∀ a, w = .done a → a = .inr none := by
  have hrun : ∃ d, Runs Guard.shared ⟨.free, threeCallers.map Caller.sweep⟩ skippedTick d :=
    ⟨_, .turn (i := 0) rfl (.call _ _ _) ⟨"a", rfl, rfl⟩ <|
      .turn (i := 1) rfl (.call _ _ _) rfl <|
      .turn (i := 1) rfl (.call _ _ _) ⟨"c", rfl, rfl⟩ <|
      .turn (i := 1) rfl (.call _ _ _) rfl <|
      .turn (i := 0) rfl (.batch _ _ _ _ _) rfl <|
      .quiet (i := 0) rfl (.finish _ _ _) <|
      .turn (i := 0) rfl (.call _ _ _) ⟨rfl, rfl⟩ <|
      .turn (i := 2) rfl (.call _ _ _) ⟨"b", rfl, rfl⟩ <|
      .nil _⟩
  obtain ⟨d, h⟩ := hrun
  obtain ⟨hturns, horder, hcallers⟩ := single_flight rfl h
  obtain ⟨w, hw, -, hrefused, -⟩ := hcallers 1 (.timed 5000) rfl
  have hasked : asked (.ok none) ∈ callsOf 1 skippedTick := by
    rw [mem_callsOf]
    simp [skippedTick]
  exact ⟨d, rfl, h, hturns, horder _ _ _ _ rfl, w, hw, (hrefused hasked).2⟩

end Crew

end PeerRules
