import PeerRules.Proofs.Heartbeat
import PeerRules.Proofs.Leases
import PeerRules.Proofs.Shutdown

/-!
# When batches overlap

Workers that share a key server keep their batches apart by a lease. A worker goes on with its batch
however its renewals are answered, so it can be inside when its lease is gone and another worker has
taken it. That is the only way for two of them to be inside at once.

A worker's calls about permits are visits to the server, parted into exchanges that come between
those of the others. A visit can break off at any moment, and is then told to have failed; a renewal
may be told to have gone in any way. Time passes for the server, and keys are gone at any moment;
which tokens go so is part of what happens.

* `Keys.Changes.token?_stays`, `Visit.Stage.token?_stays`: what leaves a token under its key.
* `Shape`: where a worker is in its sweep, and on which visit.
* `Sound.stays`, `Sound.step`: what holds at every moment.
* `Sound.inside_of_call`: only who is inside calls anybody for its batch.
* `overlap_expired`: who is inside has its lease, or its lease has expired.
-/
namespace PeerRules.Lease

namespace Keys

variable {k m : Keys} {key t : String} {c : Command}

/-- The tokens that are under their keys in one state of the server and not in another. -/
def lost (k m : Keys) : List String :=
  (k.holdings.filter fun x =>
    k.token? x.key = some x.token && m.token? x.key ≠ some x.token).map (·.token)

theorem mem_lost (ht : k.token? key = some t) (hgone : m.token? key ≠ some t) : t ∈ lost k m := by
  obtain ⟨x, hx, rfl⟩ := token?_eq_some_iff.1 ht
  obtain ⟨hmem, rfl, -⟩ := mem_of_holding? hx
  exact List.mem_map.2 ⟨x, List.mem_filter.2 ⟨hmem, by simp [ht, hgone]⟩, rfl⟩

/-- A token stays under its key unless it is given back. -/
theorem Changes.token?_stays (h : Changes k c m) (ht : k.token? key = some t)
    (hpos : ∀ seconds, c = .renew key t seconds → 0 < seconds) (hc : c ≠ .release key t) :
    m.token? key = some t := by
  obtain ⟨x, hx, rfl⟩ := token?_eq_some_iff.1 ht
  by_cases hown : ∃ seconds, c = .renew key x.token seconds
  · obtain ⟨seconds, rfl⟩ := hown
    cases h with
    | still => exact ht
    | renewed => exact token?_put_self k (hpos seconds rfl)
  · have hforeign : IsForeign key x.token c := ⟨hc, fun seconds hs => hown ⟨seconds, hs⟩⟩
    exact token?_eq_some_iff.2 ⟨x, h.holding?_eq hx hforeign, rfl⟩

end Keys

/-! ## What a visit says to the server -/

def Visit.Commands (v : Visit) (c : Command) : Prop :=
  match v.request with
  | .acquire scope => ∃ token, c = .claim (v.client.terms.key scope) token v.client.terms.seconds
  | .renew p => c = v.renewal p ∨ c = .load .renew
  | .release p => c = v.giveBack p ∨ c = .load .release

theorem Acquiring.command {l : Client} {scope : String} {c : Command}
    {next : Reply → WirePlan Answer} (h : Acquiring l scope (.call (.command c) next)) :
    ∃ token, c = .claim (l.terms.key scope) token l.terms.seconds := by
  generalize hq : (.call (.command c) next : WirePlan Answer) = q at h
  cases h with
  | drawing | opening | ended => cases hq
  | claiming token =>
    cases hq
    exact ⟨token, rfl⟩

theorem Calling.command {l : Client} {what : String} {c d : Command} {s : Script}
    {finish : Except Fault Int → Answer} {next : Reply → WirePlan Answer} {k : Keys}
    (h : Calling l what c s finish (.call (.command d) next) k) : d = c ∨ d = .load s := by
  generalize hq : (.call (.command d) next : WirePlan Answer) = q at h
  cases h with
  | connecting | ended => cases hq
  | asking =>
    cases hq
    exact .inl rfl
  | again =>
    cases hq
    exact .inl rfl
  | loading =>
    cases hq
    exact .inr rfl

theorem Visit.Stage.commands {v : Visit} {k : Keys} {c : Command} {next : Reply → WirePlan Answer}
    (h : v.Stage (.call (.command c) next) k) : v.Commands c := by
  obtain ⟨l, scope | p | p⟩ := v
  · exact Acquiring.command h
  · exact Calling.command h
  · exact Calling.command h

theorem Visit.Commands.seconds_eq {v : Visit} {key token : String} {seconds : Nat}
    (h : v.Commands (.renew key token seconds)) : seconds = v.client.terms.seconds := by
  obtain ⟨l, scope | p | p⟩ := v
  · obtain ⟨_, h⟩ := h
    cases h
  · obtain h | h := h <;> cases h
    rfl
  · obtain h | h := h <;> cases h

theorem Visit.Commands.released {v : Visit} {key token : String}
    (h : v.Commands (.release key token)) : ∃ p, v.request = .release p ∧ p.token = token := by
  obtain ⟨l, scope | p | p⟩ := v
  · obtain ⟨_, h⟩ := h
    cases h
  · obtain h | h := h <;> cases h
  · obtain h | h := h <;> cases h
    exact ⟨p, rfl, rfl⟩

/-- A token stays under its key in every exchange of a visit that does not give it back. -/
theorem Visit.Stage.token?_stays {v : Visit} {k m : Keys} {call : Wire.Call}
    {next : call.Reply → WirePlan Answer} {reply : call.Reply} {key t : String}
    (h : v.Stage (.call call next) k) (ha : Keys.Answers k call reply m)
    (hpos : 0 < v.client.terms.seconds) (hv : ∀ p, v.request = .release p → p.token ≠ t)
    (ht : k.token? key = some t) : m.token? key = some t := by
  rcases Keys.changes_of_answers ha with ⟨c, rfl, hc⟩ | rfl
  · have hcommands := h.commands
    refine hc.token?_stays ht ?_ ?_
    · rintro seconds rfl
      exact hcommands.seconds_eq ▸ hpos
    · rintro rfl
      obtain ⟨p, hp, htoken⟩ := hcommands.released
      exact hv p hp htoken
  · exact ht

/-! ## Workers side by side -/

/-- A worker: its leases, what is left of its sweep, and the visit to the key server that it is on,
if any, with what is left of that. -/
structure Member (α : Type) where
  client : Client
  sweep : Sweep α
  visit : Option (Request × WirePlan Answer)

/-- What happens: an exchange with the key server, a call of a sweep that was answered, a token that
is gone by itself. -/
inductive Event where
  | exchanged (member : Nat) (e : Exchange Wire.Call.signature)
  | called (member : Nat) (e : Exchange Call.signature)
  | expired (token : String)

structure Fleet (α : Type) where
  keys : Keys
  members : List (Member α)

namespace Fleet

variable {α : Type}

/-- What a sweep can ask the key server for: its next call, or a renewal while its batch waits. -/
inductive Wants : Sweep α → Request → Prop where
  | acquire (scope : String) (next : Except Fault (Option Permit) → Sweep α) :
      Wants (.call (.acquire scope) next) (.acquire scope)
  | release (p : Permit) (next : Except Fault Unit → Sweep α) :
      Wants (.call (.release p) next) (.release p)
  | renew (p : Permit) (c : Call) (rest : c.Reply → RulesPlan Batch.Result)
      (next : Batch.Result → Sweep α) : Wants (.guarded p (.call c rest) next) (.renew p)

/-- What a worker can be told of a visit of which so much is left. It can be told that it failed,
whatever was done; and of a renewal, anything. -/
inductive Told : Request → WirePlan Answer → Exchange Call.signature → Prop where
  | acquired (scope : String) (r : Except Fault (Option Permit)) :
      Told (.acquire scope) (.done (.acquired r)) ⟨.acquire scope, r⟩
  | released (p : Permit) (r : Except Fault Unit) :
      Told (.release p) (.done (.released r)) ⟨.release p, r⟩
  | renewed (p : Permit) (q : WirePlan Answer) (r : Except Fault Bool) :
      Told (.renew p) q ⟨.renew p, r⟩
  | notAcquired (scope : String) (q : WirePlan Answer) (f : Fault) :
      Told (.acquire scope) q ⟨.acquire scope, .error f⟩
  | notReleased (p : Permit) (q : WirePlan Answer) (f : Fault) :
      Told (.release p) q ⟨.release p, .error f⟩

/-- One way for the workers and their server to go on. -/
inductive Step : Fleet α → List Event → Fleet α → Prop where
  /-- A worker begins a visit. -/
  | visit {f : Fleet α} {i : Nat} {l : Client} {w : Sweep α} {r : Request}
      (hi : f.members[i]? = some ⟨l, w, none⟩) (hr : Wants w r) :
      Step f [] ⟨f.keys, f.members.set i ⟨l, w, some (r, Visit.plan ⟨l, r⟩)⟩⟩
  /-- The server answers the next exchange of a visit. -/
  | exchange {f : Fleet α} {i : Nat} {l : Client} {w : Sweep α} {r : Request} {call : Wire.Call}
      {next : call.Reply → WirePlan Answer} {reply : call.Reply} {k : Keys}
      (hi : f.members[i]? = some ⟨l, w, some (r, .call call next)⟩)
      (ha : Keys.Answers f.keys call reply k) :
      Step f [.exchanged i ⟨call, reply⟩] ⟨k, f.members.set i ⟨l, w, some (r, next reply)⟩⟩
  /-- A worker is told how its visit went. -/
  | told {f : Fleet α} {i : Nat} {l : Client} {w w' : Sweep α} {r : Request} {q : WirePlan Answer}
      {e : Exchange Call.signature} (hi : f.members[i]? = some ⟨l, w, some (r, q)⟩)
      (he : Told r q e) (hs : Sweep.Step w [e] w') :
      Step f [.called i e] ⟨f.keys, f.members.set i ⟨l, w', none⟩⟩
  /-- A worker goes on without the key server. -/
  | work {f : Fleet α} {i : Nat} {l : Client} {w w' : Sweep α}
      {es : List (Exchange Call.signature)} (hi : f.members[i]? = some ⟨l, w, none⟩)
      (hs : Sweep.Step w es w') (hes : ∀ e ∈ es, Call.isAboutPermits e.call = false) :
      Step f (es.map (.called i)) ⟨f.keys, f.members.set i ⟨l, w', none⟩⟩
  /-- The server changes by itself. -/
  | lapse {f : Fleet α} {k : Keys} (hk : f.keys.Lapses k) :
      Step f ((f.keys.lost k).map .expired) ⟨k, f.members⟩

inductive Runs : Fleet α → List Event → Fleet α → Prop where
  | nil (f : Fleet α) : Runs f [] f
  | snoc {f g h : Fleet α} {xs ys : List Event} (hr : Runs f xs g) (hs : Step g ys h) :
      Runs f (xs ++ ys) h

/-- The worker runs its batch under the permit. -/
def Inside (f : Fleet α) (i : Nat) (p : Permit) : Prop :=
  ∃ l batch next visit, f.members[i]? = some ⟨l, .guarded p batch next, visit⟩

def exchanges (es : List Event) : Trace :=
  es.filterMap fun
    | .exchanged i e => some (i, e)
    | _ => none

/-- The lease of the worker has expired since its token was claimed. -/
def HasExpired (es : List Event) (i : Nat) (p : Permit) : Prop :=
  ∃ xs e ys, es = xs ++ .exchanged i e :: ys ∧ tokenOf? e = some p.token ∧ .expired p.token ∈ ys

end Fleet

/-! ## Where a worker is -/

namespace Member

variable {α : Type} {k k' : Keys} {l : Client} {w w' : Sweep α} {r : Request}
  {q : WirePlan Answer} {p : Permit} {m m' : Member α}

/-- The permit that the worker has: it runs its batch under it, or is about to be told of it. -/
def permit? : Member α → Option Permit
  | ⟨_, .guarded p _ _, _⟩ => some p
  | ⟨_, _, some (.acquire _, .done (.acquired (.ok (some p))))⟩ => some p
  | _ => none

/-- The permit that the worker is about to give back. -/
def returning? : Member α → Option Permit
  | ⟨_, .call (.release p) _, _⟩ => some p
  | _ => none

/-- The visit has no part in that. -/
theorem returning?_eq (v v' : Option (Request × WirePlan Answer)) :
    returning? ⟨l, w, v⟩ = returning? ⟨l, w, v'⟩ := by
  cases w with
  | call c _ => cases c <;> rfl
  | done | guarded => rfl

/-- Where a worker is in its sweep, and on which visit. -/
inductive Shape (k : Keys) : Member α → Prop where
  | asking {l : Client} {w : Sweep α} {R : α → Prop} (h : Sweep.Asking R w) : Shape k ⟨l, w, none⟩
  | acquiring {l : Client} {next : Except Fault (Option Permit) → Sweep α} {q : WirePlan Answer}
      {R : α → Prop} (h : Sweep.Asking R (.call (.acquire Sweep.scope) next))
      (hq : Visit.Stage ⟨l, .acquire Sweep.scope⟩ q k) :
      Shape k ⟨l, .call (.acquire Sweep.scope) next, some (.acquire Sweep.scope, q)⟩
  | holding {l : Client} {w : Sweep α} {p : Permit} (h : Sweep.Holding p w) : Shape k ⟨l, w, none⟩
  | renewing {l : Client} {p : Permit} {work : RulesPlan Batch.Result}
      {next : Batch.Result → Sweep α} {q : WirePlan Answer}
      (h : Sweep.Holding p (.guarded p work next)) (hq : Visit.Stage ⟨l, .renew p⟩ q k) :
      Shape k ⟨l, .guarded p work next, some (.renew p, q)⟩
  | releasing {l : Client} {p : Permit} {next : Except Fault Unit → Sweep α} {q : WirePlan Answer}
      (h : Sweep.Holding p (.call (.release p) next)) (hq : Visit.Stage ⟨l, .release p⟩ q k) :
      Shape k ⟨l, .call (.release p) next, some (.release p, q)⟩
  | telling {l : Client} {w : Sweep α} {R : α → Prop} (h : Sweep.Telling R w) : Shape k ⟨l, w, none⟩

/-- What a worker has after a step it had before, or gives it back now. -/
structure Keeps (m m' : Member α) : Prop where
  client : m'.client = m.client
  permit : ∀ p, m'.permit? = some p → m.permit? = some p
  returning : ∀ p, m'.returning? = some p → m.permit? = some p ∨ m.returning? = some p

theorem Shape.mono (h : Shape k m) (hk : k.known ⊆ k'.known) : Shape k' m := by
  cases h with
  | asking h => exact .asking h
  | acquiring h hq => exact .acquiring h (hq.mono hk)
  | holding h => exact .holding h
  | renewing h hq => exact .renewing h (hq.mono hk)
  | releasing h hq => exact .releasing h (hq.mono hk)
  | telling h => exact .telling h

theorem keeps_of_none (hl : m'.client = m.client) (hp : m'.permit? = none)
    (hr : m'.returning? = none) : Keeps m m' := by
  refine ⟨hl, fun p h => ?_, fun p h => ?_⟩
  · rw [hp] at h
    cases h
  · rw [hr] at h
    cases h

/-- Who holds a permit on no visit had it, or was told of it just now. -/
theorem keeps_of_holding (h : Sweep.Holding p w') (hm : m.permit? = some p)
    (hl : m.client = l) : Keeps m ⟨l, w', none⟩ := by
  cases h with
  | batch => exact ⟨hl.symm, fun q hq => hm.trans hq, fun q hq => by cases hq⟩
  | leaving => exact ⟨hl.symm, (fun q hq => by cases hq), fun q hq => .inl (hm.trans hq)⟩

theorem keeps_of_telling {R : α → Prop} (h : Sweep.Telling R w') (hl : m.client = l) :
    Keeps m ⟨l, w', none⟩ := by
  cases h with
  | done => exact keeps_of_none hl.symm rfl rfl
  | @call c _ hc => cases c <;> first | exact keeps_of_none hl.symm rfl rfl | cases hc

theorem keeps_of_asking {R : α → Prop} (h : Sweep.Asking R w') (hl : m.client = l) :
    Keeps m ⟨l, w', none⟩ := by
  cases h with
  | clock => exact keeps_of_none hl.symm rfl rfl
  | acquire => exact keeps_of_none hl.symm rfl rfl

/-- A worker that asks for its permit has it only when it has been granted. -/
theorem granted_of_permit? {scope : String} {next : Except Fault (Option Permit) → Sweep α}
    (h : permit? ⟨l, .call (.acquire scope) next, some (r, q)⟩ = some p) :
    q = .done (.acquired (.ok (some p))) := by
  unfold permit? at h
  split at h
  · next heq =>
    cases heq
  · next heq =>
    cases heq
    cases h
    rfl
  · cases h

/-- A worker begins a visit. -/
theorem Shape.visit (h : Shape k ⟨l, w, none⟩) (hr : Fleet.Wants w r) :
    Shape k ⟨l, w, some (r, Visit.plan ⟨l, r⟩)⟩ ∧
      Keeps ⟨l, w, none⟩ ⟨l, w, some (r, Visit.plan ⟨l, r⟩)⟩ := by
  have hstage := Visit.stage_plan ⟨l, r⟩ k
  cases hr with
  | acquire scope next =>
    cases h with
    | asking h =>
      cases h with
      | acquire herror hnone hsome =>
        have hnot : permit? (⟨l, .call (.acquire Sweep.scope) next,
            some (.acquire Sweep.scope, Visit.plan ⟨l, .acquire Sweep.scope⟩)⟩ : Member α) =
              none := by
          rw [Option.eq_none_iff_forall_ne_some]
          exact fun p hp => Visit.plan_ne_granted _ _ (granted_of_permit? hp)
        exact ⟨.acquiring (.acquire herror hnone hsome) hstage, keeps_of_none rfl hnot rfl⟩
    | holding h => cases h
    | telling h =>
      cases h with
      | call hc _ => cases hc
  | release p next =>
    cases h with
    | asking h => cases h
    | holding h =>
      cases h with
      | leaving h =>
        exact ⟨.releasing (.leaving h) hstage, rfl, (fun p hp => by cases hp), fun p hp => .inr hp⟩
    | telling h =>
      cases h with
      | call hc _ => cases hc
  | renew p c rest next =>
    cases h with
    | asking h => cases h
    | holding h =>
      cases h with
      | batch hw h hr =>
        exact ⟨.renewing (.batch hw h hr) hstage, rfl, fun p hp => hp, fun p hp => by cases hp⟩
    | telling h => cases h

/-- A worker is told how its visit went. -/
theorem Shape.told {e : Exchange Call.signature} (h : Shape k ⟨l, w, some (r, q)⟩)
    (he : Fleet.Told r q e) (hs : Sweep.Step w [e] w') :
    Shape k ⟨l, w', none⟩ ∧ Keeps ⟨l, w, some (r, q)⟩ ⟨l, w', none⟩ := by
  cases h with
  | acquiring h hq =>
    cases h with
    | acquire herror hnone hsome =>
      cases he with
      | acquired scope reply =>
        cases hs
        match reply with
        | .error f => exact ⟨.telling (herror f), keeps_of_telling (herror f) rfl⟩
        | .ok none => exact ⟨.telling hnone, keeps_of_telling hnone rfl⟩
        | .ok (some p) => exact ⟨.holding (hsome p), keeps_of_holding (hsome p) rfl rfl⟩
      | notAcquired scope q f =>
        cases hs
        exact ⟨.telling (herror f), keeps_of_telling (herror f) rfl⟩
  | renewing h hq =>
    cases h with
    | batch hw h hr =>
      cases he with
      | renewed p q reply =>
        cases hs with
        | batch =>
          cases hw with
          | call hc _ => cases hc
        | renewal => exact ⟨.holding (.batch hw h hr), keeps_of_holding (.batch hw h hr) rfl rfl⟩
  | releasing h hq =>
    cases h with
    | leaving h =>
      cases he with
      | released p reply =>
        cases hs
        exact ⟨.telling (h _), keeps_of_telling (h _) rfl⟩
      | notReleased p q f =>
        cases hs
        exact ⟨.telling (h _), keeps_of_telling (h _) rfl⟩

/-- A worker goes on without the key server. -/
theorem Shape.work {es : List (Exchange Call.signature)} (h : Shape k ⟨l, w, none⟩)
    (hs : Sweep.Step w es w') (hes : ∀ e ∈ es, Call.isAboutPermits e.call = false) :
    Shape k ⟨l, w', none⟩ ∧ Keeps ⟨l, w, none⟩ ⟨l, w', none⟩ := by
  cases h with
  | asking h =>
    cases h with
    | clock h =>
      cases hs
      exact ⟨.asking (h _), keeps_of_asking (h _) rfl⟩
    | acquire =>
      cases hs
      cases hes _ List.mem_cons_self
  | telling h =>
    cases h with
    | done => cases hs
    | call _ h =>
      cases hs
      exact ⟨.telling (h _), keeps_of_telling (h _) rfl⟩
  | holding h =>
    cases h with
    | leaving =>
      cases hs
      cases hes _ List.mem_cons_self
    | batch hw h hr =>
      cases hs with
      | batch p c rest next reply =>
        cases hw with
        | call _ hw =>
          have hnext := Sweep.Holding.batch (hw reply) h hr
          exact ⟨.holding hnext, keeps_of_holding hnext rfl rfl⟩
      | renewal => cases hes _ List.mem_cons_self
      | finish p result next => exact ⟨.holding (h result), keeps_of_holding (h result) rfl rfl⟩

/-- What a worker calls besides asides and calls about permits, it calls for its batch. -/
theorem Shape.guarded_of_call {es : List (Exchange Call.signature)} {e : Exchange Call.signature}
    (h : Shape k ⟨l, w, none⟩) (hs : Sweep.Step w es w') (he : e ∈ es)
    (haside : Call.isAside e.call = false) (hpermits : Call.isAboutPermits e.call = false) :
    ∃ p batch next, w = .guarded p batch next := by
  cases h with
  | asking h =>
    cases h with
    | clock =>
      cases hs
      cases List.mem_singleton.1 he
      cases haside
    | acquire =>
      cases hs
      cases List.mem_singleton.1 he
      cases hpermits
  | telling h =>
    cases h with
    | done => cases hs
    | call hc =>
      cases hs
      cases List.mem_singleton.1 he
      cases hc.symm.trans haside
  | holding h =>
    cases h with
    | batch => exact ⟨_, _, _, rfl⟩
    | leaving =>
      cases hs
      cases List.mem_singleton.1 he
      cases hpermits

theorem Shape.stage (h : Shape k ⟨l, w, some (r, q)⟩) : Visit.Stage ⟨l, r⟩ q k := by
  cases h with
  | acquiring _ hq => exact hq
  | renewing _ hq => exact hq
  | releasing _ hq => exact hq

/-- Who is on a visit to give a permit back has none any more. -/
theorem Shape.returns (h : Shape k ⟨l, w, some (.release p, q)⟩) :
    returning? ⟨l, w, some (.release p, q)⟩ = some p ∧
      permit? ⟨l, w, some (.release p, q)⟩ = none := by
  cases h with
  | releasing => exact ⟨rfl, rfl⟩

/-- What a worker has after an exchange of its visit it had before, or has just been granted. -/
theorem Shape.exchange {call : Wire.Call} {next : call.Reply → WirePlan Answer}
    {reply : call.Reply} (h : Shape k ⟨l, w, some (r, .call call next)⟩)
    (ha : Keys.Answers k call reply k') :
    Shape k' ⟨l, w, some (r, next reply)⟩ ∧
      ∀ p, permit? ⟨l, w, some (r, next reply)⟩ = some p →
        permit? ⟨l, w, some (r, .call call next)⟩ = some p ∨
        tokenOf? ⟨call, reply⟩ = some p.token ∧
          (0 < l.terms.seconds → k'.token? (l.terms.key Sweep.scope) = some p.token) := by
  cases h with
  | acquiring h hq =>
    obtain ⟨hstage, hrespects, hclaims⟩ := hq.turn ha
    refine ⟨.acquiring h hstage, fun p hp => .inr ?_⟩
    have hdone := granted_of_permit? hp
    obtain ⟨-, hheld⟩ := hrespects _ hdone
    obtain ⟨key, seconds, rfl⟩ := hclaims.granted p hdone
    obtain ⟨hscope, htoken⟩ := hheld p rfl
    rw [← hscope]
    exact ⟨rfl, htoken⟩
  | renewing h hq => exact ⟨.renewing h (hq.turn ha).1, fun p hp => .inl hp⟩
  | releasing h hq => exact ⟨.releasing h (hq.turn ha).1, fun p hp => by cases hp⟩

end Member

/-! ## What holds at every moment -/

namespace Fleet

variable {α : Type} {key : String} {es xs ys : List Event} {f g : Fleet α} {i j : Nat}
  {m m' : Member α} {p q : Permit} {k : Keys}

theorem exchanges_append (xs ys : List Event) :
    exchanges (xs ++ ys) = exchanges xs ++ exchanges ys := List.filterMap_append

theorem mem_exchanges {e : Exchange Wire.Call.signature} :
    (i, e) ∈ exchanges es ↔ .exchanged i e ∈ es := by
  simp only [exchanges, List.mem_filterMap]
  constructor
  · rintro ⟨x, hx, heq⟩
    split at heq
    · cases heq
      exact hx
    · cases heq
  · intro h
    exact ⟨_, h, rfl⟩

def Owns (es : List Event) (i : Nat) (p : Permit) : Prop :=
  ∃ e, .exchanged i e ∈ es ∧ tokenOf? e = some p.token

theorem Owns.mono (h : Owns xs i p) : Owns (xs ++ ys) i p := by
  obtain ⟨e, he, ht⟩ := h
  exact ⟨e, List.mem_append_left ys he, ht⟩

theorem HasExpired.mono (h : HasExpired xs i p) : HasExpired (xs ++ ys) i p := by
  obtain ⟨before, e, after, rfl, ht, hin⟩ := h
  exact ⟨before, e, after ++ ys, by simp, ht, List.mem_append_left ys hin⟩

/-- A token that is gone by itself belongs to a lease that has expired. -/
theorem Owns.expired (h : Owns xs i p) (hin : .expired p.token ∈ ys) :
    HasExpired (xs ++ ys) i p := by
  obtain ⟨e, he, ht⟩ := h
  obtain ⟨before, after, rfl⟩ := List.append_of_mem he
  exact ⟨before, e, after ++ ys, by simp, ht, List.mem_append_right after hin⟩

theorem Owns.unique (hfresh : (claimed (exchanges es)).Nodup) (hi : Owns es i p)
    (hj : Owns es j q) (ht : p.token = q.token) : i = j := by
  obtain ⟨e, he, hetoken⟩ := hi
  obtain ⟨e', he', hetoken'⟩ := hj
  rw [ht] at hetoken
  exact eq_of_claimed hfresh (mem_exchanges.2 he) (mem_exchanges.2 he') hetoken hetoken'

/-- What holds at every moment. Every worker has claimed the tokens of its permits, and the lease of
one that has a permit is there or has expired. -/
structure Sound (key : String) (es : List Event) (f : Fleet α) : Prop where
  terms : ∀ m ∈ f.members, m.client.terms.key Sweep.scope = key ∧ 0 < m.client.terms.seconds
  shape : ∀ m ∈ f.members, m.Shape f.keys
  owns : ∀ i m p, f.members[i]? = some m → m.permit? = some p ∨ m.returning? = some p →
    Owns es i p
  alive : ∀ i m p, f.members[i]? = some m → m.permit? = some p →
    f.keys.token? key = some p.token ∨ HasExpired es i p

theorem forall_mem_set {β : Type} {P : β → Prop} {bs : List β} {b : β} (h : ∀ x ∈ bs, P x)
    (hb : P b) : ∀ x ∈ bs.set i b, P x := by
  intro x hx
  rcases List.mem_or_eq_of_mem_set hx with hx | rfl
  · exact h x hx
  · exact hb

/-- A worker goes on, and the server stays as it is. -/
theorem Sound.keeps (h : Sound key xs f) (hi : f.members[i]? = some m) (hm : m'.Shape f.keys)
    (hk : m.Keeps m') : Sound key (xs ++ ys) ⟨f.keys, f.members.set i m'⟩ := by
  have hin := List.mem_of_getElem? hi
  refine ⟨forall_mem_set h.terms ?_, forall_mem_set h.shape hm, fun j x p hj hp => ?_,
    fun j x p hj hp => ?_⟩
  · rw [hk.client]
    exact h.terms m hin
  · rcases getElem?_set_cases hj with ⟨rfl, rfl⟩ | ⟨-, hj⟩
    · refine (h.owns j m p hi ?_).mono
      exact hp.elim (fun hp => .inl (hk.permit p hp)) (hk.returning p)
    · exact (h.owns j x p hj hp).mono
  · rcases getElem?_set_cases hj with ⟨rfl, rfl⟩ | ⟨-, hj⟩
    · exact (h.alive j m p hi (hk.permit p hp)).imp id .mono
    · exact (h.alive j x p hj hp).imp id .mono

/-- The server changes by itself. -/
theorem Sound.lapse (h : Sound key xs f) (hk : f.keys.Lapses k) :
    Sound key (xs ++ (f.keys.lost k).map .expired) ⟨k, f.members⟩ := by
  have hknown : f.keys.known ⊆ k.known := by rw [hk.known_eq]; exact List.Subset.refl _
  refine ⟨h.terms, fun x hx => (h.shape x hx).mono hknown,
    fun j x p hj hp => (h.owns j x p hj hp).mono, fun j x p hj hp => ?_⟩
  rcases h.alive j x p hj hp with ht | hexpired
  · by_cases hstill : k.token? key = some p.token
    · exact .inl hstill
    · have hlost := List.mem_map_of_mem (f := Event.expired) (Keys.mem_lost ht hstill)
      exact .inr ((h.owns j x p hj (.inl hp)).expired hlost)
  · exact .inr hexpired.mono

/-- The token of a permit stays under the key in every exchange: only the one who has the permit
gives it back, and only when it has it no more. -/
theorem Sound.stays {l : Client} {w : Sweep α} {r : Request} {call : Wire.Call}
    {next : call.Reply → WirePlan Answer} {reply : call.Reply} (h : Sound key xs f)
    (hfresh : (claimed (exchanges xs)).Nodup)
    (hi : f.members[i]? = some ⟨l, w, some (r, .call call next)⟩)
    (ha : Keys.Answers f.keys call reply k) (hj : f.members[j]? = some m) (hp : m.permit? = some p)
    (ht : f.keys.token? key = some p.token) : k.token? key = some p.token := by
  have hshape := h.shape _ (List.mem_of_getElem? hi)
  refine hshape.stage.token?_stays ha (h.terms _ (List.mem_of_getElem? hi)).2 ?_ ht
  rintro q rfl htoken
  obtain ⟨hreturning, hnone⟩ := hshape.returns
  obtain rfl := (h.owns i _ q hi (.inr hreturning)).unique hfresh (h.owns j m p hj (.inl hp)) htoken
  obtain rfl := Option.some.inj (hi.symm.trans hj)
  rw [hnone] at hp
  cases hp

/-- The server answers an exchange. -/
theorem Sound.exchange {l : Client} {w : Sweep α} {r : Request} {call : Wire.Call}
    {next : call.Reply → WirePlan Answer} {reply : call.Reply} (h : Sound key xs f)
    (hfresh : (claimed (exchanges xs)).Nodup)
    (hi : f.members[i]? = some ⟨l, w, some (r, .call call next)⟩)
    (ha : Keys.Answers f.keys call reply k) :
    Sound key (xs ++ [.exchanged i ⟨call, reply⟩])
      ⟨k, f.members.set i ⟨l, w, some (r, next reply)⟩⟩ := by
  have hin := List.mem_of_getElem? hi
  obtain ⟨hkey, hpos⟩ := h.terms _ hin
  obtain ⟨hnext, hnew⟩ := (h.shape _ hin).exchange ha
  have hold {x : Member α} (hx : x ∈ f.members) : x.Shape k :=
    (h.shape x hx).mono (Keys.known_of_answers ha)
  refine ⟨forall_mem_set h.terms ⟨hkey, hpos⟩, forall_mem_set (fun x => hold) hnext,
    fun j x p hj hp => ?_, fun j x p hj hp => ?_⟩
  · rcases getElem?_set_cases hj with ⟨rfl, rfl⟩ | ⟨-, hj⟩
    · rcases hp with hp | hp
      · rcases hnew p hp with hbefore | ⟨hclaimed, -⟩
        · exact (h.owns j _ p hi (.inl hbefore)).mono
        · exact ⟨_, List.mem_append_right xs List.mem_cons_self, hclaimed⟩
      · rw [Member.returning?_eq] at hp
        exact (h.owns j _ p hi (.inr hp)).mono
    · exact (h.owns j x p hj hp).mono
  · rcases getElem?_set_cases hj with ⟨rfl, rfl⟩ | ⟨-, hj⟩
    · rcases hnew p hp with hbefore | ⟨-, hheld⟩
      · exact (h.alive j _ p hi hbefore).imp (h.stays hfresh hi ha hi hbefore) .mono
      · exact .inl (hkey ▸ hheld hpos)
    · exact (h.alive j x p hj hp).imp (h.stays hfresh hi ha hj hp) .mono

theorem Sound.step (h : Sound key xs f) (hfresh : (claimed (exchanges xs)).Nodup)
    (hs : Step f ys g) : Sound key (xs ++ ys) g := by
  cases hs with
  | visit hi hr =>
    obtain ⟨hshape, hkeeps⟩ := (h.shape _ (List.mem_of_getElem? hi)).visit hr
    exact h.keeps hi hshape hkeeps
  | exchange hi ha => exact h.exchange hfresh hi ha
  | told hi he hs =>
    obtain ⟨hshape, hkeeps⟩ := (h.shape _ (List.mem_of_getElem? hi)).told he hs
    exact h.keeps hi hshape hkeeps
  | work hi hs hes =>
    obtain ⟨hshape, hkeeps⟩ := (h.shape _ (List.mem_of_getElem? hi)).work hs hes
    exact h.keeps hi hshape hkeeps
  | lapse hk => exact h.lapse hk

theorem Sound.runs (h : Sound key [] f) (hr : Runs f es g)
    (hfresh : (claimed (exchanges es)).Nodup) : Sound key es g := by
  induction hr with
  | nil => exact h
  | snoc _ hs ih =>
    have hprefix := hfresh
    rw [exchanges_append, claimed_append] at hprefix
    exact (ih hprefix.of_append_left).step hprefix.of_append_left hs

/-- Only who is inside calls anybody about rules, peers, orders and entries. -/
theorem Sound.inside_of_call {e : Exchange Call.signature} (h : Sound key xs f) (hs : Step f ys g)
    (he : .called i e ∈ ys) (haside : Call.isAside e.call = false)
    (hpermits : Call.isAboutPermits e.call = false) : ∃ p, Inside f i p := by
  cases hs with
  | visit => cases he
  | exchange => cases List.mem_singleton.1 he
  | told _ htold =>
    cases List.mem_singleton.1 he
    cases htold <;> cases hpermits
  | @work _ l w _ _ hi hs =>
    obtain ⟨x, hx, heq⟩ := List.mem_map.1 he
    cases heq
    obtain ⟨p, batch, next, rfl⟩ :=
      (h.shape _ (List.mem_of_getElem? hi)).guarded_of_call hs hx haside hpermits
    exact ⟨p, l, batch, next, none, hi⟩
  | lapse =>
    obtain ⟨_, -, heq⟩ := List.mem_map.1 he
    cases heq

/-! ## From the start -/

def start (crew : List (Client × Caller)) (k : Keys) : Fleet Caller.Answer :=
  ⟨k, crew.map fun m => ⟨m.1, m.2.sweep, none⟩⟩

def leaseKey : String := Worker.leaseKeyFront ++ ":" ++ Sweep.scope

theorem permit?_of_asking {R : α → Prop} {l : Client} {w : Sweep α} (h : Sweep.Asking R w) :
    Member.permit? ⟨l, w, none⟩ = none ∧ Member.returning? ⟨l, w, none⟩ = none := by
  cases h with
  | clock | acquire => exact ⟨rfl, rfl⟩

theorem sound_start {crew : List (Client × Caller)}
    (hl : ∀ m ∈ crew, ∃ c : Worker.Config, c.leases = .ok (some m.1)) (k : Keys) :
    Sound leaseKey [] (start crew k) := by
  have hmember {m : Member Caller.Answer} (hm : m ∈ (start crew k).members) :
      ∃ x ∈ crew, m = ⟨x.1, x.2.sweep, none⟩ := by
    obtain ⟨x, hx, rfl⟩ := List.mem_map.1 hm
    exact ⟨x, hx, rfl⟩
  refine ⟨fun m hm => ?_, fun m hm => ?_, fun i m p hi hp => ?_, fun i m p hi hp => ?_⟩
  · obtain ⟨x, hx, rfl⟩ := hmember hm
    obtain ⟨c, hc⟩ := hl x hx
    obtain ⟨hterms, hpos⟩ := Worker.Config.leases_terms hc
    dsimp only
    rw [hterms]
    exact ⟨rfl, hpos⟩
  · obtain ⟨x, -, rfl⟩ := hmember hm
    exact .asking x.2.sweep_asking
  · obtain ⟨x, -, rfl⟩ := hmember (List.mem_of_getElem? hi)
    obtain ⟨hpermit, hreturning⟩ := permit?_of_asking (l := x.1) x.2.sweep_asking
    rw [hpermit, hreturning] at hp
    obtain hp | hp := hp <;> cases hp
  · obtain ⟨x, -, rfl⟩ := hmember (List.mem_of_getElem? hi)
    rw [(permit?_of_asking x.2.sweep_asking).1] at hp
    cases hp

/-- **Two batches overlap only when a lease has expired.** Workers share a key server on the terms
of their configurations, whatever it holds at first, and draw no token twice. Whoever is inside has
its token under the key, or its lease has expired since it took it; so of two that are inside, one
has lost its lease that way. And nobody but those who are inside can call anybody about rules, peers,
orders and entries. -/
theorem overlap_expired {crew : List (Client × Caller)}
    (hl : ∀ m ∈ crew, ∃ c : Worker.Config, c.leases = .ok (some m.1)) {k : Keys}
    {es : List Event} {f : Fleet Caller.Answer} (hr : Runs (start crew k) es f)
    (hfresh : (claimed (exchanges es)).Nodup) :
    (∀ i p, Inside f i p → f.keys.token? leaseKey = some p.token ∨ HasExpired es i p) ∧
    (∀ i j p q, i ≠ j → Inside f i p → Inside f j q → HasExpired es i p ∨ HasExpired es j q) ∧
    ∀ i e ys g, Step f ys g → .called i e ∈ ys → Call.isAside e.call = false →
      Call.isAboutPermits e.call = false → ∃ p, Inside f i p := by
  have hsound := (sound_start hl k).runs hr hfresh
  have halive {i : Nat} {p : Permit} (hin : Inside f i p) :
      f.keys.token? leaseKey = some p.token ∨ HasExpired es i p := by
    obtain ⟨l, batch, next, visit, hi⟩ := hin
    exact hsound.alive i _ p hi rfl
  refine ⟨fun i p => halive, fun i j p q hne hp hq => ?_,
    fun i e ys g hs he => hsound.inside_of_call hs he⟩
  rcases halive hp, halive hq with ⟨hi | hi, hj | hj⟩
  · obtain ⟨l, batch, next, visit, hp⟩ := hp
    obtain ⟨l', batch', next', visit', hq⟩ := hq
    have htoken : p.token = q.token := Option.some.inj (hi.symm.trans hj)
    exact absurd ((hsound.owns i _ p hp (.inl rfl)).unique hfresh (hsound.owns j _ q hq (.inl rfl))
      htoken) hne
  · exact .inr hj
  · exact .inl hi
  · exact .inl hi

/-! ### A renewal that comes too late -/

theorem Runs.one (h : Step f ys g) : Runs f ys g := .snoc (.nil f) h

theorem Runs.append {h : Fleet α} (hr : Runs f xs g) (hs : Runs g ys h) : Runs f (xs ++ ys) h := by
  induction hs with
  | nil => simpa using hr
  | snoc _ hs ih =>
    rw [← List.append_assoc]
    exact .snoc ih hs

/-- The server answers a worker that is on a visit already. -/
theorem Step.exchange_on {ms : List (Member α)} {l : Client} {w : Sweep α} {r : Request}
    {call : Wire.Call} {next : call.Reply → WirePlan Answer} {reply : call.Reply} {k m : Keys}
    (hlt : i < ms.length) (ha : Keys.Answers k call reply m) :
    Step ⟨k, ms.set i ⟨l, w, some (r, .call call next)⟩⟩ [.exchanged i ⟨call, reply⟩]
      ⟨m, ms.set i ⟨l, w, some (r, next reply)⟩⟩ := by
  have hs := Step.exchange (f := ⟨k, ms.set i ⟨l, w, some (r, .call call next)⟩⟩)
    (List.getElem?_set_self hlt) ha
  simpa only [List.set_set] using hs

/-- What happens when a worker gets in. -/
def entering (i : Nat) (l : Client) (scope : String) (fresh : RuleId) : List Event :=
  let token := l.terms.token fresh.text
  [.exchanged i ⟨.freshId, fresh⟩, .exchanged i ⟨.openKeys l.server, .ok ()⟩,
    .exchanged i ⟨.command (.claim (l.terms.key scope) token l.terms.seconds), .status "OK"⟩,
    .called i ⟨.acquire scope, .ok (some ⟨scope, token⟩)⟩]

/-- A worker that asks for a free key gets in. -/
theorem runs_entering {l : Client} {scope : String} {next : Except Fault (Option Permit) → Sweep α}
    (hi : f.members[i]? = some ⟨l, .call (.acquire scope) next, none⟩)
    (hscope : Text.allBlank scope = false) (hfree : f.keys.token? (l.terms.key scope) = none)
    (fresh : RuleId) :
    Runs f (entering i l scope fresh)
      ⟨f.keys.put (l.terms.key scope) (l.terms.token fresh.text) l.terms.seconds,
        f.members.set i ⟨l, next (.ok (some ⟨scope, l.terms.token fresh.text⟩)), none⟩⟩ := by
  obtain ⟨hlt, -⟩ := List.getElem?_eq_some_iff.1 hi
  have hvisit := Step.visit hi (.acquire scope next)
  rw [plan_acquire l hscope] at hvisit
  have hclaim := Keys.execute_claim_free (l.terms.token fresh.text) l.terms.seconds hfree
  have hdrawn : Keys.Answers f.keys .freshId fresh f.keys := rfl
  have hreached : Keys.Answers f.keys (.openKeys l.server) (.ok () : Except String Unit) f.keys :=
    rfl
  have hanswer : Keys.Answers f.keys (.command (.claim (l.terms.key scope)
      (l.terms.token fresh.text) l.terms.seconds)) (.status "OK") _ :=
    ⟨(congrArg Prod.fst hclaim).symm, (congrArg Prod.snd hclaim).symm⟩
  have hclaimed := (Runs.one hvisit).snoc (.exchange_on hlt hdrawn)
    |>.snoc (.exchange_on hlt hreached) |>.snoc (.exchange_on hlt hanswer)
  have htold := hclaimed.snoc (.told (List.getElem?_set_self hlt) (.acquired scope _) (.call _ _ _))
  rw [List.set_set] at htold
  exact htold

/-- A worker works. -/
theorem runs_work {l : Client} {w w' : Sweep α} {zs : List (Exchange Call.signature)}
    (hw : Sweep.Steps w zs w') (hzs : ∀ e ∈ zs, Call.isAboutPermits e.call = false)
    (hi : f.members[i]? = some ⟨l, w, none⟩) :
    Runs f (zs.map (.called i)) ⟨f.keys, f.members.set i ⟨l, w', none⟩⟩ := by
  obtain ⟨hlt, -⟩ := List.getElem?_eq_some_iff.1 hi
  induction hw generalizing f with
  | nil w =>
    obtain ⟨_, hw⟩ := List.getElem?_eq_some_iff.1 hi
    rw [← hw, List.set_getElem_self]
    exact .nil f
  | cons hs _ ih =>
    obtain ⟨hfirst, hrest⟩ := List.forall_mem_append.1 hzs
    have hnext := ih hrest (f := ⟨f.keys, f.members.set i _⟩) (List.getElem?_set_self hlt)
      (by simpa using hlt)
    rw [List.map_append]
    simpa only [List.set_set] using (Runs.one (.work hi hs hfirst)).append hnext

/-- The calls of a batch up to its first order. -/
def upToOrder : List (Exchange Call.signature) :=
  [⟨.listActive, .ok [.ofRule Run.inboundRule]⟩, ⟨.listPeers, .ok [Run.inboundPeer]⟩,
    ⟨.now, ⟨250⟩⟩, ⟨.log (.disconnecting "4"), ()⟩]

/-- The worker is inside, and its next call is an order to the node. -/
def AboutToOrder (f : Fleet α) (i : Nat) (p : Permit) : Prop :=
  ∃ l o waitMs rest next visit,
    f.members[i]? = some ⟨l, .guarded p (.call (.control o waitMs) rest) next, visit⟩

theorem AboutToOrder.inside (h : AboutToOrder f i p) : Inside f i p := by
  obtain ⟨l, o, waitMs, rest, next, visit, hi⟩ := h
  exact ⟨l, _, next, visit, hi⟩

theorem exists_upToOrder (limitMs : Nat) : ∃ enter,
    (Caller.manual limitMs).sweep = .call (.acquire Sweep.scope) enter ∧
    ∀ p, ∃ waitMs rest next, Sweep.Steps (enter (.ok (some p))) upToOrder
      (.guarded p (.call (.control (.disconnect "4") waitMs) rest) next) :=
  ⟨_, rfl, fun _ => ⟨_, _, _, .cons (.batch _ _ _ _ _) <|
    .cons (.batch _ _ _ _ _) <|
    .cons (.batch _ _ _ _ _) <|
    .cons (.batch _ _ _ _ _) <|
    .nil _⟩⟩

/-- A worker that finds its key free comes as far as its first order. -/
theorem exists_ordering {f : Fleet Caller.Answer} {l : Client} {limitMs : Nat}
    (hi : f.members[i]? = some ⟨l, (Caller.manual limitMs).sweep, none⟩)
    (hfree : f.keys.token? (l.terms.key Sweep.scope) = none) (fresh : RuleId) :
    ∃ waitMs rest next,
      Runs f (entering i l Sweep.scope fresh ++ upToOrder.map (.called i))
        ⟨f.keys.put (l.terms.key Sweep.scope) (l.terms.token fresh.text) l.terms.seconds,
          f.members.set i ⟨l, .guarded ⟨Sweep.scope, l.terms.token fresh.text⟩
            (.call (.control (.disconnect "4") waitMs) rest) next, none⟩⟩ := by
  obtain ⟨enter, hsweep, hwork⟩ := exists_upToOrder limitMs
  obtain ⟨waitMs, rest, next, hsteps⟩ := hwork ⟨Sweep.scope, l.terms.token fresh.text⟩
  have hsays : Text.allBlank Sweep.scope = false := by decide +kernel
  have hnone : ∀ e ∈ upToOrder, Call.isAboutPermits e.call = false := by decide
  obtain ⟨hlt, -⟩ := List.getElem?_eq_some_iff.1 hi
  rw [hsweep] at hi
  have hentered := runs_entering hi hsays hfree fresh
  have hworked := hentered.append (runs_work hsteps hnone (List.getElem?_set_self hlt))
  rw [List.set_set] at hworked
  exact ⟨waitMs, rest, next, hworked⟩

/-- A worker with a name, whose leases last a second. -/
def rival (name : String) : Client :=
  ⟨Worker.secondClient.server, { Worker.secondClient.terms with holder := name }⟩

/-- Two of them, each with a caller who waits for the reports. -/
def pair : List (Client × Caller) :=
  [(rival "worker-1", .manual 10000), (rival "worker-2", .manual 10000)]

theorem leases_pair : ∀ m ∈ pair, ∃ c : Worker.Config, c.leases = .ok (some m.1) := by
  intro m hm
  obtain rfl | rfl : m = _ ∨ m = _ := by simpa [pair] using hm
  · exact ⟨{ Worker.secondConfig with workerId := "worker-1" }, by decide +kernel⟩
  · exact ⟨{ Worker.secondConfig with workerId := "worker-2" }, by decide +kernel⟩

/-- The permit that the first is granted, and the one that the second is granted. -/
def firstPermit : Permit := ⟨Sweep.scope, (rival "worker-1").terms.token (RuleId.ofNat 1).text⟩

def secondPermit : Permit := ⟨Sweep.scope, (rival "worker-2").terms.token (RuleId.ofNat 2).text⟩

/-- The server when the first is inside, and after a second. -/
def held : Keys := Keys.empty.put leaseKey firstPermit.token 1

def lapsed : Keys := held.advance 1000

/-- The lease of the first expires. -/
theorem step_lapsed (ms : List (Member α)) :
    Step ⟨held, ms⟩ [.expired firstPermit.token] ⟨lapsed, ms⟩ := by
  have hlost : held.lost lapsed = [firstPermit.token] := by decide +kernel
  have hs := Step.lapse (f := ⟨held, ms⟩) (.inl ⟨1000, rfl⟩ : held.Lapses lapsed)
  rwa [hlost] at hs

theorem token?_lapsed : lapsed.token? leaseKey = none := by decide +kernel

/-- The lease of the first expires while its renewal is on the way. -/
def lost : List Event :=
  entering 0 (rival "worker-1") Sweep.scope (.ofNat 1) ++ upToOrder.map (.called 0) ++
    [.expired firstPermit.token]

/-- The second takes the lease, and then the first is told that it has none. -/
def lateRenewal : List Event :=
  lost ++ (entering 1 (rival "worker-2") Sweep.scope (.ofNat 2) ++ upToOrder.map (.called 1)) ++
    [.called 0 ⟨.renew firstPermit, .ok false⟩]

theorem exists_lost : ∃ waitMs rest next q, Runs (start pair .empty) lost ⟨lapsed,
    [⟨rival "worker-1", .guarded firstPermit (.call (.control (.disconnect "4") waitMs) rest) next,
        some (.renew firstPermit, q)⟩,
      ⟨rival "worker-2", (Caller.manual 10000).sweep, none⟩]⟩ := by
  obtain ⟨waitMs, rest, next, hfirst⟩ :=
    exists_ordering (f := start pair .empty) (i := 0) rfl rfl (.ofNat 1)
  have hrenewing := hfirst.snoc (.visit (i := 0) rfl (.renew _ _ _ _))
  exact ⟨waitMs, rest, next, _, hrenewing.snoc (step_lapsed _)⟩

theorem exists_lateRenewal : ∃ f, Runs (start pair .empty) lateRenewal f ∧
    AboutToOrder f 0 firstPermit ∧ AboutToOrder f 1 secondPermit := by
  obtain ⟨waitMs, rest, next, q, hlost⟩ := exists_lost
  obtain ⟨waitMs', rest', next', hsecond⟩ :=
    exists_ordering (f := ⟨lapsed, [_, _]⟩) (i := 1) (l := rival "worker-2") rfl token?_lapsed
      (.ofNat 2)
  have hboth := hlost.append hsecond
  have htold := hboth.snoc (.told (i := 0) rfl (.renewed _ _ (.ok false)) (.renewal _ _ _ _ _))
  exact ⟨_, htold, ⟨_, _, _, _, _, _, rfl⟩, ⟨_, _, _, _, _, _, rfl⟩⟩

/-- Workers with leases from their configurations can both be inside, each about to give an order to
the node: a worker that is told that it has no lease any more goes on. -/
theorem inside_together : ¬ ∀ (crew : List (Client × Caller)) (k : Keys) (es : List Event)
    (f : Fleet Caller.Answer), (∀ m ∈ crew, ∃ c : Worker.Config, c.leases = .ok (some m.1)) →
    Runs (start crew k) es f → (claimed (exchanges es)).Nodup →
    ∀ i j p q, i ≠ j → AboutToOrder f i p → ¬ AboutToOrder f j q := by
  obtain ⟨f, hr, hfirst, hsecond⟩ := exists_lateRenewal
  intro h
  exact h pair .empty lateRenewal f leases_pair hr (by decide +kernel) 0 1 _ _ (by decide) hfirst
    hsecond

theorem overlap_expired_lateRenewal : (∀ m ∈ pair, ∃ c : Worker.Config,
      c.leases = .ok (some m.1)) ∧ (claimed (exchanges lateRenewal)).Nodup ∧
    ∃ f, Runs (start pair .empty) lateRenewal f ∧ Inside f 0 firstPermit ∧
      Inside f 1 secondPermit ∧
      (HasExpired lateRenewal 0 firstPermit ∨ HasExpired lateRenewal 1 secondPermit) := by
  obtain ⟨f, hr, hfirst, hsecond⟩ := exists_lateRenewal
  have hfresh : (claimed (exchanges lateRenewal)).Nodup := by decide +kernel
  have hexpired := (overlap_expired leases_pair hr hfresh).2.1 0 1 _ _ (by decide) hfirst.inside
    hsecond.inside
  exact ⟨leases_pair, hfresh, f, hr, hfirst.inside, hsecond.inside, hexpired⟩

end Fleet

end PeerRules.Lease
