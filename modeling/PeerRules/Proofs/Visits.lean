import PeerRules.Lease.Client
import PeerRules.Proofs.Tokens

/-!
# Visits to the key server

A visit takes a lease, extends one or gives one back. It is a few exchanges with the server, and
others may come between them. `Acquiring` and `Calling` say how far a visit has come. What its next
exchange does, and what is left of it then, is said once for a visit that claims (`AcquireTurn`) and
once for a visit that calls a script (`CallTurn`).

* `Acquiring.turn`, `Calling.turn`: the next exchange.
* `CallTurn.holdings_eq`, `CallTurn.answer`: what a script does, and what it answers.
* `Visit.Stage.turn`: the next exchange of any visit.
-/
namespace PeerRules.Lease

/-! ## Visits -/

inductive Request where
  | acquire (scope : String)
  | renew (permit : Permit)
  | release (permit : Permit)

inductive Answer where
  | acquired (r : Except Fault (Option Permit))
  | renewed (r : Except Fault Bool)
  | released (r : Except Fault Unit)

/-- A visit to the key server, by a worker with terms of its own. -/
structure Visit where
  client : Client
  request : Request

def Visit.plan (v : Visit) : WirePlan Answer :=
  match v.request with
  | .acquire scope => (v.client.acquire scope).bind fun r => .done (.acquired r)
  | .renew permit => (v.client.renew permit).bind fun r => .done (.renewed r)
  | .release permit => (v.client.release permit).bind fun r => .done (.released r)

/-! ### Acquiring -/

section Acquiring

variable {l : Client} {scope : String} {k m : Keys}

def claimAnswer (scope token : String) (reply : Reply) : Answer :=
  .acquired (match reply.granted with
    | .error reason => .error (Client.failedTo "acquire" reason)
    | .ok false => .ok none
    | .ok true => .ok (some ⟨scope, token⟩))

/-- What is left of an acquisition when it is connected. -/
def claiming (l : Client) (scope token : String) : WirePlan Answer :=
  .call (.command (.claim (l.terms.key scope) token l.terms.seconds)) fun reply =>
    .done (claimAnswer scope token reply)

/-- What is left of an acquisition when its token is drawn. -/
def opening (l : Client) (scope token : String) : WirePlan Answer :=
  .call (.openKeys l.server) fun reply : Except String Unit => match reply with
    | .error reason => .done (.acquired (.error (Client.unreachable reason)))
    | .ok () => claiming l scope token

/-- An acquisition of a scope that says something. -/
def drawing (l : Client) (scope : String) : WirePlan Answer :=
  .call .freshId fun fresh : RuleId => opening l scope (l.terms.token fresh.text)

/-- How far an acquisition has come. -/
inductive Acquiring (l : Client) (scope : String) : WirePlan Answer → Prop where
  | drawing : Acquiring l scope (drawing l scope)
  | opening (token : String) : Acquiring l scope (opening l scope token)
  | claiming (token : String) : Acquiring l scope (claiming l scope token)
  | ended (a : Answer) : Acquiring l scope (.done a)

theorem plan_acquire (l : Client) {scope : String} (h : Text.allBlank scope = false) :
    Visit.plan ⟨l, .acquire scope⟩ = drawing l scope := by
  change (l.acquire scope).bind _ = _
  unfold Client.acquire
  rw [h]
  refine congrArg (Plan.call (P := Wire.Call.signature) Wire.Call.freshId)
    (funext fun fresh => ?_)
  refine congrArg (Plan.call (P := Wire.Call.signature) (Wire.Call.openKeys l.server))
    (funext fun reply => ?_)
  rcases reply with reason | ⟨⟩
  · rfl
  · refine congrArg (Plan.call (P := Wire.Call.signature) (Wire.Call.command _))
      (funext fun reply => ?_)
    refine (congrArg (fun p => Plan.bind p _)
      (Plan.done_bind (P := Wire.Call.signature) reply _)).trans ?_
    unfold claimAnswer
    rcases reply.granted with reason | _ | _ <;> rfl

theorem plan_acquire_blank (l : Client) {scope : String} (h : Text.allBlank scope = true) :
    ∃ f, Visit.plan ⟨l, .acquire scope⟩ = .done (.acquired (.error f)) :=
  ⟨_, congrArg (fun q => Plan.bind q fun r => .done (Answer.acquired r))
    (Client.acquire_blank h)⟩

/-- What an exchange of an acquisition does, and what is left of the acquisition then. -/
inductive AcquireTurn (l : Client) (scope : String) (k : Keys) :
    Wire.Call → WirePlan Answer → Keys → Prop where
  | before {call : Wire.Call} {q : WirePlan Answer} (hc : ∀ c, call ≠ .command c)
      (hq : Acquiring l scope q) (hr : ∀ r, q ≠ .done (.acquired (.ok r))) :
      AcquireTurn l scope k call q k
  | granted (token : String) (h : k.token? (l.terms.key scope) = none) :
      AcquireTurn l scope k (.command (.claim (l.terms.key scope) token l.terms.seconds))
        (.done (.acquired (.ok (some ⟨scope, token⟩))))
        (k.put (l.terms.key scope) token l.terms.seconds)
  | held (token : String) {other : String} (h : k.token? (l.terms.key scope) = some other) :
      AcquireTurn l scope k (.command (.claim (l.terms.key scope) token l.terms.seconds))
        (.done (.acquired (.ok none))) k

theorem AcquireTurn.acquiring {call : Wire.Call} {q : WirePlan Answer}
    (h : AcquireTurn l scope k call q m) : Acquiring l scope q := by
  cases h with
  | before _ hq _ => exact hq
  | granted => exact .ended _
  | held => exact .ended _

theorem Acquiring.turn {call : Wire.Call} {next : call.Reply → WirePlan Answer}
    {reply : call.Reply} (h : Acquiring l scope (.call call next))
    (ha : Keys.Answers k call reply m) : AcquireTurn l scope k call (next reply) m := by
  generalize hq : (.call call next : WirePlan Answer) = q at h
  cases h with
  | drawing =>
    cases hq
    obtain rfl := ha
    exact .before (fun c hc => nomatch hc) (.opening _) (fun r hr => nomatch hr)
  | opening token =>
    cases hq
    obtain rfl := ha
    rcases reply with reason | ⟨⟩
    · exact .before (fun c hc => nomatch hc) (.ended _) (fun r hr => by cases hr)
    · exact .before (fun c hc => nomatch hc) (.claiming token) (fun r hr => nomatch hr)
  | claiming token =>
    cases hq
    obtain ⟨rfl, rfl⟩ := ha
    cases ht : k.token? (l.terms.key scope) with
    | none =>
      have hx : k.execute (.claim (l.terms.key scope) token l.terms.seconds) =
          (.status "OK", k.put (l.terms.key scope) token l.terms.seconds) := by
        simp [Keys.execute, ht]
      rw [hx]
      exact .granted token ht
    | some other =>
      rw [Keys.execute_claim_held ht]
      exact .held token ht
  | ended a => cases hq

end Acquiring

/-! ### Extending and giving back -/

section Calling

variable {l : Client} {what key token : String} {c : Command} {s : Script}
  {finish : Except Fault Int → Answer} {k m : Keys}

/-- What is left of a visit that calls a script when the reply is there. -/
def called (what : String) (finish : Except Fault Int → Answer) (reply : Reply) : WirePlan Answer :=
  .done (finish (reply.number.mapError (Client.failedTo what)))

/-- What is left when the server has the script: to call it again. -/
def again (what : String) (c : Command) (finish : Except Fault Int → Answer) : WirePlan Answer :=
  .call (.command c) fun reply : Reply => called what finish reply

/-- What is left when the server did not know the script. -/
def loading (what : String) (c : Command) (s : Script) (finish : Except Fault Int → Answer) :
    WirePlan Answer :=
  .call (.command (.load s)) fun reply : Reply => match reply with
    | .refused code detail => called what finish (.refused code detail)
    | .garbled => called what finish .garbled
    | _ => again what c finish

/-- What is left when the visit is connected. -/
def asking (what : String) (c : Command) (s : Script) (finish : Except Fault Int → Answer) :
    WirePlan Answer :=
  .call (.command c) fun reply : Reply =>
    if Client.isUnknownScript reply then loading what c s finish else called what finish reply

/-- A visit that calls a script. -/
def connecting (l : Client) (what : String) (c : Command) (s : Script)
    (finish : Except Fault Int → Answer) : WirePlan Answer :=
  .call (.openKeys l.server) fun reply : Except String Unit => match reply with
    | .error reason => .done (finish (.error (Client.unreachable reason)))
    | .ok () => asking what c s finish

theorem run_bind (h : c.script? = some s) :
    (Client.run c).bind (called what finish) = asking what c s finish := by
  refine congrArg (Plan.call (P := Wire.Call.signature) (Wire.Call.command c))
    (funext fun reply => ?_)
  refine (congrArg (fun p => Plan.bind p _)
    (Plan.done_bind (P := Wire.Call.signature) reply _)).trans ?_
  rw [h]
  cases Client.isUnknownScript reply with
  | false => rfl
  | true =>
    refine congrArg (Plan.call (P := Wire.Call.signature) (Wire.Call.command (.load s)))
      (funext fun answer => ?_)
    cases answer <;> rfl

theorem number_bind (l : Client) (h : c.script? = some s) :
    (l.number what c).bind (fun n => .done (finish n)) = connecting l what c s finish := by
  refine congrArg (Plan.call (P := Wire.Call.signature) (Wire.Call.openKeys l.server))
    (funext fun reply => ?_)
  rcases reply with reason | ⟨⟩
  · rfl
  · exact (Plan.bind_assoc (Client.run c) _ _).trans (run_bind h)

/-- How far a visit that calls a script has come. When it calls the script again, the server has
it. -/
inductive Calling (l : Client) (what : String) (c : Command) (s : Script)
    (finish : Except Fault Int → Answer) : WirePlan Answer → Keys → Prop where
  | connecting (k : Keys) : Calling l what c s finish (connecting l what c s finish) k
  | asking (k : Keys) : Calling l what c s finish (asking what c s finish) k
  | loading (k : Keys) : Calling l what c s finish (loading what c s finish) k
  | again {k : Keys} (h : s ∈ k.known) : Calling l what c s finish (again what c finish) k
  | ended (a : Answer) (k : Keys) : Calling l what c s finish (.done a) k

/-- The number that a script gives when the server has it. -/
theorem called_known (hc : Keys.Calls c s key token) (h : s ∈ k.known) :
    Client.isUnknownScript (k.execute c).1 = false ∧ called what finish (k.execute c).1 =
      .done (finish (.ok (if k.token? key = some token then 1 else 0))) := by
  obtain ⟨effect, he⟩ := hc.2 k
  rw [he, Keys.call, if_pos h]
  split
  · exact ⟨rfl, rfl⟩
  · exact ⟨rfl, rfl⟩

theorem execute_unknown (hc : Keys.Calls c s key token) (h : s ∉ k.known) :
    k.execute c = (Keys.unknownScript, k) := by
  obtain ⟨effect, he⟩ := hc.2 k
  rw [he, Keys.call, if_neg h]

/-- What an exchange of the visit does, and what is left of the visit then. -/
inductive CallTurn (l : Client) (what : String) (c : Command) (s : Script) (key token : String)
    (finish : Except Fault Int → Answer) (k : Keys) :
    Wire.Call → WirePlan Answer → Keys → Prop where
  | connected : CallTurn l what c s key token finish k (.openKeys l.server)
      (asking what c s finish) k
  | unreachable (reason : String) : CallTurn l what c s key token finish k (.openKeys l.server)
      (.done (finish (.error (Client.unreachable reason)))) k
  | unknown : CallTurn l what c s key token finish k (.command c) (loading what c s finish) k
  | loaded : CallTurn l what c s key token finish k (.command (.load s)) (again what c finish)
      { k with known := s :: k.known }
  | called : CallTurn l what c s key token finish k (.command c)
      (.done (finish (.ok (if k.token? key = some token then 1 else 0)))) (k.execute c).2

theorem Calling.turn {call : Wire.Call} {next : call.Reply → WirePlan Answer}
    {reply : call.Reply} (hc : Keys.Calls c s key token)
    (h : Calling l what c s finish (.call call next) k) (ha : Keys.Answers k call reply m) :
    CallTurn l what c s key token finish k call (next reply) m := by
  generalize hq : (.call call next : WirePlan Answer) = q at h
  cases h with
  | connecting =>
    cases hq
    obtain rfl := ha
    rcases reply with reason | ⟨⟩
    · exact .unreachable reason
    · exact .connected
  | asking =>
    cases hq
    obtain ⟨rfl, rfl⟩ := ha
    dsimp only
    by_cases hknown : s ∈ k.known
    · obtain ⟨hfound, hcalled⟩ := @called_known what key token c s finish k hc hknown
      rw [hfound, if_neg Bool.false_ne_true, hcalled]
      exact .called
    · rw [execute_unknown hc hknown]
      exact .unknown
  | loading =>
    cases hq
    obtain ⟨rfl, rfl⟩ := ha
    exact .loaded
  | again hknown =>
    cases hq
    obtain ⟨rfl, rfl⟩ := ha
    dsimp only
    rw [(called_known hc hknown).2]
    exact .called
  | ended a => cases hq

/-- The visit goes on as it should. -/
theorem CallTurn.calling {call : Wire.Call} {q : WirePlan Answer}
    (h : CallTurn l what c s key token finish k call q m) : Calling l what c s finish q m := by
  cases h with
  | connected => exact .asking k
  | unreachable => exact .ended _ k
  | unknown => exact .loading k
  | loaded => exact .again List.mem_cons_self
  | called => exact .ended _ _

/-- Nothing is claimed on the way. -/
theorem CallTurn.claims_nothing {call : Wire.Call} {q : WirePlan Answer} {other t : String}
    {seconds : Nat} (hc : Keys.Calls c s key token)
    (h : CallTurn l what c s key token finish k call q m) :
    call ≠ .command (.claim other t seconds) := by
  rintro rfl
  cases h with
  | unknown | called => cases hc.1

/-- Who has another token changes nothing that is held. -/
theorem CallTurn.holdings_eq {call : Wire.Call} {q : WirePlan Answer}
    (hc : Keys.Calls c s key token) (h : CallTurn l what c s key token finish k call q m)
    (ht : k.token? key ≠ some token) : m.holdings = k.holdings ∧ m.clock = k.clock := by
  cases h with
  | connected | unreachable | unknown | loaded => exact ⟨rfl, rfl⟩
  | called =>
    obtain ⟨effect, he⟩ := hc.2 k
    rw [he, Keys.call, if_neg ht]
    split <;> exact ⟨rfl, rfl⟩

/-- The answer says whether the token was under the key. -/
theorem CallTurn.answer {call : Wire.Call} {a : Answer}
    (h : CallTurn l what c s key token finish k call (.done a) m) :
    (∃ reason, a = finish (.error (Client.unreachable reason))) ∨
      a = finish (.ok (if k.token? key = some token then 1 else 0)) := by
  generalize hq : (.done a : WirePlan Answer) = q at h
  cases h with
  | unreachable reason =>
    cases hq
    exact .inl ⟨reason, rfl⟩
  | called =>
    cases hq
    exact .inr rfl
  | connected | unknown | loaded => cases hq

theorem Calling.mono {q : WirePlan Answer} (h : Calling l what c s finish q k)
    (hk : k.known ⊆ m.known) : Calling l what c s finish q m := by
  cases h with
  | connecting => exact .connecting m
  | asking => exact .asking m
  | loading => exact .loading m
  | again hknown => exact .again (hk hknown)
  | ended a => exact .ended a m

end Calling

/-! ### One exchange of a visit -/

namespace Visit

variable {v : Visit} {k m : Keys}

def key (v : Visit) (p : Permit) : String := v.client.terms.key p.scope

def renewal (v : Visit) (p : Permit) : Command :=
  .renew (v.key p) p.token v.client.terms.seconds

def giveBack (v : Visit) (p : Permit) : Command := .release (v.key p) p.token

def renewAnswer (n : Except Fault Int) : Answer := .renewed (n.map fun n => 0 < n)

def releaseAnswer (n : Except Fault Int) : Answer := .released (n.map fun _ => ())

/-- How far a visit has come, at a state of the server. -/
def Stage (v : Visit) (q : WirePlan Answer) (k : Keys) : Prop :=
  match v.request with
  | .acquire scope => Acquiring v.client scope q
  | .renew p => Calling v.client "renew" (v.renewal p) .renew renewAnswer q k
  | .release p => Calling v.client "release" (v.giveBack p) .release releaseAnswer q k

theorem plan_renew (l : Client) (p : Permit) : plan ⟨l, .renew p⟩ =
    connecting l "renew" (renewal ⟨l, .renew p⟩ p) .renew renewAnswer :=
  (Plan.bind_assoc _ _ _).trans (number_bind l rfl)

theorem plan_release (l : Client) (p : Permit) : plan ⟨l, .release p⟩ =
    connecting l "release" (giveBack ⟨l, .release p⟩ p) .release releaseAnswer :=
  (Plan.bind_assoc _ _ _).trans (number_bind l rfl)

theorem stage_plan (v : Visit) (k : Keys) : v.Stage v.plan k := by
  obtain ⟨l, scope | p | p⟩ := v
  · cases hb : Text.allBlank scope with
    | true =>
      obtain ⟨f, hplan⟩ := plan_acquire_blank l hb
      rw [hplan]
      exact .ended _
    | false =>
      rw [plan_acquire l hb]
      exact .drawing
  · rw [plan_renew]
    exact .connecting k
  · rw [plan_release]
    exact .connecting k

/-- Nothing is granted before anything was claimed. -/
theorem plan_ne_granted (v : Visit) (r : Option Permit) :
    v.plan ≠ .done (.acquired (.ok r)) := by
  obtain ⟨l, scope | p | p⟩ := v
  · cases hb : Text.allBlank scope with
    | true =>
      obtain ⟨f, hplan⟩ := plan_acquire_blank l hb
      rw [hplan]
      nofun
    | false =>
      rw [plan_acquire l hb]
      nofun
  · rw [plan_renew]
    nofun
  · rw [plan_release]
    nofun

theorem Stage.mono {q : WirePlan Answer} (h : v.Stage q k) (hk : k.known ⊆ m.known) :
    v.Stage q m := by
  obtain ⟨l, scope | p | p⟩ := v
  · exact h
  · exact Calling.mono h hk
  · exact Calling.mono h hk

/-- What an exchange of a visit may do to the server, when `q` is left of the visit. A claim is
granted exactly where nothing is held, and then its token is held. Who has a permit that is not the
one that is held changes nothing that is held, and is told so. -/
def Respects (v : Visit) (k : Keys) (q : WirePlan Answer) (m : Keys) : Prop :=
  match v.request with
  | .acquire scope => ∀ r, q = .done (.acquired (.ok r)) →
      (r.isSome ↔ k.token? (v.client.terms.key scope) = none) ∧
      ∀ p, r = some p → p.scope = scope ∧
        (0 < v.client.terms.seconds → m.token? (v.key p) = some p.token)
  | .renew p =>
      (k.token? (v.key p) ≠ some p.token → m.holdings = k.holdings ∧ m.clock = k.clock) ∧
      ∀ r, q = .done (.renewed r) → (∃ reason, r = .error (Client.unreachable reason)) ∨
        r = .ok (decide (k.token? (v.key p) = some p.token))
  | .release p =>
      (k.token? (v.key p) ≠ some p.token → m.holdings = k.holdings ∧ m.clock = k.clock) ∧
      ∀ r, q = .done (.released r) → (∃ reason, r = .error (Client.unreachable reason)) ∨ r = .ok ()

/-- A claim is what grants a permit, and one where nothing is held does. -/
structure Claims (v : Visit) (k : Keys) (call : Wire.Call) (q : WirePlan Answer) : Prop where
  granted : ∀ p, q = .done (.acquired (.ok (some p))) →
    ∃ key seconds, call = .command (.claim key p.token seconds)
  free : ∀ key token seconds, call = .command (.claim key token seconds) → k.token? key = none →
    ∃ p, q = .done (.acquired (.ok (some p))) ∧ v.key p = key ∧ p.token = token

theorem respects_of_acquireTurn {l : Client} {scope : String} {call : Wire.Call}
    {q : WirePlan Answer} (h : AcquireTurn l scope k call q m) :
    Respects ⟨l, .acquire scope⟩ k q m := by
  intro r hq
  cases h with
  | before _ _ hr => exact absurd hq (hr r)
  | granted token hnone =>
    cases hq
    refine ⟨iff_of_true rfl hnone, fun p hp => ?_⟩
    cases hp
    exact ⟨rfl, Keys.token?_put_self k⟩
  | held token hheld =>
    cases hq
    refine ⟨iff_of_false (by simp) (by simp [hheld]), fun p hp => ?_⟩
    cases hp

theorem claims_of_acquireTurn {l : Client} {scope : String} {call : Wire.Call}
    {q : WirePlan Answer} (h : AcquireTurn l scope k call q m) :
    Claims ⟨l, .acquire scope⟩ k call q := by
  cases h with
  | before hc _ hr =>
    exact ⟨fun p hp => absurd hp (hr _), fun key token seconds hcall => absurd hcall (hc _)⟩
  | granted token hnone =>
    refine ⟨fun p hp => ?_, fun key other seconds hcall _ => ?_⟩
    · cases hp
      exact ⟨_, _, rfl⟩
    · cases hcall
      exact ⟨_, rfl, rfl, rfl⟩
  | held token hheld =>
    refine ⟨fun p hp => ?_, fun key other seconds hcall hnone => ?_⟩
    · cases hp
    · cases hcall
      rw [hheld] at hnone
      cases hnone

theorem claims_of_callTurn {what key token : String} {c : Command} {s : Script}
    {finish : Except Fault Int → Answer} {call : Wire.Call} {q : WirePlan Answer}
    (hc : Keys.Calls c s key token) (h : CallTurn v.client what c s key token finish k call q m)
    (hfinish : ∀ n r, finish n ≠ .acquired r) : Claims v k call q := by
  refine ⟨fun p hp => ?_, fun key token seconds hcall => absurd hcall (h.claims_nothing hc)⟩
  rw [hp] at h
  rcases h.answer with ⟨reason, ha⟩ | ha
  · exact absurd ha.symm (hfinish _ _)
  · exact absurd ha.symm (hfinish _ _)

/-- **One exchange** of a visit. -/
theorem Stage.turn {call : Wire.Call} {next : call.Reply → WirePlan Answer} {reply : call.Reply}
    (h : v.Stage (.call call next) k) (ha : Keys.Answers k call reply m) :
    v.Stage (next reply) m ∧ v.Respects k (next reply) m ∧ v.Claims k call (next reply) := by
  obtain ⟨l, scope | p | p⟩ := v
  · have hturn := Acquiring.turn h ha
    exact ⟨hturn.acquiring, respects_of_acquireTurn hturn, claims_of_acquireTurn hturn⟩
  · have hcalls := Keys.calls_renew (key ⟨l, .renew p⟩ p) p.token l.terms.seconds
    have hturn := Calling.turn hcalls h ha
    refine ⟨hturn.calling, ⟨hturn.holdings_eq hcalls, fun r hr => ?_⟩,
      claims_of_callTurn hcalls hturn fun n r => nofun⟩
    rw [hr] at hturn
    rcases hturn.answer with ⟨reason, hanswer⟩ | hanswer
    · cases hanswer
      exact .inl ⟨reason, rfl⟩
    · cases hanswer
      refine .inr (congrArg Except.ok ?_)
      split
      · next ht => simp [ht]
      · next ht => simp [ht]
  · have hcalls := Keys.calls_release (key ⟨l, .release p⟩ p) p.token
    have hturn := Calling.turn hcalls h ha
    refine ⟨hturn.calling, ⟨hturn.holdings_eq hcalls, fun r hr => ?_⟩,
      claims_of_callTurn hcalls hturn fun n r => nofun⟩
    rw [hr] at hturn
    rcases hturn.answer with ⟨reason, hanswer⟩ | hanswer
    · cases hanswer
      exact .inl ⟨reason, rfl⟩
    · cases hanswer
      exact .inr rfl

end Visit

end PeerRules.Lease
