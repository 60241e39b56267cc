import PeerRules.Crowd
import PeerRules.Proofs.Visits

/-!
# Who owns a lease

Any number of workers take leases of one key server, extend them and give them back, each in
exchanges with the server that come between those of the others in any order. Time passes for the
server, and a key may be gone at any moment. A permit can so be out of date without its owner
knowing; what its owner does then must not touch the lease of whoever came next.

* `Sound`: what holds at every moment of a run.
* `Sound.turn`, `sound_of_runs`: one exchange keeps it, and so does a run.
* `Sound.gone_of_runs`: a permit that has lost its key does not get it back.
* `leases_owned`: who owns a lease, and what others can do to it.
-/
namespace PeerRules.Lease

/-! ## Runs of visits -/

abbrev Trace : Type := List (Nat × Exchange Wire.Call.signature)

abbrev Visits : Type := Crowd Wire.Call.signature Keys Answer

def start (visits : List Visit) (k : Keys) : Visits := ⟨k, visits.map Visit.plan⟩

/-- The token that is claimed in an exchange. -/
def tokenOf? : Exchange Wire.Call.signature → Option String
  | ⟨.command (.claim _ token _), _⟩ => some token
  | _ => none

def claimed (es : Trace) : List String := es.filterMap fun e => tokenOf? e.2

theorem claimed_append (xs ys : Trace) : claimed (xs ++ ys) = claimed xs ++ claimed ys :=
  List.filterMap_append

theorem mem_claimed {t : String} {es : Trace} :
    t ∈ claimed es ↔ ∃ i e, (i, e) ∈ es ∧ tokenOf? e = some t := by
  simp [claimed, List.mem_filterMap]

/-- Tokens that are distinct tell the visits apart that claimed them. -/
theorem eq_of_claimed {i j : Nat} {e f : Exchange Wire.Call.signature} {t : String} {es : Trace}
    (hfresh : (claimed es).Nodup) (hi : (i, e) ∈ es) (hj : (j, f) ∈ es)
    (he : tokenOf? e = some t) (hf : tokenOf? f = some t) : i = j := by
  induction es with
  | nil => cases hi
  | cons a es ih =>
    obtain ⟨n, g⟩ := a
    cases hg : tokenOf? g with
    | none =>
      have hskip : claimed ((n, g) :: es) = claimed es := by simp [claimed, hg]
      have hne : ∀ (m : Nat) (b : Exchange Wire.Call.signature), tokenOf? b = some t →
          (m, b) ∈ (n, g) :: es → (m, b) ∈ es := by
        intro m b hb hmem
        rcases List.mem_cons.1 hmem with heq | hmem
        · cases heq
          rw [hg] at hb
          cases hb
        · exact hmem
      rw [hskip] at hfresh
      exact ih hfresh (hne i e he hi) (hne j f hf hj)
    | some u =>
      have hkeep : claimed ((n, g) :: es) = u :: claimed es := by simp [claimed, hg]
      rw [hkeep, List.nodup_cons] at hfresh
      rcases List.mem_cons.1 hi with hie | hie <;> rcases List.mem_cons.1 hj with hje | hje
      · cases hie
        cases hje
        rfl
      · cases hie
        obtain rfl : t = u := Option.some.inj (he.symm.trans hg)
        exact absurd (mem_claimed.2 ⟨j, f, hje, hf⟩) hfresh.1
      · cases hje
        obtain rfl : t = u := Option.some.inj (hf.symm.trans hg)
        exact absurd (mem_claimed.2 ⟨i, e, hie, he⟩) hfresh.1
      · exact ih hfresh.2 hie hje

def Granted (visits : List Visit) (c : Visits) (i : Nat) (key : String) (p : Permit) : Prop :=
  c.plans[i]? = some (.done (.acquired (.ok (some p)))) ∧
    ∃ v, visits[i]? = some v ∧ v.key p = key

/-- What holds at every moment, if the server was in the state `k` at the beginning. -/
structure Sound (visits : List Visit) (k : Keys) (xs : Trace) (c : Visits) : Prop where
  length : c.plans.length = visits.length
  single : c.state.Single
  stages : ∀ (i : Nat) (v : Visit) (q : WirePlan Answer), visits[i]? = some v →
    c.plans[i]? = some q → v.Stage q c.state
  owned : ∀ x ∈ c.state.holdings, (∃ y ∈ k.holdings, y.token = x.token) ∨
    ∃ i p, Granted visits c i x.key p ∧ p.token = x.token
  claims : ∀ i key p, Granted visits c i key p → ∃ e, (i, e) ∈ xs ∧ tokenOf? e = some p.token

variable {visits : List Visit} {k : Keys} {xs ys : Trace} {c d : Visits}

theorem sound_start (hk : k.Single) : Sound visits k [] (start visits k) := by
  refine ⟨List.length_map _, hk, fun i v q hv hq => ?_, fun x hx => ?_, fun i key p hp => ?_⟩
  · obtain rfl : v.plan = q := by simpa [start, hv] using hq
    exact v.stage_plan k
  · exact .inl ⟨x, hx, rfl⟩
  · obtain ⟨hdone, v, hv, -⟩ := hp
    have hplan : v.plan = .done (.acquired (.ok (some p))) := by simpa [start, hv] using hdone
    exact absurd hplan (v.plan_ne_granted _)

/-- A plan of those that are under way when one of them has gone on. -/
theorem getElem?_set_cases {α : Type} {as : List α} {i j : Nat} {a b : α}
    (h : (as.set i a)[j]? = some b) : j = i ∧ b = a ∨ j ≠ i ∧ as[j]? = some b := by
  by_cases hij : i = j
  · subst hij
    rw [List.getElem?_set_self'] at h
    obtain ⟨_, -, rfl⟩ := Option.map_eq_some_iff.1 h
    exact .inl ⟨rfl, rfl⟩
  · rw [List.getElem?_set_ne hij] at h
    exact .inr ⟨Ne.symm hij, h⟩

theorem Sound.visit (h : Sound visits k xs c) {i : Nat} {q : WirePlan Answer}
    (hi : c.plans[i]? = some q) : ∃ v, visits[i]? = some v := by
  have hlt : i < visits.length := h.length ▸ (List.getElem?_eq_some_iff.1 hi).1
  exact ⟨visits[i], List.getElem?_eq_getElem hlt⟩

section Turn

variable {i j : Nat} {call : Wire.Call} {next : call.Reply → WirePlan Answer} {reply : call.Reply}
  {q : WirePlan Answer} {t : Keys} {key : String} {p : Permit} {v : Visit}

/-- A visit that was granted a permit has still been granted it when another has gone on. -/
theorem Granted.keep (h : Granted visits c j key p) (hi : c.plans[i]? = some (.call call next)) :
    Granted visits ⟨t, c.plans.set i q⟩ j key p := by
  obtain ⟨hj, hkey⟩ := h
  have hne : i ≠ j := by
    rintro rfl
    cases hi.symm.trans hj
  refine ⟨?_, hkey⟩
  rw [List.getElem?_set_ne hne]
  exact hj

/-- What is held after the next exchange has its owner. -/
theorem Sound.owned_turn (h : Sound visits k xs c) (hv : visits[i]? = some v)
    (hi : c.plans[i]? = some (.call call next)) (ha : Keys.Answers c.state call reply t)
    (hclaims : v.Claims c.state call q) {x : Holding} (hx : x ∈ t.holdings) :
    (∃ y ∈ k.holdings, y.token = x.token) ∨
      ∃ j p, Granted visits ⟨t, c.plans.set i q⟩ j x.key p ∧ p.token = x.token := by
  rcases Keys.origin_of_answers ha hx with ⟨y, hy, hkey, htoken⟩ | ⟨seconds, hcall, hnone⟩
  · rcases h.owned y hy with ⟨z, hz, hzt⟩ | ⟨j, p, hp, hpt⟩
    · exact .inl ⟨z, hz, hzt.trans htoken⟩
    · rw [hkey] at hp
      exact .inr ⟨j, p, hp.keep hi, hpt.trans htoken⟩
  · obtain ⟨p, hp, hkey, htoken⟩ := hclaims.free _ _ _ hcall hnone
    refine .inr ⟨i, p, ⟨?_, v, hv, hkey⟩, htoken⟩
    rw [List.getElem?_set_self', hi, hp]
    rfl

/-- Whoever has been granted a permit after the next exchange has claimed its token. -/
theorem Sound.claims_turn (h : Sound visits k xs c) (hclaims : v.Claims c.state call q)
    (hp : Granted visits ⟨t, c.plans.set i q⟩ j key p) :
    ∃ e, (j, e) ∈ xs ++ [(i, ⟨call, reply⟩)] ∧ tokenOf? e = some p.token := by
  obtain ⟨hj, hkey⟩ := hp
  rcases getElem?_set_cases hj with ⟨rfl, hdone⟩ | ⟨-, hj⟩
  · obtain ⟨_, seconds, rfl⟩ := hclaims.granted p hdone.symm
    exact ⟨_, List.mem_append_right _ List.mem_cons_self, rfl⟩
  · obtain ⟨e, he, htoken⟩ := h.claims j key p ⟨hj, hkey⟩
    exact ⟨e, List.mem_append_left _ he, htoken⟩

/-- **What holds at a moment** holds after the next exchange. -/
theorem Sound.turn (h : Sound visits k xs c) (hi : c.plans[i]? = some (.call call next))
    (ha : Keys.Answers c.state call reply t) :
    Sound visits k (xs ++ [(i, ⟨call, reply⟩)]) ⟨t, c.plans.set i (next reply)⟩ := by
  obtain ⟨v, hv⟩ := h.visit hi
  obtain ⟨hnext, -, hclaims⟩ := (h.stages i v _ hv hi).turn ha
  refine ⟨?_, Keys.single_of_answers ha h.single, fun j w q hw hj => ?_,
    fun x hx => h.owned_turn hv hi ha hclaims hx, fun j key p hp => h.claims_turn hclaims hp⟩
  · rw [List.length_set, h.length]
  · rcases getElem?_set_cases hj with ⟨rfl, rfl⟩ | ⟨-, hj⟩
    · obtain rfl : v = w := Option.some.inj (hv.symm.trans hw)
      exact hnext
    · exact (h.stages j w q hw hj).mono (Keys.known_of_answers ha)

end Turn

theorem Sound.step (h : Sound visits k xs c) (hs : Crowd.Step Keys.lapsing c ys d) :
    Sound visits k (xs ++ ys) d := by
  cases hs with
  | turn hi ha => exact h.turn hi ha
  | @drift t hd =>
    rw [List.append_nil]
    have hknown : c.state.known ⊆ t.known := by rw [hd.known_eq]; exact List.Subset.refl _
    exact ⟨h.length, hd.single h.single, fun j w q hw hj => (h.stages j w q hw hj).mono hknown,
      fun x hx => h.owned x (hd.holdings_subset hx), h.claims⟩

theorem sound_of_runs (hk : k.Single)
    (hrun : Crowd.Runs Keys.lapsing (start visits k) xs c) : Sound visits k xs c :=
  hrun.keeps (K := Sound visits k) (fun h hs => h.step hs) (sound_start hk)

/-- A token that was claimed once and is not under a key does not come back under it. -/
theorem Sound.gone (h : Sound visits k xs c) (hs : Crowd.Step Keys.lapsing c ys d) {key t : String}
    (hold : t ∈ claimed xs) (hfresh : (claimed (xs ++ ys)).Nodup)
    (hgone : c.state.token? key ≠ some t) : d.state.token? key ≠ some t := by
  intro ht
  cases hs with
  | drift hd => exact hgone (Keys.token?_of_lapses h.single hd ht)
  | @turn i call next reply m hi ha =>
    rcases Keys.token?_of_answers ha ht with hbefore | ⟨seconds, rfl, -⟩
    · exact hgone hbefore
    · rw [claimed_append] at hfresh
      have hnew : t ∈ claimed [(i, ⟨.command (.claim key t seconds), reply⟩)] :=
        mem_claimed.2 ⟨i, _, List.mem_cons_self, rfl⟩
      exact List.disjoint_of_nodup_append hfresh hold hnew

theorem Sound.gone_of_runs (h : Sound visits k xs c) (hrun : Crowd.Runs Keys.lapsing c ys d)
    {key t : String} (hold : t ∈ claimed xs) (hfresh : (claimed (xs ++ ys)).Nodup)
    (hgone : c.state.token? key ≠ some t) : d.state.token? key ≠ some t := by
  let K : Trace → Visits → Prop := fun zs d => Sound visits k zs d ∧ t ∈ claimed zs ∧
    ((claimed zs).Nodup → d.state.token? key ≠ some t)
  have hstep : ∀ {zs c ys d}, K zs c → Crowd.Step Keys.lapsing c ys d → K (zs ++ ys) d := by
    rintro zs c ys d ⟨hsound, hmem, hfree⟩ hs
    have hmem' : t ∈ claimed (zs ++ ys) := by
      rw [claimed_append]
      exact List.mem_append_left _ hmem
    refine ⟨hsound.step hs, hmem', fun hnodup => ?_⟩
    have hnodup' : (claimed zs).Nodup := by
      rw [claimed_append] at hnodup
      exact hnodup.of_append_left
    exact hsound.gone hs hmem hnodup (hfree hnodup')
  have hend : K (xs ++ ys) d := hrun.keeps hstep ⟨h, hold, fun _ => hgone⟩
  exact hend.2.2 hfresh

/-- Two visits never have permits with one token. -/
theorem Sound.granted_unique (h : Sound visits k xs c) (hfresh : (claimed xs).Nodup) {i j : Nat}
    {key other : String} {p q : Permit} (hi : Granted visits c i key p)
    (hj : Granted visits c j other q) (ht : p.token = q.token) : i = j := by
  obtain ⟨e, he, hetoken⟩ := h.claims i key p hi
  obtain ⟨f, hf, hftoken⟩ := h.claims j other q hj
  rw [ht] at hetoken
  exact eq_of_claimed hfresh he hf hetoken hftoken

/-- A token under a key was there at the beginning, or was granted to a visit. -/
theorem Sound.owner (h : Sound visits k xs c) {key t : String}
    (ht : c.state.token? key = some t) (hnew : ∀ x ∈ k.holdings, x.token ≠ t) :
    ∃ i p, Granted visits c i key p ∧ p.token = t := by
  obtain ⟨x, hx, rfl⟩ := Keys.token?_eq_some_iff.1 ht
  obtain ⟨hmem, rfl, -⟩ := Keys.mem_of_holding? hx
  rcases h.owned x hmem with ⟨y, hy, hyt⟩ | howner
  · exact absurd hyt (hnew y hy)
  · exact howner

/-- **Who owns a lease.** Any number of visits to one key server, by workers with terms of their
own, go on next to each other in any order, and keys are gone at any moment. No token is claimed
twice. Then at every moment a token under a key, unless it was there from the beginning, belongs to
exactly one of the permits that were granted, and no two of these have one token. Whichever visit
makes the next exchange, a claim is granted exactly where nothing is held, and who extends a permit
or gives it back that is not the one that is held changes nothing and is told so. A permit that has
lost its key does not get it back. -/
theorem leases_owned (hk : k.Single) (hrun : Crowd.Runs Keys.lapsing (start visits k) xs c)
    (hfresh : (claimed xs).Nodup) :
    (∀ key t, c.state.token? key = some t → (∀ x ∈ k.holdings, x.token ≠ t) →
      ∃! i, ∃ p, Granted visits c i key p ∧ p.token = t) ∧
    (∀ i j key other p q, Granted visits c i key p → Granted visits c j other q →
      p.token = q.token → i = j) ∧
    (∀ (i : Nat) (v : Visit) (e : Exchange Wire.Call.signature) (d : Visits), visits[i]? = some v →
      Crowd.Step Keys.lapsing c [(i, e)] d →
      ∃ q, d.plans[i]? = some q ∧ v.Respects c.state q d.state) ∧
    ∀ (ys : Trace) (d : Visits), Crowd.Runs Keys.lapsing c ys d → (claimed (xs ++ ys)).Nodup →
      ∀ i key p, Granted visits c i key p → c.state.token? key ≠ some p.token →
        d.state.token? key ≠ some p.token := by
  have hsound := sound_of_runs hk hrun
  refine ⟨fun key t ht hnew => ?_, fun i j key other p q hi hj ht => ?_, fun i v e d hv hs => ?_,
    fun ys d hmore hnodup i key p hp hgone => ?_⟩
  · obtain ⟨i, p, hp, hpt⟩ := hsound.owner ht hnew
    refine ⟨i, ⟨p, hp, hpt⟩, ?_⟩
    rintro j ⟨q, hq, hqt⟩
    exact hsound.granted_unique hfresh hq hp (hqt.trans hpt.symm)
  · exact hsound.granted_unique hfresh hi hj ht
  · cases hs with
    | @turn _ call next reply m hi ha =>
      refine ⟨next reply, ?_, ((hsound.stages i v _ hv hi).turn ha).2.1⟩
      rw [List.getElem?_set_self', hi]
      rfl
  · obtain ⟨e, he, htoken⟩ := hsound.claims i key p hp
    exact hsound.gone_of_runs hmore (mem_claimed.2 ⟨i, e, he, htoken⟩) hnodup hgone

/-! ### A lease that is taken over -/

def worker (name : String) : Client :=
  ⟨⟨.machine "keys" 6379, none, none, 0, .two⟩, ⟨"rules", name, 60⟩⟩

def latePermit : Permit := ⟨"all", (worker "a").terms.token (RuleId.ofNat 1).text⟩

def nextPermit : Permit := ⟨"all", (worker "b").terms.token (RuleId.ofNat 2).text⟩

/-- One worker takes the lease, and later extends it; the other takes it in between. -/
def rivals : List Visit :=
  [⟨worker "a", .acquire "all"⟩, ⟨worker "b", .acquire "all"⟩, ⟨worker "a", .renew latePermit⟩]

/-- A server that knows the script. -/
def idle : Keys := ⟨0, [], [.renew]⟩

/-- What is exchanged before the lease is extended. -/
def takeOver : Trace := [
  (0, ⟨.freshId, RuleId.ofNat 1⟩), (0, ⟨.openKeys (worker "a").server, Except.ok ()⟩),
  (0, ⟨.command (.claim "rules:all" latePermit.token 60), .status "OK"⟩),
  (1, ⟨.freshId, RuleId.ofNat 2⟩), (1, ⟨.openKeys (worker "b").server, Except.ok ()⟩),
  (1, ⟨.command (.claim "rules:all" nextPermit.token 60), .status "OK"⟩),
  (2, ⟨.openKeys (worker "a").server, Except.ok ()⟩)]

/-- The visits when the lease is about to be extended. -/
def tookOver : Visits where
  state := ⟨60000, [⟨"rules:all", nextPermit.token, 120000⟩], [.renew]⟩
  plans := [.done (.acquired (.ok (some latePermit))), .done (.acquired (.ok (some nextPermit))),
    asking "renew" (.renew "rules:all" latePermit.token 60) .renew Visit.renewAnswer]

theorem takeOver_runs : Crowd.Runs Keys.lapsing (start rivals idle) takeOver tookOver := by
  have hstart : start rivals idle = ⟨idle, [drawing (worker "a") "all", drawing (worker "b") "all",
      connecting (worker "a") "renew" (.renew "rules:all" latePermit.token 60) .renew
        Visit.renewAnswer]⟩ := by
    have hsays : Text.allBlank "all" = false := by decide
    simp only [start, rivals, List.map_cons, List.map_nil, plan_acquire _ hsays, Visit.plan_renew]
    rfl
  rw [hstart]
  refine .turn (i := 0) rfl rfl ?_
  refine .turn (i := 0) rfl rfl ?_
  refine .turn (i := 0) rfl ⟨rfl, rfl⟩ ?_
  refine .drift (.inl ⟨60000, rfl⟩) ?_
  refine .turn (i := 1) rfl rfl ?_
  refine .turn (i := 1) rfl rfl ?_
  refine .turn (i := 1) rfl ⟨rfl, rfl⟩ ?_
  refine .turn (i := 2) rfl rfl ?_
  exact .nil _

theorem leases_owned_takeOver :
    idle.Single ∧ Crowd.Runs Keys.lapsing (start rivals idle) takeOver tookOver ∧
      (claimed takeOver).Nodup ∧ (∃! i, ∃ p, Granted rivals tookOver i "rules:all" p ∧
        p.token = nextPermit.token) ∧
      ∃ d, Crowd.Step Keys.lapsing tookOver
          [(2, ⟨.command (.renew "rules:all" latePermit.token 60), .int 0⟩)] d ∧
        d.plans[2]? = some (.done (.renewed (.ok false))) ∧
        d.state.holdings = tookOver.state.holdings := by
  have hk : idle.Single := List.nodup_nil
  have hfresh : (claimed takeOver).Nodup := by decide
  obtain ⟨howner, -, hrespects, -⟩ := leases_owned hk takeOver_runs hfresh
  have ha : Keys.Answers tookOver.state (.command (.renew "rules:all" latePermit.token 60))
      (.int 0) tookOver.state := ⟨rfl, rfl⟩
  have hstep := @Crowd.Step.turn _ _ _ Keys.lapsing tookOver 2 _ _ _ _ rfl ha
  obtain ⟨q, -, hkept, -⟩ := hrespects 2 ⟨worker "a", .renew latePermit⟩ _ _ rfl hstep
  have hother : tookOver.state.token? "rules:all" ≠ some latePermit.token := by decide
  exact ⟨hk, takeOver_runs, hfresh, howner _ _ rfl (by simp [idle]), _, hstep, rfl,
    (hkept hother).1⟩

end PeerRules.Lease
