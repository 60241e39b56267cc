import PeerRules.Proofs.Acceptance
import PeerRules.Proofs.Calls

/-!
# Two amendments of one rule

An amendment is a reading of the whole rule and a writing of the whole rule. When two callers amend
one rule at the same time, each step is answered by the store at once, but between a caller's
reading and its writing the other may write; what the other wrote is then written over.

* `Rule.Amendment.change_eq_ok_iff`, `Rule.Amendment.makes_of_change`: what one amendment does to the
  rule that it read.
* `Service.amend_course`: the calls of an amendment, and what it answers.
* `Crew.amended_together`: what two amendments leave in the store, whatever the order of their
  steps. Both are carried exactly when one is over before the other begins, or when what is written
  over says nothing new.
-/
namespace PeerRules

/-! ## What an amendment does to a rule -/

namespace Rule

/-- The parts of a rule that can be amended. -/
inductive Part where
  | name
  | description
  | conditions
  | actions
  | isActive

/-- The rules are alike in a part. -/
def Alike (r s : Rule) : Part → Prop
  | .name => r.name = s.name
  | .description => r.description = s.description
  | .conditions => r.conditions = s.conditions
  | .actions => r.action = s.action
  | .isActive => r.isActive = s.isActive

theorem alike_stamped (r : Rule) (createdAt updatedAt : Instant) (part : Part) :
    (r.stamped createdAt updatedAt).Alike r part := by
  cases part <;> rfl

namespace Amendment

variable {a b : Amendment} {u : Update} {old r s : Rule} {now : Instant}

def names (a : Amendment) : Part → Bool
  | .name => a.name.isSome
  | .description => a.description.isSome
  | .conditions => a.conditions.isSome
  | .actions => a.actions.isSome
  | .isActive => a.isActive.isSome

/-- If the amendment names the part, the rule has the value that it gives. -/
def CarriesPart (a : Amendment) (r : Rule) : Part → Prop
  | .name => ∀ text, a.name = some text → r.name.text = text
  | .description => ∀ d, a.description = some d → r.description = normalize d
  | .conditions => ∀ v, a.conditions = some v → Conditions.ofValue v = .ok r.conditions
  | .actions => ∀ v, a.actions = some v → Action.ofValue v = .ok r.action
  | .isActive => ∀ flag, a.isActive = some flag → r.isActive = flag

/-- The rule has every value that the amendment gives. -/
def Carries (a : Amendment) (r : Rule) : Prop := ∀ part, a.CarriesPart r part

def Disjoint (a b : Amendment) : Prop := ∀ part, a.names part = false ∨ b.names part = false

/-- The rule is what the amendment makes of the old one. -/
structure Makes (a : Amendment) (old r : Rule) : Prop where
  id : r.id = old.id
  carries : a.Carries r
  leaves : ∀ part, a.names part = false → r.Alike old part

theorem Disjoint.symm (h : a.Disjoint b) : b.Disjoint a := fun part => (h part).symm

theorem carriesPart_of_unnamed {part : Part} (h : a.names part = false) (r : Rule) :
    a.CarriesPart r part := by
  cases part <;> intro v hv <;> simp [names, hv] at h

theorem carriesPart_congr {part : Part} (h : r.Alike s part) :
    a.CarriesPart r part ↔ a.CarriesPart s part := by
  cases part <;> simp only [Alike] at h <;> simp only [CarriesPart, h]

/-- What one amendment gives is not touched by another that names other parts. -/
theorem Disjoint.carries_iff (h : a.Disjoint b) (hb : b.Makes old r) :
    a.Carries r ↔ a.Carries old := by
  refine forall_congr' fun part => ?_
  rcases h part with ha | hn
  · exact iff_of_true (carriesPart_of_unnamed ha r) (carriesPart_of_unnamed ha old)
  · exact carriesPart_congr (hb.leaves part hn)

theorem Makes.stamped (h : a.Makes old r) (createdAt updatedAt : Instant) :
    a.Makes old (r.stamped createdAt updatedAt) where
  id := h.id
  carries part := (carriesPart_congr (alike_stamped r _ _ part)).2 (h.carries part)
  leaves part hn := by
    have hr := h.leaves part hn
    cases part <;> exact hr

/-- What an amendment makes of a rule: the replacements are loaded, and then put in. -/
def change (a : Amendment) (old : Rule) (now : Instant) : Except Fault Rule :=
  a.update.bind fun u => old.apply u now

theorem change_of_update (hu : a.update = .ok u) (old : Rule) (now : Instant) :
    a.change old now = old.apply u now := by
  rw [change, hu]
  rfl

theorem update_eq_ok_iff : a.update = .ok u ↔
    ∃ c x, loadPart Conditions.ofValue a.conditions = .ok c ∧
      loadPart Action.ofValue a.actions = .ok x ∧
      u = ⟨a.name, a.description, c, x, a.isActive⟩ := by
  simp only [update, bind_eq_ok_iff, pure, Except.pure, Except.ok.injEq, @eq_comm _ _ u,
    exists_and_left]

theorem apply_eq_ok_iff : old.apply u now = .ok r ↔
    validatePart Conditions.validate u.conditions = .ok () ∧
      validatePart Action.validate u.action = .ok () ∧
      ∃ name, newName old.name u.name = .ok name ∧ r = { old with
        name
        description := (u.description.map normalize).getD old.description
        conditions := u.conditions.getD old.conditions
        action := u.action.getD old.action
        isActive := u.isActive.getD old.isActive
        updatedAt := now } := by
  simp only [apply, bind_eq_ok_iff, pure, Except.pure, Except.ok.injEq, @eq_comm _ _ r]
  constructor
  · rintro ⟨⟨⟩, hc, ⟨⟩, ha, h⟩
    exact ⟨hc, ha, h⟩
  · rintro ⟨hc, ha, h⟩
    exact ⟨(), hc, (), ha, h⟩

/-- A part after an amendment: the old one, or the one that was loaded and has passed its check. -/
def NewPart {α : Type} (load : Json.Value → Except Fault α) (check : α → Except Fault Unit)
    (given : Option Json.Value) (old new : α) : Prop :=
  given.elim (new = old) fun v => load v = .ok new ∧ check new = .ok ()

theorem newPart_iff {α : Type} {load : Json.Value → Except Fault α} {check : α → Except Fault Unit}
    {given : Option Json.Value} {old new : α} : NewPart load check given old new ↔
      ∃ x, loadPart load given = .ok x ∧ validatePart check x = .ok () ∧ new = x.getD old := by
  cases given with
  | none => simp [NewPart, loadPart, validatePart]
  | some v =>
    cases hv : load v with
    | error f => simp [NewPart, loadPart, hv, Except.map]
    | ok x =>
      simp only [NewPart, loadPart, hv, Except.map, validatePart, Option.elim_some,
        Except.ok.injEq, exists_eq_left', Option.getD_some]
      constructor
      · rintro ⟨rfl, hc⟩
        exact ⟨hc, rfl⟩
      · rintro ⟨hc, rfl⟩
        exact ⟨rfl, hc⟩

theorem newName_eq_ok_iff {n m : Name} {given : Option String} :
    newName n given = .ok m ↔ given.elim (m = n) fun text => m.text = text := by
  cases given with
  | none => simp [newName, eq_comm]
  | some text => exact Name.ofText_eq_ok_iff text m

/-- **What an amendment makes of a rule,** part by part. -/
theorem change_eq_ok_iff : a.change old now = .ok r ↔
    r.id = old.id ∧ r.createdAt = old.createdAt ∧ r.updatedAt = now ∧
      (a.name.elim (r.name = old.name) fun text => r.name.text = text) ∧
      r.description = (a.description.map normalize).getD old.description ∧
      NewPart Conditions.ofValue Conditions.validate a.conditions old.conditions r.conditions ∧
      NewPart Action.ofValue Action.validate a.actions old.action r.action ∧
      r.isActive = a.isActive.getD old.isActive := by
  rw [newPart_iff, newPart_iff, ← newName_eq_ok_iff]
  constructor
  · intro h
    obtain ⟨u, hu, h⟩ := bind_eq_ok_iff.1 h
    obtain ⟨c, x, hc, hx, rfl⟩ := update_eq_ok_iff.1 hu
    obtain ⟨hcheck, hcheck', name, hname, rfl⟩ := apply_eq_ok_iff.1 h
    exact ⟨rfl, rfl, rfl, hname, rfl, ⟨c, hc, hcheck, rfl⟩, ⟨x, hx, hcheck', rfl⟩, rfl⟩
  · obtain ⟨id, name, description, conditions, action, isActive, createdAt, updatedAt⟩ := r
    rintro ⟨rfl, rfl, rfl, hname, rfl, ⟨c, hc, hcheck, rfl⟩, ⟨x, hx, hcheck', rfl⟩, rfl⟩
    exact bind_eq_ok_iff.2 ⟨_, update_eq_ok_iff.2 ⟨c, x, hc, hx, rfl⟩,
      apply_eq_ok_iff.2 ⟨hcheck, hcheck', name, hname, rfl⟩⟩

/-- What is made of a rule has the values that were given, and is otherwise as it was. -/
theorem makes_of_change (h : a.change old now = .ok r) : a.Makes old r := by
  obtain ⟨hid, -, -, hname, hdescription, hconditions, haction, hactive⟩ := change_eq_ok_iff.1 h
  refine ⟨hid, fun part => ?_, fun part hnone => ?_⟩
  · cases part with
    | name =>
      intro text htext
      rw [htext] at hname
      exact hname
    | description =>
      intro d hsome
      rw [hsome] at hdescription
      exact hdescription
    | conditions =>
      intro v hv
      rw [hv] at hconditions
      exact hconditions.1
    | actions =>
      intro v hv
      rw [hv] at haction
      exact haction.1
    | isActive =>
      intro flag hflag
      rw [hflag] at hactive
      exact hactive
  · cases part with
    | name =>
      have hnot : a.name = none := by simpa [names] using hnone
      rw [hnot] at hname
      exact hname
    | description =>
      have hnot : a.description = none := by simpa [names] using hnone
      rw [hnot] at hdescription
      exact hdescription
    | conditions =>
      have hnot : a.conditions = none := by simpa [names] using hnone
      rw [hnot] at hconditions
      exact hconditions
    | actions =>
      have hnot : a.actions = none := by simpa [names] using hnone
      rw [hnot] at haction
      exact haction
    | isActive =>
      have hnot : a.isActive = none := by simpa [names] using hnone
      rw [hnot] at hactive
      exact hactive

end Amendment

end Rule

/-! ## The calls of an amendment -/

namespace Service

open Plan

def reading (id : RuleId) (r : Rule) : Exchange Call.signature := ⟨.findRule id, .ok (some r)⟩

def writing (r stored : Rule) : Exchange Call.signature := ⟨.updateRule r, .ok stored⟩

/-- The event about a rule that was written. -/
def telling : Except Fault Rule → List (Exchange Call.signature)
  | .error _ => []
  | .ok stored => [⟨.log (.ruleUpdated stored.id), ()⟩]

inductive AmendCourse (id : RuleId) (a : Rule.Amendment) :
    List (Exchange Call.signature) → Except Fault Rule → Prop where
  | unread (f : Fault) : AmendCourse id a [⟨.findRule id, .error f⟩] (.error f)
  | absent : AmendCourse id a [⟨.findRule id, .ok none⟩] (.error id.notStored)
  | unloaded {f : Fault} (seen : Rule) (h : a.update = .error f) :
      AmendCourse id a [reading id seen] (.error f)
  | refused {u : Rule.Update} {f : Fault} (seen : Rule) (moment : Instant) (hu : a.update = .ok u)
      (h : seen.apply u moment = .error f) :
      AmendCourse id a [reading id seen, ⟨.now, moment⟩] (.error f)
  | handedIn {u : Rule.Update} {made : Rule} (seen : Rule) (moment : Instant)
      (hu : a.update = .ok u) (h : seen.apply u moment = .ok made) (reply : Except Fault Rule) :
      AmendCourse id a
        (reading id seen :: ⟨.now, moment⟩ :: ⟨.updateRule made, reply⟩ :: telling reply) reply

theorem find_course {id : RuleId} {found : Except Fault Rule}
    {es : List (Exchange Call.signature)} (h : (find id).Runs es found) :
    (∃ f, es = [⟨.findRule id, .error f⟩] ∧ found = .error f) ∨
    (es = [⟨.findRule id, .ok none⟩] ∧ found = .error id.notStored) ∨
    ∃ seen, es = [reading id seen] ∧ found = .ok seen := by
  obtain ⟨xs, ys, reply, rfl, hask, hfound⟩ := runs_bind_iff.1 h
  obtain rfl := runs_ask_iff.1 hask
  rcases reply with f | _ | seen <;> obtain ⟨rfl, rfl⟩ := runs_done_iff.1 hfound
  · exact .inl ⟨f, rfl, rfl⟩
  · exact .inr (.inl ⟨rfl, rfl⟩)
  · exact .inr (.inr ⟨seen, rfl, rfl⟩)

/-- What is left of an amendment when the changed rule has been handed to the store. -/
def afterUpdate : Except Fault Rule → RulesPlan (Except Fault Rule)
  | .error f => .done (.error f)
  | .ok stored => .call (.log (.ruleUpdated stored.id)) fun _ => .done (.ok stored)

/-- What is left of an amendment when the rule has been changed. -/
def afterChange : Except Fault Rule → RulesPlan (Except Fault Rule)
  | .error f => .done (.error f)
  | .ok changed => .call (.updateRule changed) afterUpdate

/-- What is left of an amendment when the rule has been looked for. -/
def afterFound (a : Rule.Amendment) : Except Fault Rule → RulesPlan (Except Fault Rule)
  | .error f => .done (.error f)
  | .ok old =>
    match a.update with
    | .error f => .done (.error f)
    | .ok u => .call .now fun now => afterChange (old.apply u now)

theorem amend_eq (id : RuleId) (a : Rule.Amendment) :
    amend id a = (find id).bind (afterFound a) := by
  refine congrArg (Plan.bind (find id)) (funext fun found => ?_)
  cases found with
  | error f => rfl
  | ok old =>
    unfold afterFound
    cases a.update with
    | error f => rfl
    | ok u =>
      refine congrArg (Plan.call (P := Call.signature) Call.now) (funext fun now => ?_)
      refine (done_bind (P := Call.signature) now _).trans ?_
      cases old.apply u now with
      | error f => rfl
      | ok changed =>
        refine congrArg (Plan.call (P := Call.signature) (Call.updateRule changed))
          (funext fun reply => ?_)
        cases reply <;> rfl

theorem afterUpdate_runs_iff {reply result : Except Fault Rule}
    {es : List (Exchange Call.signature)} :
    (afterUpdate reply).Runs es result ↔ es = telling reply ∧ result = reply := by
  cases reply with
  | error f =>
    rw [afterUpdate, runs_done_iff]
    exact and_congr_right fun _ => eq_comm
  | ok stored =>
    constructor
    · intro h
      obtain ⟨⟨⟩, rest, rfl, hrest⟩ := runs_call_iff.1 h
      obtain ⟨rfl, rfl⟩ := runs_done_iff.1 hrest
      exact ⟨rfl, rfl⟩
    · rintro ⟨rfl, rfl⟩
      exact runs_call_iff.2 ⟨(), [], rfl, .done _⟩

/-- **The calls of an amendment.** It reads the rule, looks at the clock, writes what it makes of
what it read, and tells the log; it ends at the first of these that comes to nothing. -/
theorem amend_course {id : RuleId} {a : Rule.Amendment} {es : List (Exchange Call.signature)}
    {result : Except Fault Rule} (h : (amend id a).Runs es result) :
    AmendCourse id a es result := by
  rw [amend_eq] at h
  obtain ⟨xs, ys, found, rfl, hfind, hrest⟩ := runs_bind_iff.1 h
  rcases find_course hfind with ⟨f, rfl, rfl⟩ | ⟨rfl, rfl⟩ | ⟨seen, rfl, rfl⟩
  · obtain ⟨rfl, rfl⟩ := runs_done_iff.1 hrest
    exact .unread f
  · obtain ⟨rfl, rfl⟩ := runs_done_iff.1 hrest
    exact .absent
  · unfold afterFound at hrest
    cases hu : a.update with
    | error f =>
      rw [hu] at hrest
      obtain ⟨rfl, rfl⟩ := runs_done_iff.1 hrest
      exact .unloaded seen hu
    | ok u =>
      rw [hu] at hrest
      obtain ⟨moment, _, rfl, hchange⟩ := runs_call_iff.1 hrest
      cases hm : seen.apply u moment with
      | error f =>
        rw [hm] at hchange
        obtain ⟨rfl, rfl⟩ := runs_done_iff.1 hchange
        exact .refused seen moment hu hm
      | ok made =>
        rw [hm] at hchange
        obtain ⟨reply, _, rfl, htell⟩ := runs_call_iff.1 hchange
        obtain ⟨rfl, rfl⟩ := afterUpdate_runs_iff.1 htell
        exact .handedIn seen moment hu hm result

/-- The calls of an amendment that succeeds. -/
theorem amend_runs {id : RuleId} {a : Rule.Amendment} {es : List (Exchange Call.signature)}
    {stored : Rule} (h : (amend id a).Runs es (.ok stored)) :
    ∃ seen made moment event, a.Makes seen made ∧
      es = [reading id seen, ⟨.now, moment⟩, writing made stored, ⟨.log event, ()⟩] := by
  cases amend_course h with
  | @handedIn u made seen moment hu hm =>
    have hchange : a.change seen moment = .ok made :=
      (Rule.Amendment.change_of_update hu seen moment).trans hm
    exact ⟨seen, made, moment, _, Rule.Amendment.makes_of_change hchange, rfl⟩

end Service

/-! ## What the store answers -/

namespace Store

variable {s t : Store} {id : RuleId} {r stored : Rule} {es : List (Exchange Call.signature)}

theorem serves_reading (h : party.Serves s (Service.reading id r :: es) t) :
    s.find? id = some r ∧ party.Serves s es t := by
  cases h with
  | cons ha h =>
    obtain ⟨hr, rfl⟩ := ha
    exact ⟨(Except.ok.inj hr).symm, h⟩

theorem serves_writing (h : party.Serves s (Service.writing r stored :: es) t) :
    ∃ m, m.find? r.id = some stored ∧
      (∃ createdAt updatedAt, stored = r.stamped createdAt updatedAt) ∧ party.Serves m es t := by
  cases h with
  | @cons _ m _ _ _ _ ha h =>
    obtain ⟨now, hkept⟩ := ha
    cases hu : s.update now r with
    | error f =>
      rw [hu] at hkept
      cases hkept
    | ok answer =>
      rw [hu] at hkept
      cases hkept
      refine ⟨_, find?_update hu, ?_, h⟩
      unfold update at hu
      split at hu
      · cases hu
      · cases hu
        exact ⟨_, _, rfl⟩

theorem id_of_find? (h : s.find? id = some r) : r.id = id := by
  simpa using List.find?_some h

variable {a b : Rule.Amendment} {old seen seen' made made' x y : Rule}

/-- What is read and written back is what is stored next. -/
theorem serves_amending (ha : a.Makes old made) (hs : s.find? id = some old)
    (h : party.Serves s (Service.writing made x :: es) t) :
    ∃ m, m.find? id = some x ∧ a.Makes old x ∧ party.Serves m es t := by
  obtain ⟨m, hm, ⟨createdAt, updatedAt, rfl⟩, ht⟩ := serves_writing h
  rw [ha.id, id_of_find? hs] at hm
  exact ⟨m, hm, ha.stamped createdAt updatedAt, ht⟩

/-- One amendment after another: the second reads what the first has written. -/
theorem serves_serial (hab : a.Disjoint b) (ha : a.Makes seen made) (hb : b.Makes seen' made')
    (h : party.Serves s [Service.reading id seen, Service.writing made x, Service.reading id seen',
      Service.writing made' y] t) :
    t.find? id = some y ∧ a.Carries y ∧ b.Carries y := by
  obtain ⟨hseen, h₁⟩ := serves_reading h
  obtain ⟨m, hx, hax, h₂⟩ := serves_amending ha hseen h₁
  obtain ⟨hseen', h₃⟩ := serves_reading h₂
  obtain rfl : x = seen' := Option.some.inj (hx.symm.trans hseen')
  obtain ⟨n, hy, hby, h₄⟩ := serves_amending hb hx h₃
  obtain rfl := Party.serves_nil_iff.1 h₄
  exact ⟨hy, (hab.carries_iff hby).2 hax.carries, hby.carries⟩

/-- One amendment across another: both have read the old rule, and the last to write writes over
what the other has written. -/
theorem serves_across (hab : a.Disjoint b) (hs : s.find? id = some old) (ha : a.Makes old made)
    (hb : b.Makes old made')
    (h : party.Serves s [Service.writing made x, Service.writing made' y] t) :
    t.find? id = some y ∧ (a.Carries y ↔ a.Carries old) ∧ b.Carries y := by
  obtain ⟨m, hx, -, h₁⟩ := serves_amending ha hs h
  obtain ⟨n, hn, ⟨createdAt, updatedAt, rfl⟩, h₂⟩ := serves_writing h₁
  rw [hb.id, id_of_find? hs] at hn
  obtain rfl := Party.serves_nil_iff.1 h₂
  have hby := hb.stamped createdAt updatedAt
  exact ⟨hn, hab.carries_iff hby, hby.carries⟩

/-- Whoever reads first, both read the old rule. -/
theorem serves_readings (hs : s.find? id = some old)
    (h : party.Serves s (Service.reading id seen :: Service.reading id seen' :: es) t) :
    seen = old ∧ seen' = old ∧ party.Serves s es t := by
  obtain ⟨hseen, h₁⟩ := serves_reading h
  obtain ⟨hseen', h₂⟩ := serves_reading h₁
  exact ⟨Option.some.inj (hseen.symm.trans hs), Option.some.inj (hseen'.symm.trans hs), h₂⟩

end Store

/-! ## Two amendments, in any order of their steps -/

namespace Crew

open Service Store

def steps (es : Trace) : Trace := es.filter fun e => !Call.isAside e.2.call

def order (es : Trace) : List Nat := (steps es).map Prod.fst

theorem callsOf_steps (i : Nat) (es : Trace) :
    callsOf i (steps es) = (callsOf i es).filter fun e => !Call.isAside e.call :=
  callsOf_filter i (fun e => !Call.isAside e.call) es

theorem serves_steps {α : Type} {c d : Crew Store α} {es : Trace} (h : Runs Store.party c es d) :
    Store.party.Serves c.state ((steps es).map Prod.snd) d.state := by
  have hkeep : ∀ {s t : Store} {c : Call} {r : c.Reply}, (!Call.isAside c) = false →
      Store.party.Answers s c r t → t = s := by
    intro s t c r hc ha
    cases c <;> first | exact ha | cases hc
  have hserved := Party.Serves.filter (fun c => !Call.isAside c) hkeep (h.serves fun _ _ hd => hd)
  rw [List.filter_map] at hserved
  exact hserved

/-- The ways to put a reading and a writing of one caller together with those of another. -/
theorem merged_pairs {r w r' w' : Exchange Call.signature} {fs : Trace}
    (h : Merged [r, w] [r', w'] fs) :
    fs = [(0, r), (0, w), (1, r'), (1, w')] ∨ fs = [(1, r'), (1, w'), (0, r), (0, w)] ∨
    fs = [(0, r), (1, r'), (0, w), (1, w')] ∨ fs = [(1, r'), (0, r), (0, w), (1, w')] ∨
    fs = [(0, r), (1, r'), (1, w'), (0, w)] ∨ fs = [(1, r'), (0, r), (1, w'), (0, w)] := by
  cases h with
  | first h =>
    cases h with
    | first h =>
      cases h with
      | second h =>
        cases h with
        | second h =>
          cases h
          exact .inl rfl
    | second h =>
      cases h with
      | first h =>
        cases h with
        | second h =>
          cases h
          exact .inr (.inr (.inl rfl))
      | second h =>
        cases h with
        | first h =>
          cases h
          exact .inr (.inr (.inr (.inr (.inl rfl))))
  | second h =>
    cases h with
    | first h =>
      cases h with
      | first h =>
        cases h with
        | second h =>
          cases h
          exact .inr (.inr (.inr (.inl rfl)))
      | second h =>
        cases h with
        | first h =>
          cases h
          exact .inr (.inr (.inr (.inr (.inr rfl))))
    | second h =>
      cases h with
      | first h =>
        cases h with
        | first h =>
          cases h
          exact .inr (.inl rfl)

/-- What is left of the calls of an amendment when the asides are left out. -/
theorem steps_of_amend {i : Nat} {es : Trace} {id : RuleId} {seen made stored : Rule}
    {moment : Instant} {event : Log.Event} (h : callsOf i es =
      [reading id seen, ⟨.now, moment⟩, writing made stored, ⟨.log event, ()⟩]) :
    callsOf i (steps es) = [reading id seen, writing made stored] := by
  rw [callsOf_steps, h]
  rfl

/-- **Two amendments of one rule.** They name disjoint parts, and both succeed. The rule that is
stored afterwards carries both exactly when one was over before the other read the rule, or when the
one that was written over gave no value that the rule did not have already. -/
theorem amended_together {s t : Store} {id : RuleId} {a b : Rule.Amendment} {old x y : Rule}
    {es : Trace} (hab : a.Disjoint b) (hs : s.find? id = some old)
    (h : Runs Store.party ⟨s, [.ofPlan (amend id a), .ofPlan (amend id b)]⟩ es
      ⟨t, [.done (.ok x), .done (.ok y)]⟩) :
    ∃ final, t.find? id = some final ∧ (a.Carries final ∧ b.Carries final ↔
      order es = [0, 0, 1, 1] ∨ order es = [1, 1, 0, 0] ∨
      (order es).getLast? = some 1 ∧ a.Carries old ∨
      (order es).getLast? = some 0 ∧ b.Carries old) := by
  obtain ⟨seen, made, _, _, ha, hown⟩ := amend_runs (h.own_plan (i := 0) rfl rfl)
  obtain ⟨seen', made', _, _, hb, hown'⟩ := amend_runs (h.own_plan (i := 1) rfl rfl)
  have hlt : ∀ e ∈ steps es, e.1 < 2 := fun e he => h.caller_lt e (List.mem_filter.1 he).1
  have hmerged := merged_callsOf hlt
  rw [steps_of_amend hown, steps_of_amend hown'] at hmerged
  have hserved := serves_steps h
  unfold order
  -- two orders in which one amendment is over first, and four in which both read the old rule
  rcases merged_pairs hmerged with hfs | hfs | hfs | hfs | hfs | hfs <;> rw [hfs] at hserved ⊢
  · obtain ⟨hfinal, hca, hcb⟩ := serves_serial hab ha hb hserved
    exact ⟨y, hfinal, iff_of_true ⟨hca, hcb⟩ (.inl rfl)⟩
  · obtain ⟨hfinal, hcb, hca⟩ := serves_serial hab.symm hb ha hserved
    exact ⟨x, hfinal, iff_of_true ⟨hca, hcb⟩ (.inr (.inl rfl))⟩
  · obtain ⟨rfl, rfl, hwrites⟩ := serves_readings hs hserved
    obtain ⟨hfinal, hca, hcb⟩ := serves_across hab hs ha hb hwrites
    exact ⟨y, hfinal, by simp [hca, hcb]⟩
  · obtain ⟨rfl, rfl, hwrites⟩ := serves_readings hs hserved
    obtain ⟨hfinal, hca, hcb⟩ := serves_across hab hs ha hb hwrites
    exact ⟨y, hfinal, by simp [hca, hcb]⟩
  · obtain ⟨rfl, rfl, hwrites⟩ := serves_readings hs hserved
    obtain ⟨hfinal, hcb, hca⟩ := serves_across hab.symm hs hb ha hwrites
    exact ⟨x, hfinal, by simp [hca, hcb]⟩
  · obtain ⟨rfl, rfl, hwrites⟩ := serves_readings hs hserved
    obtain ⟨hfinal, hcb, hca⟩ := serves_across hab.symm hs hb ha hwrites
    exact ⟨x, hfinal, by simp [hca, hcb]⟩

/-! ### A rule that is renamed while it is switched off -/

def banAll : Rule where
  id := .ofNat 7
  name := ⟨"All", by decide⟩
  description := none
  conditions := ⟨[]⟩
  action := .ban none
  isActive := true
  createdAt := ⟨0⟩
  updatedAt := ⟨0⟩

def banAllOff : Rule := { banAll with isActive := false, updatedAt := ⟨1⟩ }

/-- The rule when it was renamed. -/
def banEveryone : Rule := { banAll with name := ⟨"Everyone", by decide⟩, updatedAt := ⟨2⟩ }

def toEveryone : Rule.Amendment := ⟨some "Everyone", none, none, none, none⟩

/-- The one who renames reads the rule first and writes it last. -/
def renamedAcross : Trace :=
  [(0, reading banAll.id banAll), (1, reading banAll.id banAll), (1, ⟨.now, ⟨1⟩⟩),
    (1, writing banAllOff banAllOff), (1, ⟨.log (.ruleUpdated banAll.id), ()⟩), (0, ⟨.now, ⟨2⟩⟩),
    (0, writing banEveryone banEveryone), (0, ⟨.log (.ruleUpdated banAll.id), ()⟩)]

theorem renamedAcross_runs :
    Runs Store.party
      ⟨⟨[banAll], []⟩, [.ofPlan (amend banAll.id toEveryone), .ofPlan (setActive banAll.id false)]⟩
      renamedAcross
      ⟨⟨[banEveryone], []⟩, [.done (.ok banEveryone), .done (.ok banAllOff)]⟩ :=
  .turn (i := 0) rfl (.call _ _ _) ⟨rfl, rfl⟩ <|
    .turn (i := 1) rfl (.call _ _ _) ⟨rfl, rfl⟩ <|
    .turn (i := 1) rfl (.call _ _ _) rfl <|
    .turn (i := 1) rfl (.call _ _ _) ⟨⟨1⟩, rfl⟩ <|
    .turn (i := 1) rfl (.call _ _ _) rfl <|
    .turn (i := 0) rfl (.call _ _ _) rfl <|
    .turn (i := 0) rfl (.call _ _ _) ⟨⟨2⟩, rfl⟩ <|
    .turn (i := 0) rfl (.call _ _ _) rfl <|
    .nil _

theorem toEveryone_disjoint : toEveryone.Disjoint (.activation false) := by
  intro part
  cases part <;> first | exact .inl rfl | exact .inr rfl

theorem amended_together_across :
    toEveryone.Disjoint (.activation false) ∧
      Store.find? ⟨[banAll], []⟩ banAll.id = some banAll ∧
      ∃ final, Store.find? ⟨[banEveryone], []⟩ banAll.id = some final ∧
        ¬(toEveryone.Carries final ∧ (Rule.Amendment.activation false).Carries final) := by
  obtain ⟨final, hfinal, hiff⟩ := amended_together toEveryone_disjoint rfl renamedAcross_runs
  refine ⟨toEveryone_disjoint, rfl, final, hfinal, fun hboth => ?_⟩
  have horder : order renamedAcross = [0, 1, 1, 0] := rfl
  have hon : (Rule.Amendment.activation false).Carries banAll := by
    simpa [horder] using hiff.1 hboth
  cases hon .isActive false rfl

/-- A rule that was switched off can be found switched on. -/
theorem deactivation_lost :
    ¬∀ {s t : Store} {id : RuleId} {a b : Rule.Amendment} {old x y : Rule} {es : Trace},
      a.Disjoint b → s.find? id = some old →
      Runs Store.party ⟨s, [.ofPlan (amend id a), .ofPlan (amend id b)]⟩ es
        ⟨t, [.done (.ok x), .done (.ok y)]⟩ →
      ∃ final, t.find? id = some final ∧ a.Carries final ∧ b.Carries final := by
  intro hkept
  obtain ⟨final, hfinal, -, hoff⟩ := hkept toEveryone_disjoint rfl renamedAcross_runs
  obtain rfl : banEveryone = final := Option.some.inj hfinal
  cases hoff .isActive false rfl

end Crew

end PeerRules
