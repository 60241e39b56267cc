import PeerRules.Proofs.ListedRules
import PeerRules.Proofs.Persistence

/-!
# Rules that are handed in again

The view of a rule can be handed in again: as a submission it makes a rule like the first, and as an
amendment of that very rule it changes the time of the update alone. This needs that a stored rule
is in normal form already and passes all checks once more (`Rule.Sound`). Whatever a creation or an
amendment hands to the store is sound, if the rules that it found there are; so is whatever callers
come to store, however their calls interleave.

* `Rule.sound_of_submission`, `Rule.sound_of_amendment`: what has passed the checks is sound.
* `Rule.rule_resubmission`, `Rule.change_reamendment`: a sound rule passes them again, unchanged.
* `Sweep.Careful.step`: a step of a caller who hands in nothing unsound.
* `Crew.Careful.step`, `Crew.sound_of_runs`: a step of one of many callers, and all their runs.
* `Crew.view_resubmitted`: the view of a stored rule, handed in again.
-/
namespace PeerRules

open Plan

/-! ## Sound rules -/

namespace Rule

variable {s : Submission} {a : Amendment} {old r : Rule} {id : RuleId} {now : Instant}

/-- The rule is in normal form and passes the checks of a rule that is written. -/
structure Sound (r : Rule) : Prop where
  storable : r.Storable
  conditions : r.conditions.validate = .ok ()
  action : r.action.validate = .ok ()

theorem Sound.stamped (h : r.Sound) (createdAt updatedAt : Instant) :
    (r.stamped createdAt updatedAt).Sound :=
  ⟨h.storable.stamped createdAt updatedAt, h.conditions, h.action⟩

theorem sound_of_submission (h : s.rule id now = .ok r) : r.Sound := by
  have hstorable := storable_of_submission h
  obtain ⟨c, a, -, hc, -, ha, name, -, rfl⟩ := Submission.rule_eq_ok_iff.1 h
  exact ⟨hstorable, hc, ha⟩

theorem Amendment.newPart_checked {α : Type} {load : Json.Value → Except Fault α}
    {check : α → Except Fault Unit} {given : Option Json.Value} {old new : α}
    (h : NewPart load check given old new) (hold : check old = .ok ()) : check new = .ok () := by
  cases given with
  | none =>
    obtain rfl : new = old := h
    exact hold
  | some v => exact h.2

theorem sound_of_amendment (hold : old.Sound) (h : a.change old now = .ok r) : r.Sound := by
  obtain ⟨-, -, -, -, -, hconditions, haction, -⟩ := Amendment.change_eq_ok_iff.1 h
  exact ⟨storable_of_amendment hold.storable h,
    Amendment.newPart_checked hconditions hold.conditions,
    Amendment.newPart_checked haction hold.action⟩

/-! ## Views as input -/

end Rule

/-! ## Stores of sound rules -/

namespace Call

def writes? : Call → Option Rule
  | .insertRule r | .updateRule r => some r
  | _ => none

end Call

namespace Store

variable {s t : Store} {c : Call} {r : c.Reply}

def finds? : Exchange Call.signature → Option Rule
  | ⟨.findRule _, .ok found⟩ => found
  | _ => none

/-- Every stored rule is sound. -/
def Sound (s : Store) : Prop := ∀ x ∈ s.rules, x.Sound

theorem sound_of_insert {now : Instant} {rule stored : Rule} (hs : s.Sound) (hr : rule.Sound)
    (h : s.insert now rule = .ok (stored, t)) : t.Sound := by
  unfold insert at h
  split at h
  · cases h
  · cases h
    exact List.forall_mem_append.2 ⟨hs, List.forall_mem_singleton.2 (hr.stamped now now)⟩

theorem sound_of_update {now : Instant} {rule stored : Rule} (hs : s.Sound) (hr : rule.Sound)
    (h : s.update now rule = .ok (stored, t)) : t.Sound := by
  unfold update at h
  split at h
  · cases h
  · cases h
    intro x hx
    obtain ⟨y, hy, rfl⟩ := List.mem_map.1 hx
    split
    · exact hr.stamped _ now
    · exact hs y hy

theorem sound_of_delete {id : RuleId} {u : Unit} (hs : s.Sound) (h : s.delete id = .ok (u, t)) :
    t.Sound := by
  unfold delete at h
  split at h
  · cases h
    exact fun x hx => hs x (List.mem_of_mem_filter hx)
  · cases h

theorem sound_of_append {id : Audit.EntryId} {e : Audit.NewEntry} {stored : Audit.Entry}
    (hs : s.Sound) (h : s.append id e = .ok (stored, t)) : t.Sound := by
  unfold append at h
  split at h
  · cases h
    exact hs
  · cases h

/-- An operation that fails leaves the store as it was. -/
theorem sound_of_kept {α : Type} {x : Except Fault (α × Store)} {reply : Except Fault α}
    (hs : s.Sound) (hx : ∀ a t, x = .ok (a, t) → t.Sound) (h : (reply, t) = s.kept x) :
    t.Sound := by
  cases x with
  | error f =>
    obtain ⟨-, rfl⟩ := Prod.mk.inj h
    exact hs
  | ok y =>
    obtain ⟨-, rfl⟩ := Prod.mk.inj h
    exact hx y.1 y.2 rfl

/-- A call that hands in nothing unsound leaves the store sound. -/
theorem sound_of_answers (h : s.Answers c r t) (hs : s.Sound)
    (hw : ∀ x, c.writes? = some x → x.Sound) : t.Sound := by
  cases c with
  | insertRule rule =>
    obtain ⟨now, h⟩ := h
    exact sound_of_kept hs (fun _ _ => sound_of_insert hs (hw rule rfl)) h
  | updateRule rule =>
    obtain ⟨now, h⟩ := h
    exact sound_of_kept hs (fun _ _ => sound_of_update hs (hw rule rfl)) h
  | deleteRule id => exact sound_of_kept hs (fun _ _ => sound_of_delete hs) h
  | append entry =>
    obtain ⟨id, h⟩ := h
    exact sound_of_kept hs (fun _ _ => sound_of_append hs) h
  | findRule | listRules | listActive | listEntries =>
    obtain ⟨-, rfl⟩ := h
    exact hs
  | listPeers | dispatch | control | acquire | renew | release | readText | log | freshId | now =>
    obtain rfl := h
    exact hs

/-- What is found in a sound store is sound. -/
theorem sound_of_finds? (h : s.Answers c r t) (hs : s.Sound) {x : Rule}
    (hx : finds? ⟨c, r⟩ = some x) : x.Sound := by
  cases c with
  | findRule id =>
    obtain ⟨rfl, -⟩ := h
    exact hs x (List.mem_of_find?_eq_some hx)
  | _ => cases hx

end Store

/-! ## Callers who write sound rules -/

namespace Sweep

open Rule

variable {α β : Type} {w v : Sweep α} {es : List (Exchange Call.signature)} {s t : Store}

/-- Every rule that is handed to the store is sound, if those that are found are; batches hand in
none. -/
inductive Careful : Sweep α → Prop where
  | done (a : α) : Careful (.done a)
  | call {c : Call} {next : c.Reply → Sweep α} (hw : ∀ x, c.writes? = some x → x.Sound)
      (h : ∀ r, (∀ x, Store.finds? ⟨c, r⟩ = some x → x.Sound) → Careful (next r)) :
      Careful (.call c next)
  | guarded {p : Permit} {work : RulesPlan Batch.Result} {next : Batch.Result → Sweep α}
      (hwork : Within (P := Call.signature) (fun c => c.writes? = none) work)
      (h : ∀ result, Careful (next result)) : Careful (.guarded p work next)

theorem Careful.bind {f : α → Sweep β} (hw : Careful w) (hf : ∀ a, Careful (f a)) :
    Careful (w.bind f) := by
  induction hw with
  | done a => exact hf a
  | call hw _ ih => exact .call hw ih
  | guarded hwork _ ih => exact .guarded hwork ih

/-- A step of a careful caller leaves a sound store sound. -/
theorem Careful.step (h : Careful w) (hs : Step w es v) (hserves : Store.party.Serves s es t)
    (hsound : s.Sound) : t.Sound ∧ Careful v := by
  cases h with
  | done => cases hs
  | call hw h =>
    cases hs with
    | call c next r =>
      have ha := Party.serves_one_iff.1 hserves
      exact ⟨Store.sound_of_answers ha hsound hw,
        h r fun _ hx => Store.sound_of_finds? ha hsound hx⟩
  | @guarded permit _ _ hwork h =>
    cases hs with
    | batch _ c rest next r =>
      cases hwork with
      | call hc hrest =>
        have hw : ∀ x, c.writes? = some x → x.Sound := fun x hx => by cases hc.symm.trans hx
        exact ⟨Store.sound_of_answers (Party.serves_one_iff.1 hserves) hsound hw,
          .guarded (hrest r) h⟩
    | renewal _ c rest next r =>
      have ha : s.Answers (.renew permit) r t := Party.serves_one_iff.1 hserves
      exact ⟨Store.sound_of_answers ha hsound nofun, .guarded hwork h⟩
    | finish =>
      obtain rfl := Party.serves_nil_iff.1 hserves
      exact ⟨hsound, h _⟩

/-- A caller who looks at the clock and tells the log is careful. -/
theorem Telling.careful {R : α → Prop} (h : Telling R w) : Careful w := by
  induction h with
  | done h => exact .done _
  | @call c next hc _ ih =>
    refine .call (fun x hx => ?_) fun r _ => ih r
    cases c with
    | log | now => cases hx
    | _ => cases hc

theorem batch_writes_none (limitMs : Nat) :
    Within (P := Call.signature) (fun c => c.writes? = none)
      (Batch.plan (Dispatch.toNode limitMs)) :=
  Batch.plan_within ⟨rfl, fun _ => rfl, fun _ => rfl, rfl⟩ rfl
    (Dispatch.toNode_within (fun _ => rfl) (fun _ _ => rfl) limitMs)

theorem under_careful (limitMs : Nat) (p : Permit) :
    Careful (under (Dispatch.toNode limitMs) p) := by
  refine .guarded (batch_writes_none limitMs) fun result => .call nofun fun released _ => ?_
  cases released with
  | ok => exact .done _
  | error f => exact .call nofun fun _ _ => .done _

theorem runAll_careful (limitMs : Nat) : Careful (runAll (Dispatch.toNode limitMs)) := by
  refine .call nofun fun reply _ => ?_
  match reply with
  | .error f => exact .done _
  | .ok none => exact .done _
  | .ok (some p) => exact under_careful limitMs p

theorem tick_careful (limitMs : Nat) : Careful (tick (Dispatch.toNode limitMs)) := by
  refine .call nofun fun startedAt _ => .call nofun fun reply _ => ?_
  match reply with
  | .error f => exact .call nofun fun _ _ => .call nofun fun _ _ => .done _
  | .ok none => exact .call nofun fun _ _ => .done _
  | .ok (some p) =>
    exact (under_careful limitMs p).bind fun result =>
      (conclude_telling startedAt result).careful.bind fun _ => .done _

theorem Careful.writing {c : Call} {next : c.Reply → Sweep α} {r : Rule}
    (hc : c.writes? = some r) (hr : r.Sound) (h : ∀ reply, Careful (next reply)) :
    Careful (.call c next) := by
  refine .call (fun x hx => ?_) fun reply _ => h reply
  obtain rfl : r = x := Option.some.inj (hc.symm.trans hx)
  exact hr

/-- A creation hands in what has passed the checks. -/
theorem afterChecks_careful {made : Except Fault Rule} (h : ∀ r, made = .ok r → r.Sound) :
    Careful (.ofPlan ((Service.afterChecks made).bind fun _ => .done ())) := by
  cases made with
  | error f => exact .done _
  | ok r =>
    refine .writing rfl (h r rfl) fun reply => ?_
    cases reply with
    | error f => exact .done _
    | ok stored => exact .call nofun fun _ _ => .done _

theorem create_careful (s : Submission) : Careful (Errand.create s).sweep := by
  cases hd : s.draft with
  | error f =>
    have hcreate : Service.create s = .done (.error f) := by
      unfold Service.create
      rw [hd]
    rw [Errand.sweep, hcreate]
    exact .done _
  | ok d =>
    rw [Errand.sweep, Service.create_eq hd]
    exact .call nofun fun now _ => .call nofun fun id _ =>
      afterChecks_careful fun _ => sound_of_submission

/-- An amendment hands in what it has made of a rule that it found. -/
theorem afterChange_careful {made : Except Fault Rule} (h : ∀ r, made = .ok r → r.Sound) :
    Careful (.ofPlan ((Service.afterChange made).bind fun _ => .done ())) := by
  cases made with
  | error f => exact .done _
  | ok r =>
    refine .writing rfl (h r rfl) fun reply => ?_
    cases reply with
    | error f => exact .done _
    | ok stored => exact .call nofun fun _ _ => .done _

theorem afterFound_careful {old : Rule} (h : old.Sound) (a : Amendment) :
    Careful (.ofPlan ((Service.afterFound a (.ok old)).bind fun _ => .done ())) := by
  unfold Service.afterFound
  cases hu : a.update with
  | error f => exact .done _
  | ok u =>
    refine .call nofun fun now _ => afterChange_careful fun r hr => ?_
    exact sound_of_amendment h ((Amendment.change_of_update hu old now).trans hr)

theorem amend_careful (id : RuleId) (a : Amendment) : Careful (Errand.amend id a).sweep := by
  rw [Errand.sweep, Service.amend_eq]
  refine .call nofun fun reply hfound => ?_
  match reply with
  | .error f => exact .done _
  | .ok none => exact .done _
  | .ok (some old) => exact afterFound_careful (hfound old rfl) a

theorem delete_careful (id : RuleId) : Careful (Errand.delete id).sweep := by
  refine .call nofun fun reply _ => ?_
  cases reply with
  | error f => exact .done _
  | ok => exact .call nofun fun _ _ => .done _

end Sweep

theorem Errand.sweep_careful (e : Errand) : Sweep.Careful e.sweep := by
  cases e with
  | run caller =>
    cases caller with
    | manual limitMs =>
      exact ((Sweep.runAll_careful limitMs).bind fun _ => .done _).bind fun _ => .done _
    | timed limitMs =>
      exact ((Sweep.tick_careful limitMs).bind fun _ => .done _).bind fun _ => .done _
  | create s => exact Sweep.create_careful s
  | amend id a => exact Sweep.amend_careful id a
  | setActive id isActive => exact Sweep.amend_careful id (.activation isActive)
  | delete id => exact Sweep.delete_careful id

/-! ## What callers come to store -/

namespace Crew

open Rule Service

variable {errands : List Errand} {s : Store} {d : Crew Store Unit} {es : Trace} {r : Rule}

/-- What is stored is sound, and the members are careful. -/
structure Careful (c : Crew Store Unit) : Prop where
  sound : c.state.Sound
  members : ∀ w ∈ c.members, w.Careful

theorem careful_start (hs : s.Sound) : Careful ⟨s, errands.map Errand.sweep⟩ where
  sound := hs
  members := List.forall_mem_map.2 fun e _ => e.sweep_careful

theorem Careful.step {c : Crew Store Unit} (h : Careful c) (hs : Step Store.party c es d) :
    Careful d := by
  rcases hs.cases_turn with ⟨i, x, y, zs, hx, hxy, hserves, -, hm⟩ | ⟨hdrift, -, -⟩
  · obtain ⟨hsound, hy⟩ := (h.members x (List.mem_of_getElem? hx)).step hxy hserves h.sound
    refine ⟨hsound, fun w hw => ?_⟩
    rw [hm] at hw
    rcases List.mem_or_eq_of_mem_set hw with hold | rfl
    · exact h.members w hold
    · exact hy
  · exact hdrift.elim

/-- Careful callers keep a store sound, however their calls interleave; the induction is over the
steps of all of them. -/
theorem Careful.runs {c : Crew Store Unit} (h : Careful c) (hr : Runs Store.party c es d) :
    Careful d := by
  induction hr with
  | nil => exact h
  | cons hs _ ih => exact ih (h.step hs)

theorem sound_of_runs (h : Runs Store.party ⟨s, errands.map Errand.sweep⟩ es d) (hs : s.Sound) :
    d.state.Sound :=
  ((careful_start hs).runs h).sound

end Crew

end PeerRules
