import Mathlib.Data.List.Nodup
import PeerRules.Proofs.Courses
import PeerRules.Store

/-!
# What a store keeps

A store that begins with nothing answers calls, one after another, in any order and from any number
of callers. What it has acknowledged decides what it holds: a `Deed` is an acknowledged write, and
the deeds of a run, the oldest first, are all that `Ledger` speaks of.

* `Answers.cases_deed`: an answer is a deed, or leaves the store as it was.
* `Ledger.does`: what one deed does to the ledger, a case for each kind.
* `late_answered`: what comes too late, after its rule was deleted, is refused.
* `history_kept`: the ledger of every run, and what is not in it.
-/
namespace PeerRules.Store

open Plan

/-! ## Deeds -/

/-- An acknowledged write: the rule or the entry as it was stored, or the rule that was deleted. -/
inductive Deed where
  | inserted (r : Rule)
  | updated (r : Rule)
  | deleted (id : RuleId)
  | appended (e : Audit.Entry)

namespace Deed

def deletes (id : RuleId) : Deed → Bool
  | .deleted i => decide (i = id)
  | _ => false

def insertion? : Deed → Option (RuleId × Instant)
  | .inserted r => some (r.id, r.createdAt)
  | _ => none

def entry? : Deed → Option Audit.Entry
  | .appended e => some e
  | _ => none

theorem filter_deletes {α : Type} {d : Deed} (h : ∀ id, d.deletes id = false) (owner : α → RuleId)
    (as : List α) : as.filter (fun a => !d.deletes (owner a)) = as := by
  simp [h]

/-- What a deed says about the rule with an identifier, if it is about that rule: which rule it is
now, or that there is none. -/
def says? (id : RuleId) : Deed → Option (Option Rule)
  | .inserted r | .updated r => if r.id = id then some (some r) else none
  | .deleted i => if i = id then some none else none
  | .appended _ => none

end Deed

/-- What deeds made, in order, without what went with a rule that a later deed deleted. -/
def standing {α : Type} (owner : α → RuleId) (made? : Deed → Option α) : List Deed → List α
  | [] => []
  | d :: later =>
    (made? d).toList.filter (fun a => !later.any (Deed.deletes (owner a)))
      ++ standing owner made? later

/-- What the last deed about a rule said about it. -/
def lastSaid (id : RuleId) (ds : List Deed) : Option Rule :=
  (ds.reverse.findSome? (Deed.says? id)).join

/-- What a store holds after deeds. -/
structure Ledger (ds : List Deed) (s : Store) : Prop where
  /-- No identifier is stored twice. -/
  distinct : s.ids.Nodup
  /-- The rule of every entry is stored. -/
  owned : ∀ e ∈ s.entries, s.contains e.ruleId = true
  /-- The rules stand in the order of their insertion, with the time of it. -/
  listed : s.rules.map (fun r => (r.id, r.createdAt)) = standing Prod.fst Deed.insertion? ds
  /-- A rule that is found is the one that was last acknowledged. -/
  found : ∀ id, s.find? id = lastSaid id ds
  /-- The entries are the ones that were acknowledged, in order, as they were then. -/
  logged : s.entries = standing (fun e => e.ruleId) Deed.entry? ds

theorem standing_snoc {α : Type} (owner : α → RuleId) (made? : Deed → Option α) (ds : List Deed)
    (d : Deed) : standing owner made? (ds ++ [d]) =
      (standing owner made? ds).filter (fun a => !d.deletes (owner a)) ++ (made? d).toList := by
  induction ds with
  | nil => simp [standing]
  | cons e ds ih =>
    simp [standing, ih, List.filter_filter, Bool.and_comm]

theorem lastSaid_snoc (id : RuleId) (ds : List Deed) (d : Deed) :
    lastSaid id (ds ++ [d]) = (d.says? id).getD (lastSaid id ds) := by
  unfold lastSaid
  rw [List.reverse_append, List.reverse_singleton, List.singleton_append, List.findSome?_cons]
  cases d.says? id <;> rfl

/-- What a deed does to the store. -/
inductive Does : Store → Deed → Store → Prop where
  | insert {s : Store} {r : Rule} (hfree : s.contains r.id = false) :
      Does s (.inserted r) { s with rules := s.rules ++ [r] }
  | update {s : Store} {r old : Rule} (hold : s.find? r.id = some old)
      (hcreated : r.createdAt = old.createdAt) :
      Does s (.updated r) { s with rules := s.rules.map fun x => if x.id = r.id then r else x }
  | delete {s : Store} {id : RuleId} (hstored : s.contains id = true) :
      Does s (.deleted id) ⟨s.rules.filter (·.id ≠ id), s.entries.filter (·.ruleId ≠ id)⟩
  | append {s : Store} {e : Audit.Entry} (hstored : s.contains e.ruleId = true) :
      Does s (.appended e) { s with entries := s.entries ++ [e] }

/-- The deed that a call is when it is answered so. -/
def deed? : Exchange Call.signature → Option Deed
  | ⟨.insertRule _, .ok r⟩ => some (.inserted r)
  | ⟨.updateRule _, .ok r⟩ => some (.updated r)
  | ⟨.deleteRule id, .ok ()⟩ => some (.deleted id)
  | ⟨.append _, .ok e⟩ => some (.appended e)
  | _ => none

def deeds (es : List (Exchange Call.signature)) : List Deed := es.filterMap deed?

/-- An answer is a deed, or leaves the store as it was. -/
theorem Answers.cases_deed {s t : Store} {c : Call} {r : c.Reply} (h : s.Answers c r t) :
    (deed? ⟨c, r⟩ = none ∧ t = s) ∨ ∃ d, deed? ⟨c, r⟩ = some d ∧ Does s d t := by
  cases c with
  | insertRule rule =>
    obtain ⟨now, hkept⟩ := h
    unfold insert at hkept
    split at hkept
    · obtain ⟨rfl, rfl⟩ := Prod.mk.inj hkept
      exact .inl ⟨rfl, rfl⟩
    · next hfree =>
      obtain ⟨rfl, rfl⟩ := Prod.mk.inj hkept
      have hfree : s.contains rule.id = false := by simpa using hfree
      exact .inr ⟨_, rfl, .insert hfree⟩
  | updateRule rule =>
    obtain ⟨now, hkept⟩ := h
    unfold update at hkept
    split at hkept
    · obtain ⟨rfl, rfl⟩ := Prod.mk.inj hkept
      exact .inl ⟨rfl, rfl⟩
    · next old hold =>
      obtain ⟨rfl, rfl⟩ := Prod.mk.inj hkept
      exact .inr ⟨_, rfl, .update hold rfl⟩
  | deleteRule id =>
    change (r, t) = s.kept (s.delete id) at h
    unfold delete at h
    split at h
    · next hstored =>
      obtain ⟨rfl, rfl⟩ := Prod.mk.inj h
      exact .inr ⟨_, rfl, .delete hstored⟩
    · obtain ⟨rfl, rfl⟩ := Prod.mk.inj h
      exact .inl ⟨rfl, rfl⟩
  | append entry =>
    obtain ⟨id, hkept⟩ := h
    unfold append at hkept
    split at hkept
    · next hstored =>
      obtain ⟨rfl, rfl⟩ := Prod.mk.inj hkept
      exact .inr ⟨_, rfl, .append hstored⟩
    · obtain ⟨rfl, rfl⟩ := Prod.mk.inj hkept
      exact .inl ⟨rfl, rfl⟩
  | findRule | listRules | listActive | listEntries => exact .inl ⟨rfl, h.2⟩
  | listPeers | dispatch | control | acquire | renew | release | readText | log | freshId | now =>
    exact .inl ⟨rfl, h⟩

/-! ## One deed -/

variable {s t : Store} {ds : List Deed} {d : Deed}

theorem contains_eq_isSome (s : Store) (id : RuleId) : s.contains id = (s.find? id).isSome :=
  List.isSome_find?.symm

/-- What is found after a deed is what it says, if it is about the rule. -/
theorem Does.find? (h : Does s d t) (id : RuleId) :
    t.find? id = (d.says? id).getD (s.find? id) := by
  cases h with
  | @insert r hfree =>
    by_cases hid : r.id = id
    · have hnone : s.find? id = none := by simpa [contains_eq_isSome, hid] using hfree
      rw [Store.find?] at hnone
      simp [Store.find?, Deed.says?, hid, hnone]
    · simp [Store.find?, Deed.says?, hid]
  | @update r old hold hcreated =>
    have hkey : ∀ x : Rule, (if x.id = r.id then r else x).id = x.id := by
      intro x
      split
      · next hx => exact hx.symm
      · rfl
    simp only [Store.find?, List.find?_map, Function.comp_def, hkey, Deed.says?]
    by_cases hid : r.id = id
    · obtain rfl := hid
      rw [Store.find?] at hold
      have hoid : old.id = r.id := by simpa using List.find?_some hold
      simp [hold, hoid]
    · rw [if_neg hid, Option.getD_none]
      cases hx : s.rules.find? (·.id = id) with
      | none => rfl
      | some x =>
        have hxid : x.id = id := by simpa using List.find?_some hx
        simp [hxid, Ne.symm hid]
  | @delete i hstored =>
    simp only [Store.find?, List.find?_filter, Deed.says?]
    by_cases hid : i = id
    · subst hid
      simp
    · rw [if_neg hid, Option.getD_none]
      congr 1
      funext x
      by_cases hx : x.id = id <;> simp [hx, Ne.symm hid]
  | @append e hstored => rfl

theorem eq_of_find? {id : RuleId} {old x : Rule} (hdistinct : s.ids.Nodup)
    (hold : s.find? id = some old) (hx : x ∈ s.rules) (hid : x.id = id) : x = old := by
  have hoid : old.id = id := by simpa using List.find?_some hold
  exact List.inj_on_of_nodup_map hdistinct hx (List.mem_of_find?_eq_some hold) (hid.trans hoid.symm)

/-- A deed takes out what it deletes, and adds what it makes behind the rest. -/
theorem Does.listed (h : Does s d t) (hdistinct : s.ids.Nodup) :
    t.rules.map (fun r => (r.id, r.createdAt)) =
      (s.rules.map fun r => (r.id, r.createdAt)).filter (fun a => !d.deletes a.1)
        ++ d.insertion?.toList := by
  cases h with
  | @insert r hfree =>
    rw [Deed.filter_deletes fun _ => rfl]
    simp [Deed.insertion?]
  | @update r old hold hcreated =>
    rw [Deed.filter_deletes fun _ => rfl, List.map_map]
    refine (List.map_congr_left fun x hx => ?_).trans (List.append_nil _).symm
    simp only [Function.comp_apply]
    split
    · next hid =>
      obtain rfl := eq_of_find? hdistinct hold hx hid
      rw [hcreated, hid]
    · rfl
  | @delete i hstored =>
    simp [Deed.deletes, Deed.insertion?, List.filter_map, Function.comp_def, eq_comm]
  | @append e hstored =>
    rw [Deed.filter_deletes fun _ => rfl]
    simp [Deed.insertion?]

/-- The same for the entries. -/
theorem Does.logged (h : Does s d t) : t.entries =
    s.entries.filter (fun e => !d.deletes e.ruleId) ++ d.entry?.toList := by
  cases h with
  | @insert r hfree =>
    rw [Deed.filter_deletes fun _ => rfl]
    simp [Deed.entry?]
  | @update r old hold hcreated =>
    rw [Deed.filter_deletes fun _ => rfl]
    simp [Deed.entry?]
  | @delete i hstored => simp [Deed.deletes, Deed.entry?, eq_comm]
  | @append e hstored =>
    rw [Deed.filter_deletes fun _ => rfl]
    simp [Deed.entry?]

theorem Does.distinct (h : Does s d t) (hdistinct : s.ids.Nodup) : t.ids.Nodup := by
  cases h with
  | @insert r hfree =>
    have hnew : r.id ∉ s.ids := by simpa [contains, ids] using hfree
    have hnodup := hdistinct.concat hnew
    rw [List.concat_eq_append] at hnodup
    simpa [ids] using hnodup
  | @update r old hold hcreated =>
    have hsame : (s.rules.map fun x => if x.id = r.id then r else x).map (·.id) = s.ids := by
      rw [List.map_map]
      refine List.map_congr_left fun x _ => ?_
      simp only [Function.comp_apply]
      split
      · next hid => exact hid.symm
      · rfl
    rw [ids, hsame]
    exact hdistinct
  | @delete i hstored => exact hdistinct.sublist (List.filter_sublist.map _)
  | @append e hstored => exact hdistinct

/-- A rule that is stored stays so until it is deleted. -/
theorem Does.contains (h : Does s d t) {id : RuleId} (hs : s.contains id = true)
    (hd : d.deletes id = false) : t.contains id = true := by
  rw [contains_eq_isSome] at hs ⊢
  rw [h.find?]
  cases d with
  | inserted r | updated r =>
    by_cases hid : r.id = id <;> simp [Deed.says?, hid, hs]
  | deleted i =>
    have hid : i ≠ id := by simpa [Deed.deletes] using hd
    simp [Deed.says?, hid, hs]
  | appended e => exact hs

theorem Does.owned (h : Does s d t) (howned : ∀ e ∈ s.entries, s.contains e.ruleId = true) :
    ∀ e ∈ t.entries, t.contains e.ruleId = true := by
  intro e he
  rw [h.logged] at he
  rcases List.mem_append.1 he with he | he
  · obtain ⟨he, hkept⟩ := List.mem_filter.1 he
    exact h.contains (howned e he) (by simpa using hkept)
  · cases h with
    | @append e' hstored =>
      obtain rfl : e = e' := by simpa [Deed.entry?] using he
      exact hstored
    | insert | update | delete => cases he

/-- What a deed does to the ledger. -/
theorem Ledger.does (h : Ledger ds s) (hd : Does s d t) : Ledger (ds ++ [d]) t where
  distinct := hd.distinct h.distinct
  owned := hd.owned h.owned
  listed := by rw [hd.listed h.distinct, standing_snoc, h.listed]
  found id := by rw [hd.find?, lastSaid_snoc, h.found]
  logged := by rw [hd.logged, standing_snoc, ← h.logged]

/-! ## A run -/

variable {es : List (Exchange Call.signature)}

/-- The ledger of a run that goes on; the induction is over the calls that follow. -/
theorem Ledger.serves (hl : Ledger ds s) (h : party.Serves s es t) : Ledger (ds ++ deeds es) t := by
  induction h generalizing ds with
  | nil s => simpa [deeds] using hl
  | @cons s m t c r es ha _ ih =>
    rcases Answers.cases_deed ha with ⟨hnone, rfl⟩ | ⟨d, hsome, hd⟩
    · simpa [deeds, hnone] using ih hl
    · simpa [deeds, hsome] using ih (hl.does hd)

theorem ledger_empty : Ledger [] empty where
  distinct := List.nodup_nil
  owned := by simp [empty]
  listed := rfl
  found _ := rfl
  logged := rfl

/-! ## What comes too late -/

/-- Whether a deed puts a rule into the store that was not there. -/
def Deed.inserts (id : RuleId) : Deed → Bool
  | .inserted r => decide (r.id = id)
  | _ => false

/-- A write that needs the rule with an identifier is refused for the want of it. -/
def Late (id : RuleId) : Exchange Call.signature → Prop
  | ⟨.updateRule rule, reply⟩ => rule.id = id → reply = .error id.notStored
  | ⟨.append entry, reply⟩ => entry.ruleId = id → reply = .error id.notStored
  | ⟨.deleteRule i, reply⟩ => i = id → reply = .error id.notStored
  | _ => True

theorem late_of_absent {c : Call} {r : c.Reply} {id : RuleId} (hs : s.contains id = false)
    (h : s.Answers c r t) : Late id ⟨c, r⟩ := by
  have hnone : s.find? id = none := by simpa [contains_eq_isSome] using hs
  cases c with
  | updateRule rule =>
    rintro rfl
    obtain ⟨now, hkept⟩ := h
    rw [update, hnone] at hkept
    exact (Prod.mk.inj hkept).1
  | append entry =>
    rintro rfl
    obtain ⟨i, hkept⟩ := h
    rw [append, hs] at hkept
    exact (Prod.mk.inj hkept).1
  | deleteRule i =>
    rintro rfl
    change (r, t) = s.kept (s.delete i) at h
    rw [delete, hs] at h
    exact (Prod.mk.inj h).1
  | _ => trivial

/-- Only an insertion brings a rule into the store. -/
theorem Does.absent (h : Does s d t) {id : RuleId} (hs : s.contains id = false)
    (hd : d.inserts id = false) : t.contains id = false := by
  have hnone : s.find? id = none := by simpa [contains_eq_isSome] using hs
  have hother : ∀ x, d.says? id ≠ some (some x) := by
    intro x hx
    cases h with
    | @insert r hfree =>
      have hid : r.id ≠ id := by simpa [Deed.inserts] using hd
      simp [Deed.says?, hid] at hx
    | @update r old hold hcreated =>
      have hid : r.id ≠ id := by
        rintro rfl
        rw [hnone] at hold
        cases hold
      simp [Deed.says?, hid] at hx
    | @delete i hstored =>
      by_cases hid : i = id <;> simp [Deed.says?, hid] at hx
    | @append e hstored => cases hx
  rw [contains_eq_isSome, h.find?, hnone]
  cases hsaid : d.says? id with
  | none => rfl
  | some x =>
    cases x with
    | none => rfl
    | some x => exact absurd hsaid (hother x)

/-- A rule that is not stored, and is not inserted, stays away, and what is written for it is
refused. -/
theorem late_answered {id : RuleId} (hs : s.contains id = false) (h : party.Serves s es t)
    (hd : ∀ d ∈ deeds es, d.inserts id = false) : t.contains id = false ∧ ∀ e ∈ es, Late id e := by
  induction h with
  | nil s => exact ⟨hs, by simp⟩
  | @cons s m t c r es ha _ ih =>
    have hlate := late_of_absent hs ha
    rcases Answers.cases_deed ha with ⟨hnone, rfl⟩ | ⟨d, hsome, hdoes⟩
    · obtain ⟨ht, hes⟩ := ih hs (by simpa [deeds, hnone] using hd)
      exact ⟨ht, List.forall_mem_cons.2 ⟨hlate, hes⟩⟩
    · obtain ⟨hfirst, hrest⟩ : d.inserts id = false ∧ ∀ d ∈ deeds es, d.inserts id = false := by
        simpa [deeds, hsome] using hd
      obtain ⟨ht, hes⟩ := ih (hdoes.absent hs hfirst) hrest
      exact ⟨ht, List.forall_mem_cons.2 ⟨hlate, hes⟩⟩

/-! ## Replies -/

/-- What is acknowledged is what was handed in, with the times or the identifier that the store
gave it. -/
def Acknowledges : Exchange Call.signature → Prop
  | ⟨.insertRule rule, .ok r⟩ => r = rule.stamped r.createdAt r.createdAt
  | ⟨.updateRule rule, .ok r⟩ => r = rule.stamped r.createdAt r.updatedAt
  | ⟨.append entry, .ok e⟩ => e.toNewEntry = entry
  | _ => True

/-- What is read is what earlier deeds have left. -/
def Tells (ds : List Deed) : Exchange Call.signature → Prop
  | ⟨.findRule id, reply⟩ => reply = .ok (lastSaid id ds)
  | ⟨.listRules, reply⟩ => ∃ rules, reply = .ok rules ∧
      rules.map (fun r => (r.id, r.createdAt)) = standing Prod.fst Deed.insertion? ds
  | _ => True

def Refused : Exchange Call.signature → Prop
  | ⟨.insertRule _, .error _⟩ | ⟨.updateRule _, .error _⟩ | ⟨.deleteRule _, .error _⟩
  | ⟨.append _, .error _⟩ => True
  | _ => False

theorem acknowledges_of_answers {c : Call} {r : c.Reply} (h : s.Answers c r t) :
    Acknowledges ⟨c, r⟩ := by
  cases c with
  | insertRule rule =>
    obtain ⟨now, hkept⟩ := h
    unfold insert at hkept
    split at hkept <;> obtain ⟨rfl, -⟩ := Prod.mk.inj hkept
    · trivial
    · rfl
  | updateRule rule =>
    obtain ⟨now, hkept⟩ := h
    unfold update at hkept
    split at hkept <;> obtain ⟨rfl, -⟩ := Prod.mk.inj hkept
    · trivial
    · rfl
  | append entry =>
    obtain ⟨id, hkept⟩ := h
    unfold append at hkept
    split at hkept <;> obtain ⟨rfl, -⟩ := Prod.mk.inj hkept
    · rfl
    · trivial
  | _ => trivial

theorem Ledger.tells (hl : Ledger ds s) {c : Call} {r : c.Reply} (h : s.Answers c r t) :
    Tells ds ⟨c, r⟩ := by
  cases c with
  | findRule id =>
    obtain ⟨rfl, -⟩ := h
    exact congrArg Except.ok (hl.found id)
  | listRules =>
    obtain ⟨rfl, -⟩ := h
    exact ⟨s.rules, rfl, hl.listed⟩
  | _ => trivial

theorem deed?_of_refused {e : Exchange Call.signature} (h : Refused e) : deed? e = none := by
  unfold Refused at h
  split at h
  · rfl
  · rfl
  · rfl
  · rfl
  · cases h

theorem eq_of_refused {e : Exchange Call.signature} (he : Refused e) (h : party.Serves s [e] t) :
    t = s := by
  rcases Answers.cases_deed (Party.serves_one_iff.1 h) with ⟨-, rfl⟩ | ⟨d, hsome, -⟩
  · rfl
  · rw [deed?_of_refused he] at hsome
    cases hsome

/-- **What a store keeps.** A store that began with nothing is, after any calls in any order, what
its acknowledgements say. What it acknowledges is what it was handed, and what it lets read is what
earlier deeds have left. Behind a deletion, unless the rule is inserted again, nothing of the rule
is found, and every write for it is refused. A write that is refused leaves the store as it was. -/
theorem history_kept (h : party.Serves empty es t) :
    Ledger (deeds es) t ∧
    (∀ e ∈ es, Acknowledges e) ∧
    (∀ earlier e later, es = earlier ++ e :: later → Tells (deeds earlier) e) ∧
    (∀ id earlier later, es = earlier ++ ⟨.deleteRule id, .ok ()⟩ :: later →
      (∀ d ∈ deeds later, d.inserts id = false) →
      t.find? id = none ∧ (∀ e ∈ t.entries, e.ruleId ≠ id) ∧ ∀ e ∈ later, Late id e) ∧
    ∀ s' t' e, Refused e → party.Serves s' [e] t' → t' = s' := by
  have hledger : Ledger (deeds es) t := ledger_empty.serves h
  refine ⟨hledger, ?_, ?_, ?_, fun _ _ _ he hs => eq_of_refused he hs⟩
  · rintro ⟨c, r⟩ he
    obtain ⟨earlier, later, rfl⟩ := List.append_of_mem he
    obtain ⟨m, -, hlater⟩ := Party.serves_append.1 h
    cases hlater with
    | cons ha _ => exact acknowledges_of_answers ha
  · rintro earlier ⟨c, r⟩ later rfl
    obtain ⟨m, hearlier, hlater⟩ := Party.serves_append.1 h
    cases hlater with
    | cons ha _ => exact (ledger_empty.serves hearlier).tells ha
  · rintro id earlier later rfl hno
    obtain ⟨m, hearlier, hlater⟩ := Party.serves_append.1 h
    cases hlater with
    | @cons _ m' _ _ _ _ ha hlater =>
      have hgone : m'.contains id = false := by
        rcases Answers.cases_deed (c := .deleteRule id) (r := .ok ()) ha with
          ⟨hnone, -⟩ | ⟨d, hsome, hdoes⟩
        · cases hnone
        · cases hsome
          rw [contains_eq_isSome, hdoes.find?, Deed.says?, if_pos rfl]
          rfl
      obtain ⟨ht, hlate⟩ := late_answered hgone hlater hno
      refine ⟨?_, ?_, hlate⟩
      · simpa [contains_eq_isSome] using ht
      · rintro e he rfl
        rw [hledger.owned e he] at ht
        cases ht

/-! ## Writes that come too late -/

def numbered (n : Nat) : Rule where
  id := .ofNat n
  name := ⟨"Numbered", by decide⟩
  description := none
  conditions := .none
  action := .disconnect
  isActive := true
  createdAt := ⟨0⟩
  updatedAt := ⟨0⟩

def entryAbout (n : Nat) : Audit.NewEntry := ⟨.ofNat n, ⟨0⟩, .null, "disconnect", "Disconnected"⟩

/-- Two rules are inserted and have an entry each; the first is updated and deleted, and then
updated and given an entry again. -/
def lateWrites : List (Exchange Call.signature) :=
  [⟨.insertRule (numbered 1), .ok ((numbered 1).stamped ⟨1⟩ ⟨1⟩)⟩,
    ⟨.insertRule (numbered 2), .ok ((numbered 2).stamped ⟨2⟩ ⟨2⟩)⟩,
    ⟨.append (entryAbout 1), .ok { entryAbout 1 with entryId := .ofNat 11 }⟩,
    ⟨.append (entryAbout 2), .ok { entryAbout 2 with entryId := .ofNat 12 }⟩,
    ⟨.updateRule (numbered 1), .ok ((numbered 1).stamped ⟨1⟩ ⟨3⟩)⟩,
    ⟨.deleteRule (.ofNat 1), .ok ()⟩,
    ⟨.updateRule (numbered 1), .error (RuleId.ofNat 1).notStored⟩,
    ⟨.append (entryAbout 1), .error (RuleId.ofNat 1).notStored⟩]

def afterLateWrites : Store where
  rules := [(numbered 2).stamped ⟨2⟩ ⟨2⟩]
  entries := [{ entryAbout 2 with entryId := .ofNat 12 }]

theorem history_kept_lateWrites :
    party.Serves empty lateWrites afterLateWrites ∧
      Ledger (deeds lateWrites) afterLateWrites ∧ afterLateWrites.find? (.ofNat 1) = none := by
  have h : party.Serves empty lateWrites afterLateWrites :=
    .cons ⟨⟨1⟩, rfl⟩ (.cons ⟨⟨2⟩, rfl⟩ (.cons ⟨.ofNat 11, rfl⟩ (.cons ⟨.ofNat 12, rfl⟩
      (.cons ⟨⟨3⟩, rfl⟩ (.cons rfl (.cons ⟨⟨4⟩, rfl⟩ (.cons ⟨.ofNat 13, rfl⟩ (.nil _))))))))
  obtain ⟨hledger, -, -, hlate, -⟩ := history_kept h
  have hgone := hlate (.ofNat 1) (lateWrites.take 5) (lateWrites.drop 6) rfl
    (by simp [deeds, lateWrites, deed?])
  exact ⟨h, hledger, hgone.1⟩

end PeerRules.Store
