import Mathlib.Data.List.Perm.Subperm
import PeerRules.Proofs.Seeding

/-!
# Two seedings of one store

Two workers that start at the same time both look whether the store is empty, and then create the
rules of their file one by one. Nothing ties the look to the writes. If one of them looks after the
other has stored a rule, it leaves the store alone; if both look before anything is stored, both
apply the file, and since every rule gets an identifier of its own, nothing is in the way of the
second copy.

* `Together.listed_eq`: a listing gives what has been stored by then, by whomever.
* `Together.applied_once`, `Together.applied_twice`: the two ways it can go.
* `exists_together`: both can look before either stores a rule, whatever the file.
* `seeded_together`: when the store holds every rule of the file once.
-/
namespace PeerRules.Crew

open Plan

variable {α : Type} {xs ys : List (Exchange Call.signature)} {es : Trace}

/-! ## Calls of two members -/

theorem Merged.perm (h : Merged xs ys es) : (es.map Prod.snd).Perm (xs ++ ys) := by
  induction h with
  | nil => exact .nil
  | first _ ih => exact ih.cons _
  | second _ ih => exact (ih.cons _).trans List.perm_middle.symm

theorem Merged.mem_iff (h : Merged xs ys es) {e : Exchange Call.signature} :
    e ∈ es.map Prod.snd ↔ e ∈ xs ∨ e ∈ ys := by
  rw [h.perm.mem_iff, List.mem_append]

theorem Merged.filterMap_perm {β : Type} (h : Merged xs ys es)
    (f : Exchange Call.signature → Option β) :
    ((es.map Prod.snd).filterMap f).Perm (xs.filterMap f ++ ys.filterMap f) := by
  rw [← List.filterMap_append]
  exact h.perm.filterMap f

theorem Merged.sublist (h : Merged xs ys es) :
    xs.Sublist (es.map Prod.snd) ∧ ys.Sublist (es.map Prod.snd) := by
  induction h with
  | nil => exact ⟨.slnil, .slnil⟩
  | first _ ih => exact ⟨ih.1.cons_cons _, ih.2.cons _⟩
  | second _ ih => exact ⟨ih.1.cons _, ih.2.cons_cons _⟩

/-- What only the first member has stands in the order of its calls. -/
theorem Merged.filterMap_first {β : Type} (h : Merged xs ys es)
    {f : Exchange Call.signature → Option β} (hy : ys.filterMap f = []) :
    (es.map Prod.snd).filterMap f = xs.filterMap f := by
  have hlen := (h.filterMap_perm f).length_eq
  rw [hy, List.append_nil] at hlen
  exact ((h.sublist.1.filterMap f).eq_of_length hlen.symm).symm

/-- What only the second member has stands in the order of its calls. -/
theorem Merged.filterMap_second {β : Type} (h : Merged xs ys es)
    {f : Exchange Call.signature → Option β} (hx : xs.filterMap f = []) :
    (es.map Prod.snd).filterMap f = ys.filterMap f := by
  have hlen := (h.filterMap_perm f).length_eq
  rw [hx, List.nil_append] at hlen
  exact ((h.sublist.2.filterMap f).eq_of_length hlen.symm).symm

theorem merged_sequence (xs ys : List (Exchange Call.signature)) :
    Merged xs ys (xs.map (fun e => (0, e)) ++ ys.map fun e => (1, e)) := by
  induction xs with
  | nil =>
    induction ys with
    | nil => exact .nil
    | cons y ys ih => exact .second ih
  | cons x xs ih => exact .first ih

/-- Runs of two plans, put together in any order in which the party answers, are a run of the two
side by side. -/
theorem runs_of_merged {S : Type} {party : Party Call.signature S} {p q : RulesPlan α} {a b : α}
    {s t : S} (h : Merged xs ys es) (hp : p.Runs xs a) (hq : q.Runs ys b)
    (hs : party.Serves s (es.map Prod.snd) t) :
    Runs party ⟨s, [.ofPlan p, .ofPlan q]⟩ es ⟨t, [.done a, .done b]⟩ := by
  induction h generalizing p q s with
  | nil =>
    cases hp
    cases hq
    obtain rfl := Party.serves_nil_iff.1 hs
    exact .nil _
  | first _ ih =>
    cases hp with
    | call r hp =>
      cases hs with
      | cons ha hs => exact .turn (i := 0) rfl (.call _ _ r) ha (ih hp hq hs)
  | second _ ih =>
    cases hq with
    | call r hq =>
      cases hs with
      | cons ha hs => exact .turn (i := 1) rfl (.call _ _ r) ha (ih hp hq hs)

end PeerRules.Crew

namespace PeerRules.Worker.Seed

open Plan Rule Service Crew

variable {path : String} {file : Except String String} {store after : Store} {es : Trace}
  {a b : Except Fault Unit} {ss : List Submission} {rs l : List Rule}
  {xs ys : List (Exchange Call.signature)}

/-! ## Two seedings -/

/-- Two seedings of one store side by side: their calls, their answers and the store afterwards.
The file is what is read of it, and the identifiers that are drawn are new. -/
structure Together (path : String) (file : Except String String) (store : Store) (es : Trace)
    (a b : Except Fault Unit) (after : Store) : Prop where
  runs : Runs Store.party ⟨store, [.ofPlan (plan path), .ofPlan (plan path)]⟩ es
    ⟨after, [.done a, .done b]⟩
  reads : ∀ e ∈ es.map Prod.snd, Reads file e
  distinct : ((es.map Prod.snd).filterMap drawn?).Nodup
  unused : ∀ id ∈ (es.map Prod.snd).filterMap drawn?, store.contains id = false

/-- One of the two looks at the store when a rule has been stored. -/
def LooksLate (es : Trace) : Prop :=
  ∃ front i listed rest, es = front ++ (i, ⟨.listRules, listed⟩) :: rest ∧
    (front.map Prod.snd).filterMap stored? ≠ []

namespace Together

theorem courses (h : Together path file store es a b after) :
    ∃ xs ys, Merged xs ys es ∧ Calls path xs a ∧ Calls path ys b :=
  ⟨_, _, merged_callsOf h.runs.caller_lt, plan_runs_iff.1 (h.runs.own_plan (i := 0) rfl rfl),
    plan_runs_iff.1 (h.runs.own_plan (i := 1) rfl rfl)⟩

theorem isSeeding (h : Together path file store es a b after) :
    ∀ e ∈ es.map Prod.snd, IsSeeding e.call := by
  obtain ⟨xs, ys, hm, hx, hy⟩ := h.courses
  intro e he
  rcases hm.mem_iff.1 he with he | he
  · exact hx.isSeeding e he
  · exact hy.isSeeding e he

theorem serves (h : Together path file store es a b after) :
    Store.party.Serves store (es.map Prod.snd) after := h.runs.serves fun _ _ hd => hd

theorem after_eq (h : Together path file store es a b after) :
    after = ⟨store.rules ++ (es.map Prod.snd).filterMap stored?, store.entries⟩ :=
  serves_seeding h.serves h.isSeeding

theorem handedIn (h : Together path file store es a b after) :
    ((es.map Prod.snd).filterMap handedIn?).Subperm ((es.map Prod.snd).filterMap drawn?) := by
  obtain ⟨xs, ys, hm, hx, hy⟩ := h.courses
  have hdrawn := (hx.handedIn.append hy.handedIn).subperm
  exact (hm.filterMap_perm _).subperm.trans (hdrawn.trans (hm.filterMap_perm _).symm.subperm)

theorem stamps (h : Together path file store es a b after) : ∀ e ∈ es.map Prod.snd, Stamps e := by
  obtain ⟨ids, hperm, hsub⟩ := h.handedIn
  exact stamps_of_serves h.serves h.isSeeding (hperm.nodup_iff.1 (hsub.nodup h.distinct))
    fun id hid => h.unused id (h.handedIn.subset hid)

/-- What is listed is what has been stored by then. -/
theorem listed_eq (h : Together path file store es a b after) {front rest : Trace} {i : Nat}
    {listed : Except Fault (List Rule)} (hes : es = front ++ (i, ⟨.listRules, listed⟩) :: rest) :
    listed = .ok (store.rules ++ (front.map Prod.snd).filterMap stored?) := by
  have hserves := h.serves
  have hseeding := h.isSeeding
  rw [hes, List.map_append] at hserves hseeding
  obtain ⟨m, hfront, hrest⟩ := Party.serves_append.1 hserves
  obtain rfl := serves_seeding hfront (List.forall_mem_append.1 hseeding).1
  cases hrest with
  | cons hl _ => exact hl.1

theorem rules_eq (h : Together path file store es a b after) (hempty : store.rules = []) :
    after.rules = (es.map Prod.snd).filterMap stored? := by
  rw [h.after_eq, hempty, List.nil_append]

/-- One of the two looks late exactly when it is told of a rule. -/
theorem looksLate_iff (h : Together path file store es a b after) (hempty : store.rules = []) :
    LooksLate es ↔ ∃ rs, rs ≠ [] ∧ ⟨.listRules, .ok rs⟩ ∈ es.map Prod.snd := by
  constructor
  · rintro ⟨front, i, listed, rest, hes, hne⟩
    have hl := h.listed_eq hes
    rw [hempty, List.nil_append] at hl
    subst hl
    exact ⟨_, hne, by simp [hes]⟩
  · rintro ⟨rs, hne, hin⟩
    obtain ⟨⟨i, e⟩, he, rfl⟩ := List.mem_map.1 hin
    obtain ⟨front, rest, hes⟩ := List.append_of_mem he
    have hl := h.listed_eq hes
    rw [hempty, List.nil_append] at hl
    exact ⟨front, i, _, rest, hes, by rwa [← Except.ok.inj hl]⟩

theorem rules_ne_nil (h : Together path file store es a b after) (hl : LooksLate es) :
    after.rules ≠ [] := by
  obtain ⟨front, i, listed, rest, hes, hne⟩ := hl
  rw [h.after_eq, hes, List.map_append, List.filterMap_append]
  exact List.append_ne_nil_of_right_ne_nil _ (List.append_ne_nil_of_left_ne_nil hne _)

end Together

/-- What one of the two calls: it is told of some rules, or of none, reads the file, and stores
every rule that it makes. -/
structure Share (path : String) (file : Except String String)
    (xs : List (Exchange Call.signature)) (a : Except Fault Unit) : Prop where
  calls : Calls path xs a
  told : ∃ rs, ⟨.listRules, .ok rs⟩ ∈ xs
  reads : ∀ e ∈ xs, Reads file e
  stamps : ∀ e ∈ xs, Stamps e

theorem Share.applied (h : Share path file xs a) (hin : ⟨.listRules, .ok []⟩ ∈ xs) :
    FileSeeded path file a (xs.filterMap stored?) := h.calls.applied hin h.reads h.stamps

/-- If anything is stored, one that is told of a rule leaves everything to the other. -/
theorem Share.leaves (hx : Share path file xs a) (hy : Share path file ys b) (hne : rs ≠ [])
    (hlate : ⟨.listRules, .ok rs⟩ ∈ xs)
    (hsome : xs.filterMap stored? ++ ys.filterMap stored? ≠ []) :
    a = .ok () ∧ xs.filterMap stored? = [] ∧ FileSeeded path file b (ys.filterMap stored?) := by
  obtain ⟨hok, hnone⟩ := hx.calls.skips hne hlate
  refine ⟨hok, hnone, ?_⟩
  obtain ⟨told, htold⟩ := hy.told
  by_cases hnil : told = []
  · subst hnil
    exact hy.applied htold
  · rw [hnone, (hy.calls.skips hnil htold).2] at hsome
    exact absurd rfl hsome

namespace Together

theorem share {c : Except Fault Unit} (h : Together path file store es a b after)
    (hx : Calls path xs c) (hsub : ∀ e ∈ xs, e ∈ es.map Prod.snd) : Share path file xs c := by
  refine ⟨hx, ?_, fun e he => h.reads e (hsub e he), fun e he => h.stamps e (hsub e he)⟩
  obtain ⟨listed, rest, rfl⟩ := hx.lists
  obtain ⟨⟨i, e⟩, he, rfl⟩ := List.mem_map.1 (hsub _ List.mem_cons_self)
  obtain ⟨front, rest, hes⟩ := List.append_of_mem he
  obtain rfl := h.listed_eq hes
  exact ⟨_, List.mem_cons_self⟩

theorem shares (h : Together path file store es a b after) :
    ∃ xs ys, Merged xs ys es ∧ Share path file xs a ∧ Share path file ys b := by
  obtain ⟨xs, ys, hm, hx, hy⟩ := h.courses
  exact ⟨xs, ys, hm, h.share hx fun _ he => hm.mem_iff.2 (.inl he),
    h.share hy fun _ he => hm.mem_iff.2 (.inr he)⟩

/-- If one looks late, the other applies the file, and it alone. -/
theorem applied_once (h : Together path file store es a b after) (hempty : store.rules = [])
    (hl : LooksLate es) :
    a = .ok () ∧ FileSeeded path file b after.rules ∨
      b = .ok () ∧ FileSeeded path file a after.rules := by
  obtain ⟨xs, ys, hm, hx, hy⟩ := h.shares
  have hsome : xs.filterMap stored? ++ ys.filterMap stored? ≠ [] := by
    intro hnil
    have hperm := hm.filterMap_perm stored?
    rw [hnil, ← h.rules_eq hempty] at hperm
    exact h.rules_ne_nil hl (List.perm_nil.1 hperm)
  obtain ⟨rs, hne, hin⟩ := (h.looksLate_iff hempty).1 hl
  rw [h.rules_eq hempty]
  rcases hm.mem_iff.1 hin with hlate | hlate
  · obtain ⟨hok, hnone, hmade⟩ := hx.leaves hy hne hlate hsome
    rw [hm.filterMap_second hnone]
    exact .inl ⟨hok, hmade⟩
  · obtain ⟨hok, hnone, hmade⟩ := hy.leaves hx hne hlate fun hnil => hsome (by
      simpa [and_comm] using hnil)
    rw [hm.filterMap_first hnone]
    exact .inr ⟨hok, hmade⟩

/-- If both look at the empty store, both apply the file. -/
theorem applied_twice (h : Together path file store es a b after) (hempty : store.rules = [])
    (hl : ¬ LooksLate es) :
    ∃ rs rs', FileSeeded path file a rs ∧ FileSeeded path file b rs' ∧
      after.rules.Perm (rs ++ rs') := by
  obtain ⟨xs, ys, hm, hx, hy⟩ := h.shares
  have hnone {rs : List Rule} (hin : ⟨.listRules, .ok rs⟩ ∈ es.map Prod.snd) : rs = [] := by
    by_contra hne
    exact hl ((h.looksLate_iff hempty).2 ⟨rs, hne, hin⟩)
  obtain ⟨told, htold⟩ := hx.told
  obtain ⟨told', htold'⟩ := hy.told
  obtain rfl := hnone (hm.mem_iff.2 (.inl htold))
  obtain rfl := hnone (hm.mem_iff.2 (.inr htold'))
  rw [h.rules_eq hempty]
  exact ⟨_, _, hx.applied htold, hy.applied htold', hm.filterMap_perm stored?⟩

end Together

/-! ## Every rule once -/

/-- The rules are those that the submissions ask for, one for each, in some order. -/
def HoldsOnce (ss : List Submission) (rules : List Rule) : Prop :=
  ∃ rs, rules.Perm rs ∧ List.Forall₂ Submission.Fulfils ss rs

theorem HoldsOnce.length_eq {rules : List Rule} (h : HoldsOnce ss rules) :
    rules.length = ss.length := by
  obtain ⟨rs, hperm, hmade⟩ := h
  rw [hperm.length_eq, hmade.length_eq]

theorem HoldsOnce.exists_rule {rules : List Rule} (h : HoldsOnce ss rules) :
    ∀ s ∈ ss, ∃ r ∈ rules, s.Fulfils r := by
  obtain ⟨rs, hperm, hmade⟩ := h
  have hmem : ∀ s ∈ ss, ∃ r ∈ rs, s.Fulfils r := by
    clear hperm
    induction hmade with
    | nil => simp
    | cons hr _ ih =>
      refine List.forall_mem_cons.2 ⟨⟨_, List.mem_cons_self, hr⟩, fun s hs => ?_⟩
      obtain ⟨r, hin, hmade⟩ := ih s hs
      exact ⟨r, List.mem_cons_of_mem _ hin, hmade⟩
  intro s hs
  obtain ⟨r, hin, hmade⟩ := hmem s hs
  exact ⟨r, hperm.mem_iff.2 hin, hmade⟩

theorem isConditions_stored_iff (v : Json.Value) :
    Submission.IsConditions (Submission.storedConditions v) ↔ Submission.IsConditions v := by
  cases v <;> simp [Submission.storedConditions, Submission.IsConditions]

/-- What asks for a rule that can be created can be created itself. -/
theorem admissible_of_fulfils {s t : Submission} {r : Rule} (hs : s.Fulfils r) (ht : t.Fulfils r)
    (h : t.Admissible) : s.Admissible where
  name := by
    rw [Submission.says_iff, ← hs.name]
    exact r.name.notBlank
  conditions := by
    rw [← isConditions_stored_iff, ← hs.conditions, ht.conditions, isConditions_stored_iff]
    exact h.conditions
  action := ⟨r.action, hs.action⟩

theorem Seeded.exists_admissible {result : Except Fault Unit} (h : Seeded ss result rs) :
    ∀ r ∈ rs, ∃ s : Submission, s.Admissible ∧ s.Fulfils r := by
  induction h with
  | whole => simp
  | refused _ _ => simp
  | @stored s _ _ _ _ hs hr _ ih => exact List.forall_mem_cons.2 ⟨⟨s, hs, hr⟩, ih⟩

theorem FileSeeded.exists_admissible {result : Except Fault Unit}
    (h : FileSeeded path file result rs) :
    ∀ r ∈ rs, ∃ s : Submission, s.Admissible ∧ s.Fulfils r := by
  cases h with
  | unread _ => simp
  | read _ hs => exact hs.exists_admissible

/-- A file of which every entry is admissible is applied as a whole. -/
theorem FileSeeded.all {result : Except Fault Unit} (h : FileSeeded path file result rs)
    (hfile : submissions path file = .ok ss) (hall : ∀ s ∈ ss, s.Admissible) :
    List.Forall₂ Submission.Fulfils ss rs := by
  obtain rfl := h.ok_iff.2 ⟨ss, hfile, hall⟩
  obtain ⟨_, hss, hmade⟩ := h.whole
  obtain rfl := Except.ok.inj (hfile.symm.trans hss)
  exact hmade

theorem Together.exists_admissible (h : Together path file store es a b after)
    (hempty : store.rules = []) :
    ∀ r ∈ after.rules, ∃ s : Submission, s.Admissible ∧ s.Fulfils r := by
  by_cases hl : LooksLate es
  · rcases h.applied_once hempty hl with ⟨-, hmade⟩ | ⟨-, hmade⟩
    · exact hmade.exists_admissible
    · exact hmade.exists_admissible
  · obtain ⟨rs, rs', ha, hb, hperm⟩ := h.applied_twice hempty hl
    intro r hr
    rcases List.mem_append.1 (hperm.mem_iff.1 hr) with hr | hr
    · exact ha.exists_admissible r hr
    · exact hb.exists_admissible r hr

theorem Together.holdsOnce_iff (h : Together path file store es a b after)
    (hempty : store.rules = []) (hfile : submissions path file = .ok ss)
    (hall : ∀ s ∈ ss, s.Admissible) : HoldsOnce ss after.rules ↔ ss = [] ∨ LooksLate es := by
  by_cases hl : LooksLate es
  · refine iff_of_true ?_ (.inr hl)
    rcases h.applied_once hempty hl with ⟨-, hmade⟩ | ⟨-, hmade⟩
    · exact ⟨_, .refl _, hmade.all hfile hall⟩
    · exact ⟨_, .refl _, hmade.all hfile hall⟩
  · obtain ⟨rs, rs', ha, hb, hperm⟩ := h.applied_twice hempty hl
    have hrs := ha.all hfile hall
    have hrs' := hb.all hfile hall
    simp only [hl, or_false]
    constructor
    · intro honce
      -- Two copies of the file are one copy only if the file is empty.
      have hlen := honce.length_eq
      rw [hperm.length_eq, List.length_append, ← hrs.length_eq, ← hrs'.length_eq] at hlen
      exact List.length_eq_zero_iff.1 (by omega)
    · rintro rfl
      cases hrs
      cases hrs'
      exact ⟨[], hperm, .nil⟩

/-! ## Both look first -/

/-- Both look at the empty store; then one applies the file, and then the other. -/
def lookedFirst (path : String) (file : Except String String)
    (xs ys : List (Exchange Call.signature)) : Trace :=
  (0, ⟨.listRules, .ok []⟩) :: (1, ⟨.listRules, .ok []⟩) ::
    ((⟨.readText path, file⟩ :: xs).map (fun e => (0, e)) ++
      (⟨.readText path, file⟩ :: ys).map fun e => (1, e))

theorem merged_lookedFirst (path : String) (file : Except String String)
    (xs ys : List (Exchange Call.signature)) :
    Merged (⟨.listRules, .ok []⟩ :: ⟨.readText path, file⟩ :: xs)
      (⟨.listRules, .ok []⟩ :: ⟨.readText path, file⟩ :: ys) (lookedFirst path file xs ys) :=
  .first (.second (merged_sequence _ _))

theorem calls_lookedFirst (path : String) (file : Except String String)
    (xs ys : List (Exchange Call.signature)) : (lookedFirst path file xs ys).map Prod.snd =
      ⟨.listRules, .ok []⟩ :: ⟨.listRules, .ok []⟩ ::
        (⟨.readText path, file⟩ :: xs ++ ⟨.readText path, file⟩ :: ys) := by
  simp [lookedFirst, Function.comp_def]

theorem drawn_lookedFirst (path : String) (file : Except String String)
    (xs ys : List (Exchange Call.signature)) :
    ((lookedFirst path file xs ys).map Prod.snd).filterMap drawn? =
      xs.filterMap drawn? ++ ys.filterMap drawn? := by
  rw [calls_lookedFirst]
  exact List.filterMap_append

theorem reads_lookedFirst (hx : ∀ e ∈ xs, IsCreating e.call) (hy : ∀ e ∈ ys, IsCreating e.call) :
    ∀ e ∈ (lookedFirst path file xs ys).map Prod.snd, Reads file e := by
  have happlies {zs : List (Exchange Call.signature)} (hz : ∀ e ∈ zs, IsCreating e.call) :
      ∀ e ∈ ⟨.readText path, file⟩ :: zs, Reads file e :=
    List.forall_mem_cons.2 ⟨rfl, fun e he => (hz e he).reads⟩
  rw [calls_lookedFirst]
  exact List.forall_mem_cons.2 ⟨trivial, List.forall_mem_cons.2 ⟨trivial,
    List.forall_mem_append.2 ⟨happlies hx, happlies hy⟩⟩⟩

theorem serves_lookedFirst {mid : Store} (hempty : store.rules = [])
    (hx : Store.party.Serves store xs mid) (hy : Store.party.Serves mid ys after) :
    Store.party.Serves store ((lookedFirst path file xs ys).map Prod.snd) after := by
  have hlist := answers_listRules hempty
  rw [calls_lookedFirst]
  exact .cons hlist (.cons hlist (Party.serves_append.2 ⟨mid, .cons rfl hx, .cons rfl hy⟩))

/-- Both can look before either stores a rule. -/
theorem exists_together (path : String) (file : Except String String) (hempty : store.rules = [])
    {ids ids' : List RuleId} (hids : (ids ++ ids').Nodup)
    (hlen : (entries path file).length ≤ ids.length)
    (hlen' : (entries path file).length ≤ ids'.length) :
    ∃ es a b after, Together path file store es a b after ∧ ¬ LooksLate es := by
  have hfree (id : RuleId) : store.contains id = false := by simp [Store.contains, hempty]
  obtain ⟨hown, hown', hne⟩ := List.nodup_append.1 hids
  obtain ⟨xs, a, mid, hx, hcreating, hs, hd, hmid⟩ :=
    exists_applied path file store hown hlen fun id _ => hfree id
  obtain ⟨ys, b, after, hy, hcreating', hs', hd', -⟩ :=
    exists_applied path file mid hown' hlen' fun id hid =>
      hmid id (fun hin => hne id hin id hid rfl) (hfree id)
  have hm := merged_lookedFirst path file xs ys
  have hdistinct := (hd.append hd').nodup hids
  rw [← drawn_lookedFirst path file] at hdistinct
  have h : Together path file store (lookedFirst path file xs ys) a b after :=
    ⟨runs_of_merged hm (plan_runs_iff.2 hx) (plan_runs_iff.2 hy) (serves_lookedFirst hempty hs hs'),
      reads_lookedFirst hcreating hcreating', hdistinct, fun id _ => hfree id⟩
  refine ⟨_, a, b, after, h, fun hl => ?_⟩
  obtain ⟨rs, hne, hin⟩ := (h.looksLate_iff hempty).1 hl
  rcases hm.mem_iff.1 hin with hin | hin
  · exact hne (eq_nil_of_listed hcreating hin)
  · exact hne (eq_nil_of_listed hcreating' hin)

/-! ## When every rule is there once -/

/-- **Two seedings of an empty store.** Whatever the file, both can look at the store before either
stores a rule. If one of them looks later than that, it succeeds and leaves the store to the other,
which applies the file alone. If not, both apply the file. So the store holds every rule of the file
once exactly when every entry is admissible and, if there are entries, one of the two looks at the
store when a rule has been stored. -/
theorem seeded_together (path : String) (file : Except String String) {store : Store}
    (hempty : store.rules = []) :
    (∀ ids ids' : List RuleId, (ids ++ ids').Nodup →
      (entries path file).length ≤ ids.length → (entries path file).length ≤ ids'.length →
      ∃ es a b after, Together path file store es a b after ∧ ¬ LooksLate es) ∧
    ∀ es a b after, Together path file store es a b after →
      (LooksLate es → a = .ok () ∧ FileSeeded path file b after.rules ∨
        b = .ok () ∧ FileSeeded path file a after.rules) ∧
      (¬ LooksLate es → ∃ rs rs', FileSeeded path file a rs ∧ FileSeeded path file b rs' ∧
        after.rules.Perm (rs ++ rs')) ∧
      ∀ ss, submissions path file = .ok ss →
        (HoldsOnce ss after.rules ↔
          (∀ s ∈ ss, s.Admissible) ∧ (ss = [] ∨ LooksLate es)) := by
  refine ⟨fun ids ids' hids hlen hlen' => exists_together path file hempty hids hlen hlen', ?_⟩
  intro es a b after h
  refine ⟨h.applied_once hempty, h.applied_twice hempty, fun ss hfile => ?_⟩
  constructor
  · intro honce
    have hall : ∀ s ∈ ss, s.Admissible := by
      intro s hs
      obtain ⟨r, hr, hmade⟩ := honce.exists_rule s hs
      obtain ⟨t, ht, hmade'⟩ := h.exists_admissible hempty r hr
      exact admissible_of_fulfils hmade hmade' ht
    exact ⟨hall, (h.holdsOnce_iff hempty hfile hall).1 honce⟩
  · rintro ⟨hall, hl⟩
    exact (h.holdsOnce_iff hempty hfile hall).2 hl

def onlyEveryone : String :=
  "[\x7b\"name\": \"Everyone\", \"actions\": \x7b\"action\": \"disconnect\"\x7d\x7d]"

theorem submissions_onlyEveryone :
    ∃ s, submissions "rules.json" (.ok onlyEveryone) = .ok [s] ∧ s.Admissible := by
  have h : (submissions "rules.json" (.ok onlyEveryone)).toOption.map
      (fun ss => ss.map fun s => (s.rule (.ofNat 0) ⟨0⟩).toOption.isSome) = some [true] := by
    decide +kernel
  obtain ⟨_, hfile, _ | ⟨hs, _ | _⟩⟩ := exists_verdicts h
  exact ⟨_, hfile, by simpa using hs⟩

theorem seeded_together_onlyEveryone :
    Store.empty.rules = [] ∧ ∃ es a b after ss,
      Together "rules.json" (.ok onlyEveryone) .empty es a b after ∧
        submissions "rules.json" (.ok onlyEveryone) = .ok ss ∧ ¬ HoldsOnce ss after.rules := by
  have hempty : Store.empty.rules = [] := rfl
  obtain ⟨s, hfile, -⟩ := submissions_onlyEveryone
  obtain ⟨hexists, hall⟩ := seeded_together "rules.json" (.ok onlyEveryone) hempty
  obtain ⟨es, a, b, after, h, hl⟩ := hexists [.ofNat 1] [.ofNat 2] (by decide)
    (by simp [entries, hfile, Except.toOption]) (by simp [entries, hfile, Except.toOption])
  obtain ⟨-, -, honce⟩ := hall es a b after h
  refine ⟨hempty, es, a, b, after, [s], h, hfile, fun hholds => ?_⟩
  rcases ((honce [s] hfile).1 hholds).2 with hnil | hlate
  · cases hnil
  · exact hl hlate

/-- The one rule of a file can be stored twice, although both seedings succeed. -/
theorem stored_twice :
    ∃ es after s, Together "rules.json" (.ok onlyEveryone) .empty es (.ok ()) (.ok ()) after ∧
      submissions "rules.json" (.ok onlyEveryone) = .ok [s] ∧ s.Admissible ∧
      (∀ r ∈ after.rules, s.Fulfils r) ∧ after.rules.length = 2 ∧ ¬ HoldsOnce [s] after.rules := by
  obtain ⟨s, hfile, hs⟩ := submissions_onlyEveryone
  have hall : ∀ x ∈ [s], x.Admissible := List.forall_mem_singleton.2 hs
  have hids : ([.ofNat 1] ++ [.ofNat 2] : List RuleId).Nodup := by decide
  have hlen : (entries "rules.json" (.ok onlyEveryone)).length ≤ 1 := by
    simp [entries, hfile, Except.toOption]
  have hempty : Store.empty.rules = [] := rfl
  obtain ⟨es, a, b, after, h, hl⟩ := exists_together "rules.json" _ hempty hids hlen hlen
  obtain ⟨rs, rs', ha, hb, hperm⟩ := h.applied_twice hempty hl
  obtain rfl := ha.ok_iff.2 ⟨_, hfile, hall⟩
  obtain rfl := hb.ok_iff.2 ⟨_, hfile, hall⟩
  obtain _ | ⟨hr, _ | _⟩ := ha.all hfile hall
  obtain _ | ⟨hr', _ | _⟩ := hb.all hfile hall
  refine ⟨es, after, s, h, hfile, hs, fun x hx => ?_, hperm.length_eq, fun honce => ?_⟩
  · rcases List.mem_pair.1 (hperm.mem_iff.1 hx) with rfl | rfl
    · exact hr
    · exact hr'
  · have htwo := hperm.length_eq
    rw [honce.length_eq] at htwo
    cases htwo

end PeerRules.Worker.Seed
