import Mathlib.Data.List.Forall2
import PeerRules.Proofs.Acceptance
import PeerRules.Worker.Seed

/-!
# What seeding leaves in the store

A seed file is applied entry by entry. An entry that is refused ends the seeding with its fault, but
the entries in front of it stay, and from then on the store is not empty any more, so that no later
start reads a file again. Every entry gets an identifier of its own; that these differ is assumed.

* `serves_seeding`: the store after the calls of a seeding, whoever makes them.
* `stamps_of_serves`: identifiers that differ are never in the way of each other.
* `FileSeeded`: what a file makes of an empty store.
* `seeded_up_to_refusal`: what a seeding answers, and what it leaves in the store.
-/
namespace PeerRules.Worker.Seed

open Plan Rule Service

/-! ## What a file is to make of an empty store -/

/-- Submissions created in order, up to the first that is refused: what that answers, and the rules
that are made. -/
inductive Seeded : List Submission → Except Fault Unit → List Rule → Prop where
  | whole : Seeded [] (.ok ()) []
  | refused {s : Submission} {rest : List Submission} {f : Fault} (hs : ¬ s.Admissible)
      (hf : f.kind = .validation) : Seeded (s :: rest) (.error f) []
  | stored {s : Submission} {rest : List Submission} {r : Rule} {result : Except Fault Unit}
      {rs : List Rule} (hs : s.Admissible) (hr : s.Fulfils r) (h : Seeded rest result rs) :
      Seeded (s :: rest) result (r :: rs)

/-- A file applied to an empty store: what that answers, and the rules that are made. -/
inductive FileSeeded (path : String) (file : Except String String) :
    Except Fault Unit → List Rule → Prop where
  | unread {f : Fault} (h : submissions path file = .error f) : FileSeeded path file (.error f) []
  | read {ss : List Submission} {result : Except Fault Unit} {rs : List Rule}
      (h : submissions path file = .ok ss) (hs : Seeded ss result rs) :
      FileSeeded path file result rs

def entries (path : String) (file : Except String String) : List Submission :=
  (submissions path file).toOption.getD []

variable {path : String} {file : Except String String} {ss : List Submission}
  {result : Except Fault Unit} {rs : List Rule} {f : Fault} {store after : Store}
  {es : List (Exchange Call.signature)} {id : RuleId} {s : Submission}
  {created : Except Fault Rule}

theorem Seeded.ok_iff (h : Seeded ss result rs) : result = .ok () ↔ ∀ s ∈ ss, s.Admissible := by
  induction h with
  | whole => simp
  | refused hs _ => simp [hs]
  | stored hs _ _ ih => simp [hs, ih]

/-- The rules are those of the entries in front of the first that is refused. -/
theorem Seeded.parts (h : Seeded ss result rs) :
    ∃ front, List.Forall₂ Submission.Fulfils front rs ∧ (∀ s ∈ front, s.Admissible) ∧
      (result = .ok () ∧ ss = front ∨
        ∃ f s rest, result = .error f ∧ f.kind = .validation ∧ ss = front ++ s :: rest ∧
          ¬ s.Admissible) := by
  induction h with
  | whole => exact ⟨[], .nil, by simp, .inl ⟨rfl, rfl⟩⟩
  | @refused s rest f hs hf => exact ⟨[], .nil, by simp, .inr ⟨f, s, rest, rfl, hf, rfl, hs⟩⟩
  | @stored s rest r result rs hs hr _ ih =>
    obtain ⟨front, hmade, hall, hend⟩ := ih
    refine ⟨s :: front, .cons hr hmade, List.forall_mem_cons.2 ⟨hs, hall⟩, ?_⟩
    rcases hend with ⟨hok, rfl⟩ | ⟨f, x, tail, hf, hkind, rfl, hx⟩
    · exact .inl ⟨hok, rfl⟩
    · exact .inr ⟨f, x, tail, hf, hkind, rfl, hx⟩

theorem submissions_failsAsInvalid (path : String) (file : Except String String) :
    Submission.FailsAsInvalid (submissions path file) := by
  intro f hf
  unfold submissions at hf
  split at hf
  · cases hf
    rfl
  · next text =>
    cases hd : Submission.decodeList text with
    | ok ss =>
      rw [hd] at hf
      cases hf
    | error r =>
      rw [hd] at hf
      cases hf
      rfl

/-! ## The calls of a seeding -/

/-- What creating submissions in order calls, and what it answers. -/
inductive Creations :
    List Submission → List (Exchange Call.signature) → Except Fault Unit → Prop where
  | nil : Creations [] [] (.ok ())
  | refused {s : Submission} {rest : List Submission} {xs : List (Exchange Call.signature)}
      {f : Fault} (h : Course s xs (.error f)) : Creations (s :: rest) xs (.error f)
  | stored {s : Submission} {rest : List Submission} {xs es : List (Exchange Call.signature)}
      {r : Rule} {result : Except Fault Unit} (h : Course s xs (.ok r))
      (ht : Creations rest es result) :
      Creations (s :: rest) (xs ++ ⟨.log (.ruleSeeded r.id r.name.text), ()⟩ :: es) result

theorem create_runs (h : Course s es created) : (Service.create s).Runs es created := by
  cases h with
  | unread hd =>
    unfold Service.create
    rw [hd]
    exact .done _
  | refused now id hd hr =>
    obtain ⟨d, hd⟩ := hd
    rw [create_eq hd]
    refine .call _ (.call _ ?_)
    rw [hr]
    exact .done _
  | handedIn now id hr =>
    obtain ⟨d, hd⟩ : ∃ d, s.draft = .ok d := by
      obtain ⟨c, a, hc, -, ha, -, -, -, -⟩ := Submission.rule_eq_ok_iff.1 hr
      exact ⟨_, Submission.draft_eq_ok_iff.2 ⟨c, a, hc, ha, rfl⟩⟩
    rw [create_eq hd]
    refine .call _ (.call _ ?_)
    rw [hr]
    refine .call _ ?_
    exact afterInsert_runs_iff.2 ⟨rfl, rfl⟩

theorem create_runs_iff : (create ss).Runs es result ↔ Creations ss es result := by
  constructor
  · intro h
    induction ss generalizing es with
    | nil =>
      obtain ⟨rfl, rfl⟩ := runs_done_iff.1 h
      exact .nil
    | cons s rest ih =>
      obtain ⟨xs, ys, created, rfl, hs, hrest⟩ := runs_bind_iff.1 h
      cases created with
      | error f =>
        obtain ⟨rfl, rfl⟩ := runs_done_iff.1 hrest
        rw [List.append_nil]
        exact .refused (create_course hs)
      | ok r =>
        obtain ⟨⟨⟩, es, rfl, hes⟩ := runs_call_iff.1 hrest
        exact .stored (create_course hs) (ih hes)
  · intro h
    induction h with
    | nil => exact .done _
    | @refused s rest xs f h =>
      exact runs_bind_iff.2 ⟨xs, [], .error f, (List.append_nil xs).symm, create_runs h, .done _⟩
    | stored h _ ih =>
      refine runs_bind_iff.2 ⟨_, _, _, rfl, create_runs h, runs_call_iff.2 ⟨(), _, rfl, ?_⟩⟩
      exact ih

/-- What a seeding calls, and what it answers. -/
inductive Calls (path : String) : List (Exchange Call.signature) → Except Fault Unit → Prop where
  | unlisted (f : Fault) : Calls path [⟨.listRules, .error f⟩] (.error f)
  | skipped (r : Rule) (rs : List Rule) :
      Calls path [⟨.listRules, .ok (r :: rs)⟩, ⟨.log (.seedSkipped path), ()⟩] (.ok ())
  | unread {file : Except String String} {f : Fault} (h : submissions path file = .error f) :
      Calls path [⟨.listRules, .ok []⟩, ⟨.readText path, file⟩] (.error f)
  | read {file : Except String String} {ss : List Submission}
      {es : List (Exchange Call.signature)} {result : Except Fault Unit}
      (h : submissions path file = .ok ss) (hc : Creations ss es result) :
      Calls path (⟨.listRules, .ok []⟩ :: ⟨.readText path, file⟩ :: es) result

/-- What is left of a seeding when its file has been read. -/
def afterRead : Except Fault (List Submission) → RulesPlan (Except Fault Unit)
  | .error f => .done (.error f)
  | .ok ss => create ss

/-- What is left of a seeding when the stored rules have been listed. -/
def afterList (path : String) : Except Fault (List Rule) → RulesPlan (Except Fault Unit)
  | .error f => .done (.error f)
  | .ok (_ :: _) => .call (.log (.seedSkipped path)) fun _ => .done (.ok ())
  | .ok [] => .call (.readText path) fun file => afterRead (submissions path file)

theorem plan_eq (path : String) : plan path = .call .listRules (afterList path) := by
  refine congrArg (Plan.call (P := Call.signature) Call.listRules) (funext fun listed => ?_)
  match listed with
  | .error f => rfl
  | .ok (r :: rs) => rfl
  | .ok [] =>
    refine congrArg (Plan.call (P := Call.signature) (Call.readText path)) (funext fun file => ?_)
    refine (done_bind (P := Call.signature) file _).trans ?_
    cases submissions path file <;> rfl

theorem plan_runs_iff : (plan path).Runs es result ↔ Calls path es result := by
  rw [plan_eq]
  constructor
  · intro h
    obtain ⟨listed, rest, rfl, hrest⟩ := runs_call_iff.1 h
    match listed with
    | .error f =>
      obtain ⟨rfl, rfl⟩ := runs_done_iff.1 hrest
      exact .unlisted f
    | .ok (r :: rs) =>
      obtain ⟨⟨⟩, tail, rfl, htail⟩ := runs_call_iff.1 hrest
      obtain ⟨rfl, rfl⟩ := runs_done_iff.1 htail
      exact .skipped r rs
    | .ok [] =>
      obtain ⟨file, tail, rfl, htail⟩ := runs_call_iff.1 hrest
      cases hf : submissions path file with
      | error f =>
        rw [hf] at htail
        obtain ⟨rfl, rfl⟩ := runs_done_iff.1 htail
        exact .unread hf
      | ok ss =>
        rw [hf] at htail
        exact .read hf (create_runs_iff.1 htail)
  · intro h
    cases h with
    | unlisted f => exact .call _ (.done _)
    | skipped r rs => exact .call _ (.call _ (.done _))
    | unread hf =>
      refine .call _ (.call _ ?_)
      rw [hf]
      exact .done _
    | read hf hc =>
      refine .call _ (.call _ ?_)
      rw [hf]
      exact create_runs_iff.2 hc

def IsCreating : Call → Prop
  | .now | .freshId | .insertRule _ | .log _ => True
  | _ => False

def IsSeeding : Call → Prop
  | .listRules | .readText _ => True
  | c => IsCreating c

def drawn? : Exchange Call.signature → Option RuleId
  | ⟨.freshId, id⟩ => some id
  | _ => none

def handedIn? : Exchange Call.signature → Option RuleId
  | ⟨.insertRule rule, _⟩ => some rule.id
  | _ => none

def stored? : Exchange Call.signature → Option Rule
  | ⟨.insertRule _, .ok stored⟩ => some stored
  | _ => none

/-- If a file is read, then with this outcome. -/
def Reads (file : Except String String) : Exchange Call.signature → Prop
  | ⟨.readText _, reply⟩ => reply = file
  | _ => True

/-- If a rule is handed in, it is stored with the times of its storing. -/
def Stamps : Exchange Call.signature → Prop
  | ⟨.insertRule rule, reply⟩ => ∃ stamp, reply = .ok (rule.stamped stamp stamp)
  | _ => True

theorem IsCreating.isSeeding {c : Call} (h : IsCreating c) : IsSeeding c := by
  cases c <;> first | exact h | trivial

theorem IsCreating.reads {c : Call} {r : c.Reply} (h : IsCreating c) : Reads file ⟨c, r⟩ := by
  cases c <;> trivial

theorem course_isCreating (h : Course s es created) :
    ∀ e ∈ es, IsCreating e.call := by
  cases h with
  | unread _ => simp
  | refused now id _ _ => simp [IsCreating]
  | handedIn now id _ => cases created <;> simp [IsCreating, announcing]

theorem Creations.isCreating (h : Creations ss es result) : ∀ e ∈ es, IsCreating e.call := by
  induction h with
  | nil => simp
  | refused h => exact course_isCreating h
  | stored h _ ih =>
    exact List.forall_mem_append.2
      ⟨course_isCreating h, List.forall_mem_cons.2 ⟨trivial, ih⟩⟩

theorem Calls.isSeeding (h : Calls path es result) : ∀ e ∈ es, IsSeeding e.call := by
  cases h with
  | unlisted f => simp [IsSeeding]
  | skipped r rs => simp [IsSeeding, IsCreating]
  | unread h => simp [IsSeeding]
  | read h hc =>
    exact List.forall_mem_cons.2 ⟨trivial, List.forall_mem_cons.2
      ⟨trivial, fun e he => (hc.isCreating e he).isSeeding⟩⟩

/-- What is handed in has been drawn before. -/
theorem course_handedIn (h : Course s es created) :
    (es.filterMap handedIn?).Sublist (es.filterMap drawn?) := by
  cases h with
  | unread _ => exact .slnil
  | refused now id _ _ => exact List.nil_sublist _
  | @handedIn r now id hr =>
    obtain rfl := (Submission.fulfils_of_rule hr).1
    cases created <;> exact List.Sublist.refl [r.id]

theorem Creations.handedIn (h : Creations ss es result) :
    (es.filterMap handedIn?).Sublist (es.filterMap drawn?) := by
  induction h with
  | nil => exact .slnil
  | refused h => exact course_handedIn h
  | stored h _ ih =>
    rw [List.filterMap_append, List.filterMap_append]
    exact (course_handedIn h).append ih

theorem Calls.handedIn (h : Calls path es result) :
    (es.filterMap handedIn?).Sublist (es.filterMap drawn?) := by
  cases h with
  | unlisted f => exact .slnil
  | skipped r rs => exact .slnil
  | unread h => exact .slnil
  | read h hc => exact hc.handedIn

/-! ## The store that answers -/

/-- A call of a seeding adds the rule that is stored, if one is, and nothing else. -/
theorem answers_seeding {s t : Store} {c : Call} {r : c.Reply} (h : Store.party.Answers s c r t)
    (hc : IsSeeding c) :
    t = ⟨s.rules ++ (stored? ⟨c, r⟩).toList, s.entries⟩ := by
  cases c with
  | insertRule rule =>
    obtain ⟨now, hkept⟩ := h
    unfold Store.insert at hkept
    split at hkept
    · obtain ⟨rfl, rfl⟩ := Prod.mk.inj hkept
      simp [stored?]
    · obtain ⟨rfl, rfl⟩ := Prod.mk.inj hkept
      rfl
  | listRules =>
    obtain ⟨-, rfl⟩ := h
    simp [stored?]
  | readText | now | freshId | log =>
    obtain rfl := h
    simp [stored?]
  | _ => cases hc

/-- The rules that were stored stand behind the others, in the order of the calls. -/
theorem serves_seeding {s t : Store} (h : Store.party.Serves s es t)
    (hc : ∀ e ∈ es, IsSeeding e.call) :
    t = ⟨s.rules ++ es.filterMap stored?, s.entries⟩ := by
  induction h with
  | nil s => simp
  | @cons s m t c r es ha _ ih =>
    obtain ⟨hfirst, hrest⟩ := List.forall_mem_cons.1 hc
    obtain rfl := answers_seeding ha hfirst
    rw [ih hrest]
    cases hs : stored? ⟨c, r⟩ <;> simp [hs]

/-- Rules with identifiers that nothing has yet are all stored. -/
theorem stamps_of_serves {s t : Store} (h : Store.party.Serves s es t)
    (hc : ∀ e ∈ es, IsSeeding e.call) (hnew : (es.filterMap handedIn?).Nodup)
    (hfree : ∀ id ∈ es.filterMap handedIn?, s.contains id = false) : ∀ e ∈ es, Stamps e := by
  induction h with
  | nil s => simp
  | @cons s m t c r es ha _ ih =>
    obtain ⟨hfirst, hrest⟩ := List.forall_mem_cons.1 hc
    obtain rfl := answers_seeding ha hfirst
    cases c with
    | insertRule rule =>
      obtain ⟨hother, hothers⟩ := List.nodup_cons.1 hnew
      obtain ⟨hown, hunused⟩ := List.forall_mem_cons.1 hfree
      obtain ⟨stamp, hkept⟩ := ha
      rw [Store.insert, hown] at hkept
      obtain ⟨rfl, -⟩ := Prod.mk.inj hkept
      refine List.forall_mem_cons.2 ⟨⟨stamp, rfl⟩, ih hrest hothers fun id hid => ?_⟩
      -- What is handed in later differs from the rule that has just been stored.
      rw [Store.contains_eq_false_iff]
      intro x hx
      rcases List.mem_append.1 hx with hx | hx
      · exact (Store.contains_eq_false_iff s id).1 (hunused id hid) x hx
      · obtain rfl : x = rule.stamped stamp stamp := List.mem_singleton.1 hx
        rintro rfl
        exact hother hid
    | listRules | readText | now | freshId | log =>
      refine List.forall_mem_cons.2 ⟨trivial, ih hrest hnew fun id hid => ?_⟩
      simpa [stored?, Store.contains] using hfree id hid
    | _ => cases hfirst

/-! ## What the calls come to -/

theorem course_stored {r : Rule} (h : Course s es (.ok r))
    (hs : ∀ e ∈ es, Stamps e) :
    s.Admissible ∧ s.Fulfils r ∧ es.filterMap stored? = [r] := by
  cases h with
  | @handedIn made now id hr =>
    have hinsert : Stamps ⟨.insertRule made, .ok r⟩ := hs _ (by simp)
    obtain ⟨stamp, hreply⟩ := hinsert
    obtain rfl : r = made.stamped stamp stamp := Except.ok.inj hreply
    exact ⟨(Submission.rule_isOk_iff id now).1 ⟨made, hr⟩,
      (Submission.fulfils_of_rule hr).2.stamped stamp stamp, rfl⟩

theorem course_refused (h : Course s es (.error f)) (hs : ∀ e ∈ es, Stamps e) :
    ¬ s.Admissible ∧ f.kind = .validation ∧ es.filterMap stored? = [] := by
  have hnot {id : RuleId} {now : Instant} (hr : s.rule id now = .error f) : ¬ s.Admissible := by
    rw [← Submission.rule_isOk_iff id now, hr]
    rintro ⟨r, hr⟩
    cases hr
  cases h with
  | unread hd =>
    have hr : s.rule (.ofNat 0) ⟨0⟩ = .error f := by rw [Submission.rule, hd]; rfl
    exact ⟨hnot hr, Submission.draft_failsAsInvalid s f hd, rfl⟩
  | refused now id _ hr => exact ⟨hnot hr, Submission.rule_failsAsInvalid s id now f hr, rfl⟩
  | @handedIn made now id hr =>
    have hinsert : Stamps ⟨.insertRule made, .error f⟩ := hs _ (by simp)
    obtain ⟨stamp, hreply⟩ := hinsert
    cases hreply

theorem Creations.seeded (h : Creations ss es result) (hs : ∀ e ∈ es, Stamps e) :
    Seeded ss result (es.filterMap stored?) := by
  induction h with
  | nil => exact .whole
  | refused h =>
    obtain ⟨hnot, hkind, hnone⟩ := course_refused h hs
    rw [hnone]
    exact .refused hnot hkind
  | stored h _ ih =>
    obtain ⟨hfirst, hrest⟩ := List.forall_mem_append.1 hs
    obtain ⟨hadmissible, hmade, hone⟩ := course_stored h hfirst
    rw [List.filterMap_append, hone]
    exact .stored hadmissible hmade (ih (List.forall_mem_cons.1 hrest).2)

theorem Calls.lists (h : Calls path es result) :
    ∃ listed rest, es = ⟨.listRules, listed⟩ :: rest := by
  cases h with
  | unlisted f => exact ⟨.error f, _, rfl⟩
  | skipped r rs => exact ⟨.ok (r :: rs), _, rfl⟩
  | unread _ => exact ⟨.ok [], _, rfl⟩
  | read _ _ => exact ⟨.ok [], _, rfl⟩

/-- A seeding that is told of no rule applies the file. -/
theorem Calls.applied (h : Calls path es result)
    (hl : (⟨.listRules, .ok []⟩ : Exchange Call.signature) ∈ es) (hr : ∀ e ∈ es, Reads file e)
    (hs : ∀ e ∈ es, Stamps e) : FileSeeded path file result (es.filterMap stored?) := by
  cases h with
  | unlisted f => cases List.mem_singleton.1 hl
  | skipped r rs => obtain hl | hl := List.mem_pair.1 hl <;> cases hl
  | @unread contents f h =>
    obtain rfl : contents = file := hr ⟨.readText path, contents⟩ (by simp)
    exact .unread h
  | @read contents ss es result h hc =>
    obtain rfl : contents = file := hr ⟨.readText path, contents⟩ (by simp)
    exact .read h (hc.seeded (List.forall_mem_cons.1 (List.forall_mem_cons.1 hs).2).2)

/-- Rules are listed at the beginning and not again. -/
theorem eq_nil_of_listed (hc : ∀ e ∈ es, IsCreating e.call)
    (hl : (⟨.listRules, .ok rs⟩ : Exchange Call.signature) ∈
      ⟨.listRules, .ok []⟩ :: ⟨.readText path, file⟩ :: es) : rs = [] := by
  rcases List.mem_cons.1 hl with hl | hl
  · cases hl
    rfl
  · rcases List.mem_cons.1 hl with hl | hl
    · cases hl
    · exact absurd (hc _ hl) id

/-- A seeding that is told of a rule stores nothing. -/
theorem Calls.skips (h : Calls path es result) (hne : rs ≠ [])
    (hl : (⟨.listRules, .ok rs⟩ : Exchange Call.signature) ∈ es) :
    result = .ok () ∧ es.filterMap stored? = [] := by
  cases h with
  | unlisted f => cases List.mem_singleton.1 hl
  | skipped r rs => exact ⟨rfl, rfl⟩
  | unread h => exact absurd (eq_nil_of_listed (by simp) hl) hne
  | read h hc => exact absurd (eq_nil_of_listed hc.isCreating hl) hne

/-! ## One seeding -/

/-- A seeding at a store: its calls, its answer and the store afterwards. The file is what is read
of it, and the identifiers that are drawn are new. -/
structure Seeds (path : String) (file : Except String String) (store : Store)
    (es : List (Exchange Call.signature)) (result : Except Fault Unit) (after : Store) : Prop where
  runs : (plan path).Runs es result
  serves : Store.party.Serves store es after
  reads : ∀ e ∈ es, Reads file e
  distinct : (es.filterMap drawn?).Nodup
  unused : ∀ id ∈ es.filterMap drawn?, store.contains id = false

theorem Seeds.after_eq (h : Seeds path file store es result after) :
    after = ⟨store.rules ++ es.filterMap stored?, store.entries⟩ :=
  serves_seeding h.serves (plan_runs_iff.1 h.runs).isSeeding

theorem Seeds.stamps (h : Seeds path file store es result after) : ∀ e ∈ es, Stamps e := by
  have hcalls := plan_runs_iff.1 h.runs
  exact stamps_of_serves h.serves hcalls.isSeeding (hcalls.handedIn.nodup h.distinct)
    fun id hid => h.unused id (hcalls.handedIn.subset hid)

/-- A seeding goes by whether there is a rule when it begins. -/
theorem Seeds.outcome (h : Seeds path file store es result after) :
    (store.rules = [] → FileSeeded path file result after.rules) ∧
    (store.rules ≠ [] → result = .ok () ∧ after = store) := by
  have hcalls := plan_runs_iff.1 h.runs
  obtain ⟨listed, rest, hes⟩ := hcalls.lists
  have hl : (⟨.listRules, .ok store.rules⟩ : Exchange Call.signature) ∈ es := by
    have hserves := h.serves
    rw [hes] at hserves
    cases hserves with
    | cons hl _ =>
      obtain ⟨rfl, -⟩ := hl
      rw [hes]
      exact List.mem_cons_self
  rw [h.after_eq]
  constructor
  · intro hempty
    rw [hempty] at hl ⊢
    exact hcalls.applied hl h.reads h.stamps
  · intro hfull
    obtain ⟨hok, hnone⟩ := hcalls.skips hfull hl
    rw [hnone, List.append_nil]
    exact ⟨hok, rfl⟩

/-! ## There is a seeding of every file -/

theorem course_drawn (h : Course s es created)
    (hd : ∀ e ∈ es, Draws id e) : (es.filterMap drawn?).Sublist [id] := by
  cases h with
  | unread _ => exact List.nil_sublist _
  | refused now drawn _ _ =>
    obtain rfl : drawn = id := hd ⟨.freshId, drawn⟩ (by simp)
    exact List.Sublist.refl [drawn]
  | handedIn now drawn _ =>
    obtain rfl : drawn = id := hd ⟨.freshId, drawn⟩ (by simp)
    cases created <;> exact List.Sublist.refl [drawn]

/-- A creation stores no rule but one with the identifier that is drawn. -/
theorem contains_creates {other : RuleId}
    (h : Creates s store id es created after) (hid : store.contains id = false) (hne : other ≠ id)
    (hother : store.contains other = false) : after.contains other = false := by
  rcases h.outcome hid with ⟨_, _, -, -, rfl⟩ | ⟨now, r, stamp, hr, -, rfl⟩
  · exact hother
  · obtain rfl := (Submission.fulfils_of_rule hr).1
    rw [Store.contains_eq_false_iff] at hother ⊢
    exact List.forall_mem_append.2 ⟨hother, List.forall_mem_singleton.2 hne.symm⟩

/-- Creations come to an end with any identifiers that nothing has yet; others stay unused. -/
theorem exists_creations (ss : List Submission) (store : Store) {ids : List RuleId}
    (hids : ids.Nodup) (hlen : ss.length ≤ ids.length)
    (hfree : ∀ id ∈ ids, store.contains id = false) :
    ∃ es result after, Creations ss es result ∧ Store.party.Serves store es after ∧
      (es.filterMap drawn?).Sublist ids ∧
      ∀ other, other ∉ ids → store.contains other = false → after.contains other = false := by
  induction ss generalizing store ids with
  | nil =>
    exact ⟨[], .ok (), store, .nil, .nil store, List.nil_sublist ids, fun _ _ hother => hother⟩
  | cons s rest ih =>
    match ids, hids, hlen, hfree with
    | own :: others, hids, hlen, hfree =>
      obtain ⟨hnot, hothers⟩ := List.nodup_cons.1 hids
      obtain ⟨hid, hunused⟩ := List.forall_mem_cons.1 hfree
      obtain ⟨xs, created, mid, h⟩ := exists_creates s store own
      have hcourse := create_course h.runs
      have hxs := course_drawn hcourse h.draws
      have hkept {other : RuleId} (hne : other ≠ own) := contains_creates h hid hne
      cases created with
      | error f =>
        exact ⟨xs, .error f, mid, .refused hcourse, h.serves, hxs.trans (by simp),
          fun other ho => hkept (List.ne_of_not_mem_cons ho)⟩
      | ok r =>
        obtain ⟨es, result, after, hr, hs, hes, hafter⟩ := ih mid hothers
          (Nat.le_of_succ_le_succ hlen) fun other ho =>
            hkept (by rintro rfl; exact hnot ho) (hunused other ho)
        refine ⟨_, result, after, .stored hcourse hr, ?_, ?_, ?_⟩
        · exact Party.serves_append.2 ⟨mid, h.serves, .cons rfl hs⟩
        · rw [List.filterMap_append]
          exact hxs.append hes
        · intro other ho hother
          exact hafter other (List.not_mem_of_not_mem_cons ho)
            (hkept (List.ne_of_not_mem_cons ho) hother)

/-- A file can be applied with any identifiers that nothing has yet; others stay unused. -/
theorem exists_applied (path : String) (file : Except String String) (store : Store)
    {ids : List RuleId} (hids : ids.Nodup) (hlen : (entries path file).length ≤ ids.length)
    (hfree : ∀ id ∈ ids, store.contains id = false) :
    ∃ es result after, Calls path (⟨.listRules, .ok []⟩ :: ⟨.readText path, file⟩ :: es) result ∧
      (∀ e ∈ es, IsCreating e.call) ∧ Store.party.Serves store es after ∧
      (es.filterMap drawn?).Sublist ids ∧
      ∀ other, other ∉ ids → store.contains other = false → after.contains other = false := by
  cases hf : submissions path file with
  | error f =>
    exact ⟨[], _, store, .unread hf, by simp, .nil store, List.nil_sublist ids,
      fun _ _ hother => hother⟩
  | ok ss =>
    rw [entries, hf] at hlen
    obtain ⟨es, result, after, hc, hs, hd, hafter⟩ := exists_creations ss store hids hlen hfree
    exact ⟨es, result, after, .read hf hc, hc.isCreating, hs, hd, hafter⟩

theorem answers_listRules (hempty : store.rules = []) :
    Store.party.Answers store .listRules (Except.ok []) store :=
  ⟨congrArg Except.ok hempty.symm, rfl⟩

/-- A seeding of an empty store comes to an end with any identifiers, whatever the file. -/
theorem exists_seeds (path : String) (file : Except String String) (hempty : store.rules = [])
    {ids : List RuleId} (hids : ids.Nodup) (hlen : (entries path file).length ≤ ids.length) :
    ∃ es result after, Seeds path file store es result after := by
  have hfree (id : RuleId) : store.contains id = false := by simp [Store.contains, hempty]
  obtain ⟨es, result, after, hc, hcreating, hs, hd, -⟩ :=
    exists_applied path file store hids hlen fun id _ => hfree id
  refine ⟨_, result, after, plan_runs_iff.2 hc, .cons (answers_listRules hempty) (.cons rfl hs), ?_,
    hd.nodup hids, fun id _ => hfree id⟩
  exact List.forall_mem_cons.2 ⟨trivial, List.forall_mem_cons.2
    ⟨rfl, fun e he => (hcreating e he).reads⟩⟩

/-! ## Up to the first refusal -/

theorem FileSeeded.ok_iff (h : FileSeeded path file result rs) :
    result = .ok () ↔ ∃ ss, submissions path file = .ok ss ∧ ∀ s ∈ ss, s.Admissible := by
  cases h with
  | unread hf => simp [hf]
  | read hf hs => simp [hf, hs.ok_iff]

/-- After a fault the rules are those in front of the entry that was refused, if it was one. -/
theorem FileSeeded.refused (h : FileSeeded path file (.error f) rs) :
    f.kind = .validation ∧ (submissions path file = .error f ∧ rs = [] ∨
      ∃ front s rest, submissions path file = .ok (front ++ s :: rest) ∧
        (∀ x ∈ front, x.Admissible) ∧ ¬ s.Admissible ∧
        List.Forall₂ Submission.Fulfils front rs) := by
  cases h with
  | unread hf => exact ⟨submissions_failsAsInvalid path file f hf, .inl ⟨hf, rfl⟩⟩
  | read hf hs =>
    obtain ⟨front, hmade, hall, ⟨⟨⟩, -⟩ | ⟨g, s, rest, hg, hkind, rfl, hnot⟩⟩ := hs.parts
    cases hg
    exact ⟨hkind, .inr ⟨front, s, rest, hf, hall, hnot, hmade⟩⟩

theorem FileSeeded.whole (h : FileSeeded path file (.ok ()) rs) :
    ∃ ss, submissions path file = .ok ss ∧ List.Forall₂ Submission.Fulfils ss rs := by
  cases h with
  | read hf hs =>
    obtain ⟨front, hmade, -, ⟨-, rfl⟩ | ⟨_, _, _, ⟨⟩, -⟩⟩ := hs.parts
    exact ⟨_, hf, hmade⟩

/-- After a fault nothing is stored exactly when there is no first entry, or it is refused. -/
theorem FileSeeded.nil_iff (h : FileSeeded path file (.error f) rs) :
    rs = [] ↔ ∀ s ∈ (entries path file).head?, ¬ s.Admissible := by
  obtain ⟨-, ⟨hf, rfl⟩ | ⟨front, s, rest, hf, hall, hnot, hmade⟩⟩ := h.refused
  · simp [entries, hf, Except.toOption]
  · cases hmade with
    | nil => simpa [entries, hf, Except.toOption] using hnot
    | cons hr _ => simpa [entries, hf, Except.toOption] using hall _ List.mem_cons_self

/-- **What seeding leaves in an empty store.** Whatever the file, and with any identifiers that
differ, a seeding comes to an end. It succeeds exactly when the file can be read and every entry is
admissible; then the store holds the rules that the entries ask for, in their order. Otherwise it
fails as invalid, and the store holds the rules of the entries in front of the first that is
refused: nothing, if the file cannot be read or its first entry is refused. Once a rule is stored,
every later seeding succeeds without storing anything, whatever its file holds by then. -/
theorem seeded_up_to_refusal (path : String) (file : Except String String) {store : Store}
    (hempty : store.rules = []) :
    (∀ ids : List RuleId, ids.Nodup → (entries path file).length ≤ ids.length →
      ∃ es result after, Seeds path file store es result after) ∧
    ∀ es result after, Seeds path file store es result after →
      after.entries = store.entries ∧
      (result = .ok () ↔ ∃ ss, submissions path file = .ok ss ∧ ∀ s ∈ ss, s.Admissible) ∧
      (result = .ok () → ∃ ss, submissions path file = .ok ss ∧
        List.Forall₂ Submission.Fulfils ss after.rules) ∧
      (∀ f, result = .error f → f.kind = .validation ∧
        (after.rules = [] ↔ ∀ s ∈ (entries path file).head?, ¬ s.Admissible) ∧
        (submissions path file = .error f ∧ after.rules = [] ∨
          ∃ front s rest, submissions path file = .ok (front ++ s :: rest) ∧
            (∀ x ∈ front, x.Admissible) ∧ ¬ s.Admissible ∧
            List.Forall₂ Submission.Fulfils front after.rules)) ∧
      (after.rules ≠ [] → ∀ path' file' es' result' later,
        Seeds path' file' after es' result' later → result' = .ok () ∧ later = after) := by
  constructor
  · intro ids hids hlen
    exact exists_seeds path file hempty hids hlen
  · intro es result after h
    have hmade := h.outcome.1 hempty
    refine ⟨by rw [h.after_eq], hmade.ok_iff, ?_, ?_, fun hfull _ _ _ _ _ hagain =>
      hagain.outcome.2 hfull⟩
    · rintro rfl
      exact hmade.whole
    · rintro f rfl
      exact ⟨hmade.refused.1, hmade.nil_iff, hmade.refused.2⟩

def blankSecond : String :=
  "[\x7b\"name\": \"Everyone\", \"actions\": \x7b\"action\": \"disconnect\"\x7d\x7d, " ++
  "\x7b\"name\": \" \", \"actions\": \x7b\"action\": \"disconnect\"\x7d\x7d]"

/-- Whether the checks pass can be computed. -/
theorem isSome_rule_iff (s : Submission) (id : RuleId) (now : Instant) :
    (s.rule id now).toOption.isSome = true ↔ s.Admissible := by
  rw [← Submission.rule_isOk_iff id now]
  cases s.rule id now <;> simp [Except.toOption]

/-- The verdicts on the entries of a file. -/
theorem exists_verdicts {verdicts : List Bool} (h : (submissions path file).toOption.map
      (fun ss => ss.map fun s => (s.rule (.ofNat 0) ⟨0⟩).toOption.isSome) = some verdicts) :
    ∃ ss, submissions path file = .ok ss ∧
      List.Forall₂ (fun s verdict => s.Admissible ↔ verdict = true) ss verdicts := by
  match hf : submissions path file with
  | .error f =>
    rw [hf] at h
    cases h
  | .ok ss =>
    rw [hf] at h
    refine ⟨ss, rfl, ?_⟩
    rw [← Option.some.inj h, List.forall₂_map_right_iff]
    exact List.forall₂_same.2 fun s _ => (isSome_rule_iff s _ _).symm

theorem submissions_blankSecond :
    ∃ s t, submissions "rules.json" (.ok blankSecond) = .ok [s, t] ∧ s.Admissible ∧
      ¬ t.Admissible := by
  have h : (submissions "rules.json" (.ok blankSecond)).toOption.map
      (fun ss => ss.map fun s => (s.rule (.ofNat 0) ⟨0⟩).toOption.isSome) = some [true, false] := by
    decide +kernel
  obtain ⟨_, hfile, _ | ⟨hs, _ | ⟨ht, _ | _⟩⟩⟩ := exists_verdicts h
  exact ⟨_, _, hfile, by simpa using hs, by simpa using ht⟩

theorem seeded_up_to_refusal_blankSecond :
    Store.empty.rules = [] ∧ ∃ es f after,
      Seeds "rules.json" (.ok blankSecond) .empty es (.error f) after ∧
        f.kind = .validation ∧ after.rules ≠ [] := by
  obtain ⟨s, t, hfile, hs, ht⟩ := submissions_blankSecond
  have hempty : Store.empty.rules = [] := rfl
  obtain ⟨hexists, hall⟩ := seeded_up_to_refusal "rules.json" (.ok blankSecond) hempty
  obtain ⟨es, result, after, h⟩ := hexists [.ofNat 1, .ofNat 2] (by decide)
    (by simp [entries, hfile, Except.toOption])
  obtain ⟨-, hok, -, hrefused, -⟩ := hall es result after h
  cases result with
  | ok _ =>
    obtain ⟨ss, hss, hadmissible⟩ := hok.1 rfl
    obtain rfl := Except.ok.inj (hfile.symm.trans hss)
    exact absurd (hadmissible t (by simp)) ht
  | error f =>
    obtain ⟨hkind, hnil, -⟩ := hrefused f rfl
    refine ⟨hempty, es, f, after, h, hkind, fun hnone => ?_⟩
    exact hnil.1 hnone s (by simp [entries, hfile, Except.toOption]) hs

/-- A rule stays behind although the seeding has failed, and a corrected file is never read: the
next seeding finds a rule and succeeds. -/
theorem stored_when_refused :
    (∃ es result after, Seeds "rules.json" (.ok blankSecond) .empty es result after) ∧
    ∀ es result after, Seeds "rules.json" (.ok blankSecond) .empty es result after →
      (∃ f, result = .error f) ∧ after.rules ≠ [] ∧
      ∀ file es' result' later, Seeds "rules.json" file after es' result' later →
        result' = .ok () ∧ later = after := by
  obtain ⟨s, t, hfile, hs, ht⟩ := submissions_blankSecond
  constructor
  · have hids : [RuleId.ofNat 1, .ofNat 2].Nodup := by decide
    exact exists_seeds "rules.json" (.ok blankSecond) rfl hids
      (by simp [entries, hfile, Except.toOption])
  · intro es result after h
    have hmade := h.outcome.1 rfl
    have hfull : after.rules ≠ [] := by
      generalize after.rules = rs at hmade ⊢
      cases hmade with
      | unread hf =>
        rw [hfile] at hf
        cases hf
      | read hf hmade =>
        obtain rfl := Except.ok.inj (hfile.symm.trans hf)
        cases hmade with
        | refused hnot _ => exact absurd hs hnot
        | stored _ _ _ => exact List.cons_ne_nil _ _
    refine ⟨?_, hfull, fun _ _ _ _ hagain => hagain.outcome.2 hfull⟩
    cases result with
    | error f => exact ⟨f, rfl⟩
    | ok _ =>
      obtain ⟨ss, hss, hadmissible⟩ := hmade.ok_iff.1 rfl
      obtain rfl := Except.ok.inj (hfile.symm.trans hss)
      exact absurd (hadmissible t (by simp)) ht

end PeerRules.Worker.Seed
