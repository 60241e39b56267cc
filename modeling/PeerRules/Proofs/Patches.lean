import PeerRules.Proofs.Amending
import PeerRules.Rule.Input

/-!
# Patches

A patch is an object that gives some parts of a rule. `Valid` says which patches can be applied and
`Amended` what a rule is afterwards, part by part, by what stands in the object; neither decodes
anything.

* `Shape.find?_of_checkMembers`: what is found in a decoded record is what was written.
* `Amendment.change_ofNormal_iff`: what a patch makes of a rule.
* `Amendment.changes_iff`, `Amendment.amended_of_change`: a patch can be applied exactly when it is
  valid, and does to the rule what it says.
* `Service.patch_touches_named`: what an amendment by a patch answers, and what it leaves in the
  store.
-/
namespace PeerRules

open Json

/-! ## Decoding -/

namespace Json.Shape

theorem checkMembers_unknown {fields : List (Field Shape)} {key : String}
    (hf : Field.find? fields key = none) (v : Value) (rest : Members) :
    checkMembers fields ((key, v) :: rest) = checkMembers fields rest := by
  cases v <;> rw [checkMembers, hf] <;> simp

def fieldValue (f : Field Shape) (v : Value) : Except Mismatch Value :=
  if f.nullable && v matches .null then pure .null else check f.shape v

theorem fieldValue_eq_ok {f : Field Shape} {v w : Value} (h : fieldValue f v = .ok w) :
    v = .null ∧ w = .null ∨ check f.shape v = .ok w := by
  cases v with
  | null =>
    cases hn : f.nullable with
    | true =>
      rw [fieldValue, hn] at h
      cases h
      exact .inl ⟨rfl, rfl⟩
    | false =>
      rw [fieldValue, hn] at h
      exact .inr h
  | bool | number | string | array | object =>
    exact .inr (by simpa [fieldValue] using h)

theorem checkMembers_known {fields : List (Field Shape)} {key : String} {f : Field Shape}
    (hf : Field.find? fields key = some f) (v : Value) (rest : Members) :
    checkMembers fields ((key, v) :: rest) = (do
      let w ← fieldValue f v
      let later ← checkMembers fields rest
      pure ((key, w) :: later)) := by
  cases v <;> rw [checkMembers, hf] <;> cases hn : f.nullable <;> simp [fieldValue, hn]

def Plain (shape : Shape) : Prop := ∀ v w, check shape v = .ok w → w = v

theorem plain_any : Plain .any := by
  intro v w h
  rw [check_any] at h
  exact (Except.ok.inj h).symm

theorem check_text {v w : Value} (h : check .text v = .ok w) : w = v ∧ ∃ s, v = .string s := by
  cases v <;> simp [check] at h
  exact ⟨h.symm, _, rfl⟩

theorem check_flag {v w : Value} (h : check .flag v = .ok w) : w = v ∧ ∃ b, v = .bool b := by
  cases v <;> simp [check] at h
  exact ⟨h.symm, _, rfl⟩

/-- What is found in a record that was decoded is what was written: `null`, or a document of the
shape of its field. The induction is over the members that were written. -/
theorem find?_of_checkMembers {fields : List (Field Shape)} {members found : Members}
    (h : checkMembers fields members = .ok found) (key : String) {f : Field Shape}
    (hf : Field.find? fields key = some f) (hplain : Plain f.shape) :
    found.find? key = members.find? key ∧
      ∀ v, members.find? key = some v → v = .null ∨ check f.shape v = .ok v := by
  induction members generalizing found with
  | nil =>
    rw [checkMembers] at h
    cases h
    exact ⟨rfl, by simp [Members.find?]⟩
  | cons m rest ih =>
    obtain ⟨k, v⟩ := m
    by_cases hkey : k = key
    · obtain rfl := hkey
      rw [checkMembers_known hf] at h
      obtain ⟨w, hw, h⟩ := bind_eq_ok_iff.1 h
      obtain ⟨later, -, h⟩ := bind_eq_ok_iff.1 h
      cases h
      rcases fieldValue_eq_ok hw with ⟨rfl, rfl⟩ | hc
      · simp [Members.find?]
      · obtain rfl := hplain v w hc
        simp [Members.find?, hc]
    · simp only [Members.find?, if_neg hkey]
      cases hk : Field.find? fields k with
      | none =>
        rw [checkMembers_unknown hk] at h
        exact ih h
      | some g =>
        rw [checkMembers_known hk] at h
        obtain ⟨w, -, h⟩ := bind_eq_ok_iff.1 h
        obtain ⟨later, hlater, h⟩ := bind_eq_ok_iff.1 h
        cases h
        simp only [Members.find?, if_neg hkey]
        exact ih hlater

theorem check_record {title : String} {fields : List (Field Shape)} {members : Members} {v : Value}
    (h : check (.record title fields) (.object members) = .ok v) :
    ∃ found, checkMembers fields members = .ok found ∧ v = .object found := by
  rw [check] at h
  obtain ⟨found, hfound, h⟩ := bind_eq_ok_iff.1 h
  split at h
  · cases h
  · cases h
    exact ⟨found, hfound, rfl⟩

end Json.Shape

/-! ## What a patch says -/

namespace Rule.Patch

open Submission

/-- What holds of a part of a rule: `left` where the patch has nothing for it or `null`, and `given`
of the value that it has. -/
def Gives (patch : Members) (key : String) (left : Prop) (given : Value → Prop) : Prop :=
  match patch.find? key with
  | none | some .null => left
  | some v => given v

/-- What the patch gives can be part of a rule. -/
structure Valid (patch : Members) : Prop where
  name : Gives patch "name" True fun v => ∃ text, v = .string text ∧ Says text.toList
  conditions : Gives patch "conditions" True IsConditions
  action : Gives patch "actions" True fun v => ∃ a, Orders v a

/-- The rule has what the patch gives and is otherwise as it was. A description is given with `null`
too, and then cleared. -/
structure Amended (patch : Members) (old new : Rule) : Prop where
  id : new.id = old.id
  createdAt : new.createdAt = old.createdAt
  name : Gives patch "name" (new.name = old.name) fun v => v = .string new.name.text
  description : match patch.find? "description" with
    | none => new.description = old.description
    | some v => ∃ text, v = .ofText? text ∧ Trims text new.description
  conditions : Gives patch "conditions" (new.conditions = old.conditions) fun v =>
    v = new.conditions.toValue
  action : Gives patch "actions" (new.action = old.action) fun v => Orders v new.action
  isActive : Gives patch "isActive" (new.isActive = old.isActive) fun v => v = .bool new.isActive

def IsText (v : Value) : Prop := v = .null ∨ ∃ s, v = .string s

def IsFlag (v : Value) : Prop := v = .null ∨ ∃ b, v = .bool b

/-- The members of a patch are of their kinds. -/
structure Formed (patch : Members) : Prop where
  name : ∀ v, patch.find? "name" = some v → IsText v
  description : ∀ v, patch.find? "description" = some v → IsText v
  isActive : ∀ v, patch.find? "isActive" = some v → IsFlag v

theorem gives_iff {patch : Members} {key : String} {left : Prop} {given : Value → Prop} :
    Gives patch key left given ↔
      (Amendment.present? (.object patch) key).elim left given := by
  unfold Gives Amendment.present?
  simp only [Value.get?, Value.members?, Option.bind_some]
  split <;> simp_all

theorem Gives.imp {patch : Members} {key : String} {left left' : Prop} {given given' : Value → Prop}
    (h : Gives patch key left given) (hl : left → left')
    (hg : ∀ v, v ≠ .null → given v → given' v) : Gives patch key left' given' := by
  unfold Gives at h ⊢
  split at h
  · exact hl h
  · exact hl h
  · next v hnull _ => exact hg v hnull h

/-- A part that may be anything that the patch gives, or any old one. -/
theorem Gives.choose {patch : Members} {key : String} {α : Type} {given : α → Value → Prop}
    (old : α) (h : Gives patch key True fun v => ∃ new, given new v) :
    ∃ new, Gives patch key (new = old) (given new) := by
  unfold Gives at h ⊢
  split at h
  · exact ⟨old, rfl⟩
  · exact ⟨old, rfl⟩
  · exact h

theorem find?_of_present? {patch : Members} {key : String} {v : Value}
    (h : Amendment.present? (.object patch) key = some v) :
    patch.find? key = some v ∧ v ≠ .null := by
  simp only [Amendment.present?, Value.get?, Value.members?, Option.bind_some] at h
  split at h
  · cases h
  · cases h
  · next w hnull hw =>
    cases h
    exact ⟨hw, hnull⟩

theorem Amended.stamped {patch : Members} {old new : Rule} (h : Amended patch old new)
    (updatedAt : Instant) : Amended patch old (new.stamped old.createdAt updatedAt) :=
  ⟨h.id, rfl, h.name, h.description, h.conditions, h.action, h.isActive⟩

end Rule.Patch

namespace Rule.Amendment

open Submission

variable {a : Amendment} {patch : Members}

/-- The amendment is told by what stands in the patch itself, and the
members of the patch are of their kinds. -/
theorem decode_object (h : decode (.object patch) = .ok a) :
    a = ofNormal (.object patch) ∧ Patch.Formed patch := by
  obtain ⟨found, hfound, rfl⟩ : ∃ found, Shape.checkMembers _ patch = .ok found ∧
      a = ofNormal (.object found) := by
    cases hc : shape.check (.object patch) with
    | error m =>
      rw [decode, hc] at h
      cases h
    | ok v =>
      rw [decode, hc] at h
      obtain ⟨found, hfound, rfl⟩ := Shape.check_record hc
      exact ⟨found, hfound, (Except.ok.inj h).symm⟩
  obtain ⟨hname, hnames⟩ := Shape.find?_of_checkMembers hfound "name" rfl fun _ _ hc =>
    (Shape.check_text hc).1
  obtain ⟨hdescription, hdescriptions⟩ := Shape.find?_of_checkMembers hfound "description" rfl
    fun _ _ hc => (Shape.check_text hc).1
  obtain ⟨hconditions, -⟩ := Shape.find?_of_checkMembers hfound "conditions" rfl Shape.plain_any
  obtain ⟨hactions, -⟩ := Shape.find?_of_checkMembers hfound "actions" rfl Shape.plain_any
  obtain ⟨hactive, hactives⟩ := Shape.find?_of_checkMembers hfound "isActive" rfl fun _ _ hc =>
    (Shape.check_flag hc).1
  refine ⟨?_, fun v hv => ?_, fun v hv => ?_, fun v hv => ?_⟩
  · simp [ofNormal, present?, Value.get?, Value.members?, hname, hdescription, hconditions,
      hactions, hactive]
  · exact (hnames v hv).imp_right fun hc => (Shape.check_text hc).2
  · exact (hdescriptions v hv).imp_right fun hc => (Shape.check_text hc).2
  · exact (hactives v hv).imp_right fun hc => (Shape.check_flag hc).2

/-! ## What an amendment refuses -/

variable {old r : Rule} {now : Instant}

theorem loadPart_failsAsInvalid {α : Type} {load : Value → Except Fault α}
    (h : ∀ v, FailsAsInvalid (load v)) (given : Option Value) :
    FailsAsInvalid (loadPart load given) := by
  cases given with
  | none => exact .ok _
  | some v =>
    intro f hf
    cases hv : load v with
    | error g =>
      rw [loadPart, hv] at hf
      cases hf
      exact h v _ hv
    | ok x =>
      rw [loadPart, hv] at hf
      cases hf

theorem validatePart_failsAsInvalid {α : Type} {check : α → Except Fault Unit}
    (h : ∀ x, FailsAsInvalid (check x)) (part : Option α) :
    FailsAsInvalid (validatePart check part) := by
  cases part with
  | none => exact .ok _
  | some x => exact h x

theorem newName_failsAsInvalid (n : Name) (given : Option String) :
    FailsAsInvalid (newName n given) := by
  cases given with
  | none => exact .ok _
  | some text => exact ofText_failsAsInvalid text

theorem change_failsAsInvalid (a : Amendment) (old : Rule) (now : Instant) :
    FailsAsInvalid (a.change old now) :=
  .bind
    (.bind (loadPart_failsAsInvalid ofValue_failsAsInvalid _) fun _ =>
      .bind (loadPart_failsAsInvalid action_failsAsInvalid _) fun _ => .ok _)
    fun _ => .bind (validatePart_failsAsInvalid validate_failsAsInvalid _) fun _ =>
      .bind (validatePart_failsAsInvalid validateAction_failsAsInvalid _) fun _ =>
      .bind (newName_failsAsInvalid _ _) fun _ => .ok _

/-! ## What a patch makes of a rule -/

theorem name_ofNormal (h : Patch.Formed patch) {n m : Name} :
    ((ofNormal (.object patch)).name.elim (n = m) fun text => n.text = text) ↔
      Patch.Gives patch "name" (n = m) fun v => v = .string n.text := by
  rw [Patch.gives_iff]
  cases hp : present? (.object patch) "name" with
  | none => simp [ofNormal, hp]
  | some v =>
    obtain ⟨hv, hnull⟩ := Patch.find?_of_present? hp
    obtain ⟨text, rfl⟩ := (h.name v hv).resolve_left hnull
    simp [ofNormal, hp, Value.text?, eq_comm]

theorem isActive_ofNormal (h : Patch.Formed patch) {b c : Bool} :
    b = (ofNormal (.object patch)).isActive.getD c ↔
      Patch.Gives patch "isActive" (b = c) fun v => v = .bool b := by
  unfold Patch.Gives
  cases hp : patch.find? "isActive" with
  | none => simp [ofNormal, Value.get?, Value.members?, hp]
  | some v =>
    rcases h.isActive v hp with rfl | ⟨flag, rfl⟩
    · simp [ofNormal, Value.get?, Value.members?, hp]
    · simp [ofNormal, Value.get?, Value.members?, hp, eq_comm]

/-- What a patch makes of a rule, by its members. -/
theorem change_ofNormal_iff (h : Patch.Formed patch) :
    (ofNormal (.object patch)).change old now = .ok r ↔
      r.id = old.id ∧ r.createdAt = old.createdAt ∧ r.updatedAt = now ∧
      (Patch.Gives patch "name" (r.name = old.name) fun v => v = .string r.name.text) ∧
      r.description = ((ofNormal (.object patch)).description.map normalize).getD old.description ∧
      (Patch.Gives patch "conditions" (r.conditions = old.conditions) fun v =>
        Conditions.ofValue v = .ok r.conditions ∧ r.conditions.validate = .ok ()) ∧
      (Patch.Gives patch "actions" (r.action = old.action) fun v => Orders v r.action) ∧
      Patch.Gives patch "isActive" (r.isActive = old.isActive) fun v => v = .bool r.isActive := by
  rw [change_eq_ok_iff, name_ofNormal h, isActive_ofNormal h]
  simp only [orders_iff, @Patch.gives_iff patch "conditions", @Patch.gives_iff patch "actions"]
  rfl

/-- **A patch can be applied** to a rule, whatever the rule, exactly when it is valid. -/
theorem changes_iff (h : Patch.Formed patch) (old : Rule) (now : Instant) :
    (∃ r, (ofNormal (.object patch)).change old now = .ok r) ↔ Patch.Valid patch := by
  constructor
  · rintro ⟨r, hr⟩
    obtain ⟨-, -, -, hname, -, hconditions, haction, -⟩ := (change_ofNormal_iff h).1 hr
    refine ⟨?_, ?_, ?_⟩
    · exact hname.imp (fun _ => trivial) fun v _ hv => ⟨_, hv, (says_iff _).2 r.name.notBlank⟩
    · exact hconditions.imp (fun _ => trivial) fun v _ hv => (isConditions_iff v).2 ⟨_, hv⟩
    · exact haction.imp (fun _ => trivial) fun v _ hv => ⟨_, hv⟩
  · rintro ⟨hname, hconditions, haction⟩
    obtain ⟨name, hname⟩ : ∃ name : Name,
        Patch.Gives patch "name" (name = old.name) fun v => v = .string name.text := by
      refine Patch.Gives.choose old.name (hname.imp (fun h => h) ?_)
      rintro v - ⟨text, rfl, hsays⟩
      exact ⟨⟨text, (says_iff text).1 hsays⟩, rfl⟩
    obtain ⟨c, hc⟩ := Patch.Gives.choose old.conditions
      (hconditions.imp (fun h => h) fun v _ => (isConditions_iff v).1)
    obtain ⟨x, hx⟩ := Patch.Gives.choose old.action haction
    refine ⟨⟨old.id, name, _, c, x, _, old.createdAt, now⟩, (change_ofNormal_iff h).2
      ⟨rfl, rfl, rfl, hname, rfl, hc, hx, (isActive_ofNormal h).1 rfl⟩⟩

/-- A patch that is applied does to the rule what it says. -/
theorem amended_of_change (h : Patch.Formed patch)
    (hr : (ofNormal (.object patch)).change old now = .ok r) : Patch.Amended patch old r := by
  obtain ⟨hid, hcreated, -, hname, hdescription, hconditions, haction, hactive⟩ :=
    (change_ofNormal_iff h).1 hr
  refine ⟨hid, hcreated, hname, ?_, ?_, haction, hactive⟩
  · cases hp : patch.find? "description" with
    | none => simpa [ofNormal, Value.get?, Value.members?, hp] using hdescription
    | some v =>
      have hd : r.description = normalize v.text? := by
        simpa [ofNormal, Value.get?, Value.members?, hp] using hdescription
      rw [hd]
      refine ⟨v.text?, ?_, trims_normalize _⟩
      rcases h.description v hp with rfl | ⟨text, rfl⟩ <;> rfl
  · refine hconditions.imp (fun h => h) fun v hnull hv => ?_
    rw [toValue_ofValue_eq hv.1, storedConditions]
    exact hnull

end Rule.Amendment

/-! ## What a patch leaves in the store -/

/-- The store after a rule was put in its place: no rule is moved, no other is changed, and neither
is the audit log. -/
structure Store.Replaces (s : Store) (stored : Rule) (t : Store) : Prop where
  ids : t.ids = s.ids
  found : t.find? stored.id = some stored
  others : ∀ (i : Nat) (x : Rule), s.rules[i]? = some x → x.id ≠ stored.id → t.rules[i]? = some x
  entries : t.entries = s.entries

theorem Store.replaces_of_update {s t : Store} {now : Instant} {r stored : Rule}
    (h : s.update now r = .ok (stored, t)) : s.Replaces stored t := by
  have hids := ids_update h
  have hfound := find?_update h
  unfold update at h
  split at h
  · cases h
  · next old hold =>
    cases h
    refine ⟨hids, hfound, fun i x hx hne => ?_, rfl⟩
    rw [List.getElem?_map, hx]
    exact congrArg some (if_neg hne)

/-- A rule that is stored under its identifier is replaced, and keeps its time of creation. -/
theorem Store.update_of_find? {s : Store} {old r : Rule} (now : Instant)
    (h : s.find? r.id = some old) :
    ∃ t, s.update now r = .ok (r.stamped old.createdAt now, t) := by
  unfold update
  rw [h]
  exact ⟨_, rfl⟩

namespace Service

open Rule

variable {id : RuleId} {a : Amendment} {store after : Store}
  {es : List (Exchange Call.signature)} {result : Except Fault Rule}

/-- An amendment at a store: its calls, its answer and the store afterwards. -/
structure Amends (id : RuleId) (a : Amendment) (store : Store)
    (es : List (Exchange Call.signature)) (result : Except Fault Rule) (after : Store) : Prop where
  runs : (amend id a).Runs es result
  serves : Store.party.Serves store es after

theorem exists_amends (id : RuleId) (a : Amendment) (store : Store) :
    ∃ es result after, Amends id a store es result after := by
  obtain ⟨es, result, after, hr, hs, -⟩ :=
    Party.exists_served (fun store c => exists_answer store id c) (amend id a) store
  exact ⟨es, result, after, hr, hs⟩

theorem serves_telling {reply : Except Fault Rule}
    (h : Store.party.Serves store (telling reply) after) : after = store := by
  cases reply with
  | error f => exact Party.serves_nil_iff.1 h
  | ok stored => exact Party.serves_one_iff.1 h

/-- What an amendment comes to: what it makes of the stored rule, put in the place of that rule. -/
theorem Amends.outcome (h : Amends id a store es result after) :
    (store.find? id = none ∧ result = .error id.notStored ∧ after = store) ∨
    ∃ old now, store.find? id = some old ∧
      ((∃ f, a.change old now = .error f ∧ result = .error f ∧ after = store) ∨
      ∃ r stamp, a.change old now = .ok r ∧ result = .ok (r.stamped old.createdAt stamp) ∧
        store.Replaces (r.stamped old.createdAt stamp) after) := by
  obtain ⟨hr, hs⟩ := h
  cases amend_course hr with
  | unread f =>
    obtain ⟨hreply, -⟩ := Party.serves_one_iff.1 hs
    cases hreply
  | absent =>
    obtain ⟨hreply, rfl⟩ := Party.serves_one_iff.1 hs
    exact .inl ⟨(Except.ok.inj hreply).symm, rfl, rfl⟩
  | @unloaded f seen hu =>
    obtain ⟨hfound, hs⟩ := Store.serves_reading hs
    have hchange : a.change seen ⟨0⟩ = .error f := by rw [Amendment.change, hu]; rfl
    exact .inr ⟨seen, ⟨0⟩, hfound, .inl ⟨f, hchange, rfl, Party.serves_nil_iff.1 hs⟩⟩
  | @refused u f seen now hu hm =>
    obtain ⟨hfound, hs⟩ := Store.serves_reading hs
    have hchange := (Amendment.change_of_update hu seen now).trans hm
    exact .inr ⟨seen, now, hfound, .inl ⟨f, hchange, rfl, Party.serves_one_iff.1 hs⟩⟩
  | @handedIn u made seen now hu hm =>
    obtain ⟨hfound, hrest⟩ := Store.serves_reading hs
    have hchange := (Amendment.change_of_update hu seen now).trans hm
    have hid : made.id = id := by
      rw [(Amendment.change_eq_ok_iff.1 hchange).1, Store.id_of_find? hfound]
    cases hrest with
    | cons hnow hwrite =>
      obtain rfl := hnow
      cases hwrite with
      | cons hupdate htell =>
        obtain rfl := serves_telling htell
        obtain ⟨stamp, hkept⟩ := hupdate
        obtain ⟨t, ht⟩ := Store.update_of_find? stamp (hid ▸ hfound)
        rw [ht] at hkept
        obtain ⟨rfl, rfl⟩ := Prod.mk.inj hkept
        exact .inr ⟨seen, now, hfound, .inr ⟨made, stamp, hchange, rfl,
          Store.replaces_of_update ht⟩⟩

/-- **A patch touches what it names.** At every store, an amendment by a patch comes to an end. It
fails because the rule is not stored, or because the patch is not valid, and then the store is left
as it was. Otherwise the rule has what the patch gives and is as it was in all else; it is stored in
the place of the old one, and no other rule and no audit entry is changed. -/
theorem patch_touches_named {patch : Members} (hp : Amendment.decode (.object patch) = .ok a)
    (id : RuleId) (store : Store) :
    (∃ es result after, Amends id a store es result after) ∧
    ∀ es result after, Amends id a store es result after →
      (∀ f, result = .error f → after = store ∧
        ((store.find? id = none ∧ f = id.notStored ∧ f.kind = .notFound) ∨
        (∃ old, store.find? id = some old) ∧ ¬ Patch.Valid patch ∧ f.kind = .validation)) ∧
      (∀ r, result = .ok r → ∃ old, store.find? id = some old ∧ Patch.Valid patch ∧
        Patch.Amended patch old r ∧ r.id = id ∧ store.Replaces r after) := by
  refine ⟨exists_amends id a store, fun es result after h => ?_⟩
  obtain ⟨rfl, hformed⟩ := Amendment.decode_object hp
  rcases h.outcome with ⟨hnone, rfl, rfl⟩ |
    ⟨old, now, hfound, ⟨f, hf, rfl, rfl⟩ | ⟨r, stamp, hr, rfl, hplace⟩⟩
  · refine ⟨fun f hf => ?_, fun r hr => ?_⟩
    · cases hf
      exact ⟨rfl, .inl ⟨hnone, rfl, rfl⟩⟩
    · cases hr
  · have hnot : ¬ Patch.Valid patch := by
      rw [← Amendment.changes_iff hformed old now, hf]
      rintro ⟨r, hr⟩
      cases hr
    refine ⟨fun g hg => ?_, fun r hr => ?_⟩
    · cases hg
      exact ⟨rfl, .inr ⟨⟨old, hfound⟩, hnot, Amendment.change_failsAsInvalid _ _ _ f hf⟩⟩
    · cases hr
  · have hvalid := (Amendment.changes_iff hformed old now).1 ⟨r, hr⟩
    have hamended := (Amendment.amended_of_change hformed hr).stamped stamp
    refine ⟨fun f hf => ?_, fun x hx => ?_⟩
    · cases hf
    · cases hx
      exact ⟨old, hfound, hvalid, hamended, hamended.id.trans (Store.id_of_find? hfound), hplace⟩

/-- Clears the description and gives a condition; the name is mentioned and left. -/
def clearing : Members :=
  [("conditions", .object [("inbound", .bool true)]), ("description", .null), ("name", .null)]

theorem clearing_valid : Patch.Valid clearing where
  name := trivial
  conditions := show Submission.IsConditions (.object [("inbound", .bool true)]) from
    (Submission.isConditions_iff _).2 ⟨_, rfl, rfl⟩
  action := trivial

def storeOfTwo : Store where
  rules := storeOfOne.rules ++
    [⟨.ofNat 2, ⟨"Old", by decide⟩, some "From before", .none, .ban none, true, ⟨0⟩, ⟨0⟩⟩]
  entries := []

theorem patch_touches_named_clearing :
    ∃ a, Amendment.decode (.object clearing) = .ok a ∧
      ∃ es r after, Amends (.ofNat 2) a storeOfTwo es (.ok r) after ∧ r.description = none ∧
        r.name.text = "Old" ∧ r.action = .ban none ∧ after.find? (.ofNat 2) = some r ∧
        after.rules[0]? = storeOfTwo.rules[0]? := by
  refine ⟨_, rfl, ?_⟩
  obtain ⟨⟨es, result, after, h⟩, hall⟩ :=
    @patch_touches_named _ clearing rfl (.ofNat 2) storeOfTwo
  obtain ⟨hfails, hsucceeds⟩ := hall es result after h
  cases result with
  | error f =>
    obtain ⟨-, ⟨hnone, -⟩ | ⟨-, hnot, -⟩⟩ := hfails f rfl
    · cases hnone
    · exact absurd clearing_valid hnot
  | ok r =>
    obtain ⟨old, hold, -, hamended, hid, hplace⟩ := hsucceeds r rfl
    cases hold
    refine ⟨es, r, after, h, ?_, congrArg Name.text hamended.name, hamended.action, ?_, ?_⟩
    · obtain ⟨text, htext, htrims⟩ := hamended.description
      cases text with
      | none =>
        generalize r.description = d at htrims
        cases htrims
        rfl
      | some text => cases htext
    · rw [← hid]
      exact hplace.found
    · exact hplace.others 0 _ rfl (by rw [hid]; decide)

end Service

end PeerRules
