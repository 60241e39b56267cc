import PeerRules.Condition.Matching
import PeerRules.Proofs.Acceptance

/-!
# Stored forms

Conditions and actions are stored as documents, and loaded from documents again. Loading is the
wider of the two: it takes operators and actions that are not known. What comes back unchanged can
be said without storing anything (`Storable`): an operator that is not known must not be called like
one that is, and a value to equal must not be an object, which would list comparisons.

A document keeps the members of an object by key. `collected` puts the parts of conditions into such
an object one after another, where a later part would push out an earlier one with its key; nothing
is pushed out of what was loaded.

* `ofList_of_ordered`: members that are in order stay as they are when they are put in one by one.
* `Conditions.ofValue_toValue_iff`, `Action.ofValue_toValue_iff`: what comes back unchanged.
* `Action.storable_of_ofValue`: whatever was loaded comes back unchanged.
* `reloaded_alike`: storing and loading conditions and actions, all together.
-/
namespace PeerRules

open Json

theorem map_eq_self_iff {α : Type} {f : α → α} {as : List α} :
    as.map f = as ↔ ∀ a ∈ as, f a = a := by
  simpa using List.map_inj_left (l := as) (f := f) (g := id)

/-! ## Members in order -/

namespace Json

/-- Every object in the document lists its members by key, each key once. -/
inductive Value.Ordered : Value → Prop where
  | null : Ordered .null
  | bool (b : Bool) : Ordered (.bool b)
  | number (n : Number) : Ordered (.number n)
  | string (s : String) : Ordered (.string s)
  | array {items : List Value} (h : ∀ v ∈ items, Ordered v) : Ordered (.array items)
  | object {members : Members} (hkeys : members.Pairwise fun a b => a.1 < b.1)
      (h : ∀ m ∈ members, Ordered m.2) : Ordered (.object members)

namespace Members

theorem insert_behind {key : String} {members : Members} (h : ∀ m ∈ members, m.1 < key)
    (value : Value) : insert key value members = members ++ [(key, value)] := by
  induction members with
  | nil => rfl
  | cons m rest ih =>
    obtain ⟨hm, hrest⟩ := List.forall_mem_cons.1 h
    have hne : key ≠ m.1 := by
      rintro rfl
      exact String.lt_irrefl _ hm
    rw [insert, if_neg (String.lt_asymm hm), if_neg hne, ih hrest]
    rfl

/-- Members in order are put behind those in front of them; the induction is over the former. -/
theorem foldl_insert {front back : Members} (h : (front ++ back).Pairwise fun a b => a.1 < b.1) :
    back.foldl (fun members (key, value) => insert key value members) front = front ++ back := by
  induction back generalizing front with
  | nil => simp
  | cons m back ih =>
    have hfront : ∀ a ∈ front, a.1 < m.1 := fun a ha =>
      (List.pairwise_append.1 h).2.2 a ha m List.mem_cons_self
    change back.foldl _ (insert m.1 m.2 front) = _
    rw [insert_behind hfront, ih (by simpa using h), List.append_assoc]
    rfl

theorem ofList_of_ordered {members : Members} (h : members.Pairwise fun a b => a.1 < b.1) :
    ofList members = members := @foldl_insert [] members h

end Members

end Json

/-! ## Conditions -/

namespace Condition

/-- The comparison is loaded as itself: an operator that is not known is not called like one. -/
def Comparison.Storable : Comparison → Prop
  | .known _ _ => True
  | .unknown name _ => Operator.ofName? name = none

theorem Comparison.ofMember_eq_iff (c : Comparison) :
    ofMember (c.name, c.operand) = c ↔ c.Storable := by
  cases c with
  | known o v => simp [ofMember, name, operand, Operator.ofName?_name, Storable]
  | unknown n v =>
    simp only [ofMember, name, operand, Storable]
    cases Operator.ofName? n <;> simp

/-- The specification is loaded as itself. -/
def Spec.Storable : Spec → Prop
  | .equals v => v.members? = none
  | .comparisons list => ∀ c ∈ list, c.Storable

theorem Spec.ofValue_toValue_iff (s : Spec) : ofValue s.toValue = s ↔ s.Storable := by
  cases s with
  | equals v => cases v <;> simp [toValue, ofValue, Storable, Value.members?]
  | comparisons list =>
    simp only [toValue, ofValue, List.map_map, Function.comp_def, Spec.comparisons.injEq,
      map_eq_self_iff, Comparison.ofMember_eq_iff, Storable]

def Spec.collected : Spec → Value
  | .equals v => v
  | .comparisons list => .object (Members.ofList (list.map fun c => (c.name, c.operand)))

theorem Spec.collected_ofValue {v : Value} (h : v.Ordered) : (ofValue v).collected = v := by
  have hstored := toValue_ofValue v
  cases h with
  | object hkeys _ =>
    rw [ofValue, toValue] at hstored
    rw [ofValue, collected, Value.object.inj hstored, Members.ofList_of_ordered hkeys]
  | null | bool | number | string | array => rfl

end Condition

namespace Conditions

open Condition

def Storable (c : Conditions) : Prop := ∀ f ∈ c.clauses, f.spec.Storable

theorem ofValue_toValue_iff (c : Conditions) : ofValue c.toValue = .ok c ↔ c.Storable := by
  obtain ⟨clauses⟩ := c
  have hclause : ∀ f : Clause, Clause.mk f.path (Spec.ofValue f.spec.toValue) = f ↔
      f.spec.Storable := by
    rintro ⟨path, spec⟩
    rw [← Spec.ofValue_toValue_iff]
    simp
  simp only [toValue, ofValue, List.map_map, Function.comp_def, Except.ok.injEq,
    Conditions.mk.injEq, map_eq_self_iff, hclause, Storable]

theorem storable_of_ofValue {v : Value} {c : Conditions} (h : ofValue v = .ok c) : c.Storable :=
  (ofValue_toValue_iff c).1 (ofValue_toValue h)

/-- Conditions as an object takes them in. -/
def collected (c : Conditions) : Value :=
  .object (Members.ofList (c.clauses.map fun f => (f.path, f.spec.collected)))

theorem collected_of_ordered {members : Members} {c : Conditions}
    (h : (Value.object members).Ordered) (hc : ofValue (.object members) = .ok c) :
    c.collected = .object members := by
  cases hc
  cases h with
  | object hkeys hvalues =>
    have hmap : members.map (fun m => (m.1, (Spec.ofValue m.2).collected)) = members :=
      map_eq_self_iff.2 fun m hm => by rw [Spec.collected_ofValue (hvalues m hm)]
    rw [collected, List.map_map]
    exact congrArg Value.object ((congrArg Members.ofList hmap).trans
      (Members.ofList_of_ordered hkeys))

end Conditions

/-! ## Actions -/

namespace Action

open Rule.Submission

def Storable : Action → Prop
  | .ban none | .disconnect => True
  | .ban (some seconds) => 0 < seconds.toNat
  | .unsupported name => name ≠ "ban" ∧ name ≠ "disconnect"

theorem ofValue_toValue_iff (a : Action) : ofValue a.toValue = .ok a ↔ a.Storable := by
  cases a with
  | ban time =>
    cases time with
    | none => exact iff_of_true rfl trivial
    | some seconds =>
      have hload : ofValue (toValue (.ban (some seconds))) =
          (parseBanTime (some (.ofNat seconds.toNat))).map .ban := by
        simp [toValue, ofValue, name, Members.find?, ofName]
      have htime : parseBanTime (some (.ofNat seconds.toNat)) = .ok (some seconds) ↔
          0 < seconds.toNat := parseBanTime_some_iff.trans (and_iff_right rfl)
      rw [hload, Storable, ← htime]
      cases parseBanTime (some (.ofNat seconds.toNat)) <;> simp [Except.map]
  | disconnect => exact iff_of_true ofValue_toValue_disconnect trivial
  | unsupported n =>
    constructor
    · intro h
      simp only [toValue, ofValue, name, Members.find?, if_true, ofName] at h
      constructor
      · rintro rfl
        cases h
      · rintro rfl
        cases h
    · rintro ⟨hb, hd⟩
      exact ofValue_toValue_unsupported hb hd

theorem storable_of_ofName {name : String} {members : Members} {a : Action}
    (h : ofName name members = .ok a) : a.Storable := by
  unfold ofName at h
  split at h
  · cases hp : parseBanTime (members.find? "banTime") with
    | error f =>
      rw [hp] at h
      cases h
    | ok time =>
      rw [hp] at h
      cases h
      cases time with
      | none => trivial
      | some seconds => exact (parseBanTime_some_iff.1 hp).2
  · next hb =>
    split at h
    · cases h
      trivial
    · next hd =>
      cases h
      exact ⟨hb, hd⟩

theorem storable_of_ofValue {v : Value} {a : Action} (h : ofValue v = .ok a) : a.Storable := by
  unfold ofValue at h
  split at h
  · split at h
    · exact storable_of_ofName h
    · cases h
  · cases h

end Action

/-! ## Storing and loading -/

/-- **Stored and loaded.** An object of conditions is loaded, whatever it holds, and is the stored
form of what was loaded; an object that takes the parts in one after another loses none. What was
loaded comes back as it was, and so it is checked and met as before. No conditions are stored as an
empty object. An action that was loaded comes back as it was, too. -/
theorem reloaded_alike :
    (∀ members, ∃ c, Conditions.ofValue (.object members) = .ok c ∧ c.toValue = .object members ∧
      ((Value.object members).Ordered → c.collected = .object members)) ∧
    (∀ v c, Conditions.ofValue v = .ok c →
      Conditions.ofValue c.toValue = .ok c ∧
      (Conditions.ofValue c.toValue).bind Conditions.validate = c.validate ∧
      ∀ p : Peer, (Conditions.ofValue c.toValue).map (·.meets p) = .ok (c.meets p)) ∧
    (∃ c, Conditions.ofValue .null = .ok c ∧ c.toValue = .object []) ∧
    ∀ v a, Action.ofValue v = .ok a →
      Action.ofValue a.toValue = .ok a ∧
      (Action.ofValue a.toValue).map Action.name = .ok a.name ∧
      (Action.ofValue a.toValue).map Action.banSeconds? = .ok a.banSeconds? ∧
      (Action.ofValue a.toValue).bind Action.validate = a.validate := by
  refine ⟨fun members => ?_, fun v c hc => ?_, ⟨.none, rfl, rfl⟩, fun v a ha => ?_⟩
  · obtain ⟨c, hc, hv⟩ := Conditions.toValue_ofValue_object members
    exact ⟨c, hc, hv, fun hordered => Conditions.collected_of_ordered hordered hc⟩
  · have hback := (Conditions.ofValue_toValue_iff c).2 (Conditions.storable_of_ofValue hc)
    rw [hback]
    exact ⟨rfl, rfl, fun p => rfl⟩
  · have hback := (Action.ofValue_toValue_iff a).2 (Action.storable_of_ofValue ha)
    rw [hback]
    exact ⟨rfl, rfl, rfl, rfl⟩

def oldConditions : Members :=
  [("geo.country", .string "CN"),
    ("pingtime", .object [("between", .array [.ofNat 1, .ofNat 2]), ("gt", .ofNat 0)])]

theorem oldConditions_ordered : (Value.object oldConditions).Ordered := by
  refine .object (by decide) (List.forall_mem_cons.2 ⟨.string _, List.forall_mem_cons.2 ⟨?_, ?_⟩⟩)
  · refine .object (by decide) (List.forall_mem_cons.2 ⟨.array ?_, List.forall_mem_cons.2 ⟨?_, ?_⟩⟩)
    · exact List.forall_mem_cons.2 ⟨.number _, List.forall_mem_cons.2 ⟨.number _, by simp⟩⟩
    · exact .number _
    · simp
  · simp

def oldAction : Value := .object [("action", .string "quarantine"), ("banTime", .string "soon")]

theorem reloaded_alike_old :
    (Value.object oldConditions).Ordered ∧
    (∃ c, Conditions.ofValue (.object oldConditions) = .ok c ∧ c.collected = .object oldConditions ∧
      Conditions.ofValue c.toValue = .ok c) ∧
    Action.ofValue oldAction = .ok (.unsupported "quarantine") ∧
    Action.ofValue (Action.toValue (.unsupported "quarantine")) =
      .ok (.unsupported "quarantine") := by
  obtain ⟨hobject, hloaded, -, haction⟩ := reloaded_alike
  obtain ⟨c, hc, -, hcollected⟩ := hobject oldConditions
  have hold : Action.ofValue oldAction = .ok (.unsupported "quarantine") := by rfl
  exact ⟨oldConditions_ordered, ⟨c, hc, hcollected oldConditions_ordered, (hloaded _ c hc).1⟩, hold,
    (haction _ _ hold).1⟩

end PeerRules
