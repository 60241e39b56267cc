import PeerRules.Proofs.Courses
import PeerRules.Service
import PeerRules.Store

/-!
# What can be created

A submission passes several checks before it is stored: its conditions and its action are loaded,
then the conditions, the action and the name are checked. `Admissible` says which submissions there
are to pass, by what they look like and without the checks, and `Fulfils` says which rule a
submission asks for.

* `flaw?_ofMember_iff`, `flaw?_ofValue_iff`, `orders_iff`: one check each.
* `rule_isOk_iff`: the checks together pass exactly what is admissible.
* `creation_accepts`: what a creation answers, and what it leaves in the store.
-/
namespace PeerRules

theorem bind_eq_ok_iff {ε α β : Type} {x : Except ε α} {f : α → Except ε β} {b : β} :
    (x >>= f) = .ok b ↔ ∃ a, x = .ok a ∧ f a = .ok b := by
  cases x with
  | error e => simp [bind, Except.bind]
  | ok a => simp [bind, Except.bind]

/-- A list fails as the first of its items that fails. -/
theorem first_of_mapM {ε α β : Type} {g : α → Except ε β} {items : List α} {e : ε}
    (h : items.mapM g = .error e) : ∃ front a back, items = front ++ a :: back ∧
      (∀ x ∈ front, ∃ b, g x = .ok b) ∧ g a = .error e := by
  induction items with
  | nil => cases h
  | cons a items ih =>
    rw [List.mapM_cons] at h
    cases ha : g a with
    | error e' =>
      rw [ha] at h
      cases h
      exact ⟨[], a, items, rfl, (fun x hx => by cases hx), ha⟩
    | ok b =>
      rw [ha] at h
      cases hitems : items.mapM g with
      | ok rest =>
        rw [hitems] at h
        cases h
      | error e' =>
        rw [hitems] at h
        cases h
        obtain ⟨front, bad, back, hsplit, hfront, hbad⟩ := ih hitems
        refine ⟨a :: front, bad, back, congrArg (a :: ·) hsplit, ?_, hbad⟩
        exact List.forall_mem_cons.2 ⟨⟨b, ha⟩, hfront⟩

end PeerRules

namespace PeerRules.Rule.Submission

open Json Condition

/-! ## What a submission may look like -/

/-- Some character is not blank. -/
def Says (cs : List Char) : Prop := ∃ c ∈ cs, Text.isBlank c = false

/-- A dotted path, every segment of which says something. -/
def IsPath (path : String) : Prop := ∀ segment ∈ path.toList.splitOn '.', Says segment

/-- One of the ten operators, with an operand that it takes. -/
def Compares (m : String × Value) : Prop :=
  m.1 ∈ ["eq", "neq"] ∨
  (m.1 ∈ ["gt", "gte", "lt", "lte"] ∧ ∃ n, m.2 = .number n) ∨
  (m.1 ∈ ["contains", "startsWith", "endsWith"] ∧ ∃ s, m.2 = .string s) ∨
  (m.1 = "in" ∧ ∃ items, m.2 = .array items)

/-- A value to equal, or comparisons and at least one. -/
def Asks : Value → Prop
  | .object members => members ≠ [] ∧ ∀ m ∈ members, Compares m
  | _ => True

/-- No conditions, or an object of them by path. -/
def IsConditions : Value → Prop
  | .null => True
  | .object members => ∀ m ∈ members, IsPath m.1 ∧ Asks m.2
  | _ => False

/-- The object orders the action. The time of a ban is left out, `null`, or a whole number of
seconds, at least one and as many as 64 bits hold. -/
inductive Orders : Value → Action → Prop where
  | disconnect {members : Members}
      (ha : Members.find? "action" members = some (.string "disconnect")) :
      Orders (.object members) .disconnect
  | ban {members : Members} (ha : Members.find? "action" members = some (.string "ban"))
      (ht : Members.find? "banTime" members = none ∨
        Members.find? "banTime" members = some .null) :
      Orders (.object members) (.ban none)
  | banFor {members : Members} {seconds : UInt64}
      (ha : Members.find? "action" members = some (.string "ban"))
      (ht : Members.find? "banTime" members = some (.number (.int seconds.toNat)))
      (hpos : 0 < seconds.toNat) : Orders (.object members) (.ban (some seconds))

/-- What can be created. -/
structure Admissible (s : Submission) : Prop where
  name : Says s.name.toList
  conditions : IsConditions s.conditions
  action : ∃ a, Orders s.actions a

/-- The first character is there and is not blank. -/
def BeginsWithText (cs : List Char) : Prop := ∃ c, cs.head? = some c ∧ Text.isBlank c = false

/-- The text without its blanks at either end, if anything is left. -/
inductive Trims : Option String → Option String → Prop where
  | absent : Trims none none
  | blank {text : String} (h : ¬ Says text.toList) : Trims (some text) none
  | text {text kept : String} {front back : List Char}
      (h : text.toList = front ++ kept.toList ++ back) (hf : ¬ Says front) (hb : ¬ Says back)
      (hfirst : BeginsWithText kept.toList) (hlast : BeginsWithText kept.toList.reverse) :
      Trims (some text) (some kept)

/-- The stored form of the conditions that were handed in: `null` is stored as no conditions. -/
def storedConditions : Value → Value
  | .null => .object []
  | v => v

/-- The rule is the one that the submission asks for. -/
structure Fulfils (s : Submission) (r : Rule) : Prop where
  name : r.name.text = s.name
  description : Trims s.description r.description
  conditions : r.conditions.toValue = storedConditions s.conditions
  action : Orders s.actions r.action
  isActive : r.isActive = s.isActive

/-! ## Texts -/

theorem not_says_iff (cs : List Char) : ¬ Says cs ↔ cs.all Text.isBlank = true := by
  simp [Says]

theorem says_iff (s : String) : Says s.toList ↔ Text.allBlank s = false := by
  simp [Says, Text.allBlank]

theorem splitAt_eq_splitOn (separator : Char) (cs : List Char) :
    splitAt separator cs = cs.splitOn separator := by
  induction cs with
  | nil => rfl
  | cons c cs ih =>
    rw [List.splitOn, List.splitOnP_cons_eq_if_modifyHead, ← List.splitOn, splitAt, ih]
    by_cases hc : c = separator
    · simp [hc]
    · have hb : (c == separator) = false := by simpa using hc
      rw [if_neg hc, hb]
      cases hs : cs.splitOn separator with
      | nil => exact absurd hs (List.splitOnP_ne_nil _ cs)
      | cons s rest => rfl

theorem isPath_iff (path : String) :
    IsPath path ↔ (segments path).any Text.allBlank = false := by
  simp [IsPath, segments, splitAt_eq_splitOn, Text.allBlank, Says]

/-! ## Conditions -/

theorem admits_iff (o : Operator) (v : Value) :
    o.operand.admits v = true ↔ Compares (o.name, v) := by
  cases o <;> cases v <;>
    simp [Compares, Operator.operand, Operator.name, Operator.Operand.admits, Value.number?,
      Value.text?, Value.items?]

theorem exists_operator {m : String × Value} (h : Compares m) : ∃ o : Operator, o.name = m.1 := by
  simp only [Compares, List.mem_cons, List.not_mem_nil, or_false] at h
  rcases h with (h | h) | ⟨h | h | h | h, -⟩ | ⟨h | h | h, -⟩ | ⟨h, -⟩ <;> rw [h]
  · exact ⟨.eq, rfl⟩
  · exact ⟨.neq, rfl⟩
  · exact ⟨.gt, rfl⟩
  · exact ⟨.gte, rfl⟩
  · exact ⟨.lt, rfl⟩
  · exact ⟨.lte, rfl⟩
  · exact ⟨.contains, rfl⟩
  · exact ⟨.startsWith, rfl⟩
  · exact ⟨.endsWith, rfl⟩
  · exact ⟨.isIn, rfl⟩

/-- A member of an operator object passes exactly when its operator is one of the ten and takes the
operand. -/
theorem flaw?_ofMember_iff (m : String × Value) :
    (Comparison.ofMember m).flaw? = none ↔ Compares m := by
  unfold Comparison.ofMember
  split
  · next o ho =>
    have hm : m = (o.name, m.2) := by rw [Operator.name_of_ofName? ho]
    rw [hm, ← admits_iff]
    simp [Comparison.flaw?]
  · next hnone =>
    refine iff_of_false (by simp [Comparison.flaw?]) fun h => ?_
    obtain ⟨o, ho⟩ := exists_operator h
    rw [← ho, Operator.ofName?_name] at hnone
    cases hnone

/-- A clause passes exactly when its path and what it asks for do. -/
theorem flaw?_ofValue_iff (path : String) (v : Value) :
    (Clause.mk path (Spec.ofValue v)).flaw? = none ↔ IsPath path ∧ Asks v := by
  rw [isPath_iff]
  unfold Clause.flaw?
  cases hp : (segments path).any Text.allBlank with
  | true => simp
  | false =>
    cases v with
    | object members =>
      cases members with
      | nil => simp [Spec.ofValue, Asks]
      | cons m rest =>
        simp only [Spec.ofValue, Asks, List.map_cons, Bool.false_eq_true, if_false, true_and]
        rw [← List.map_cons, List.findSome?_eq_none_iff, List.forall_mem_map]
        simp only [flaw?_ofMember_iff, ne_eq, reduceCtorEq, not_false_eq_true, true_and]
    | null | bool | number | string | array => simp [Spec.ofValue, Asks]

theorem validate_eq_ok_iff (c : Conditions) :
    c.validate = .ok () ↔ ∀ f ∈ c.clauses, f.flaw? = none := by
  have h : (c.clauses.findSome? fun f => f.flaw?.map (Flaw.message f.path)) = none ↔
      ∀ f ∈ c.clauses, f.flaw? = none := by simp [List.findSome?_eq_none_iff]
  rw [← h]
  unfold Conditions.validate
  cases c.clauses.findSome? fun f => f.flaw?.map (Flaw.message f.path) <;> simp

theorem isConditions_iff (v : Value) :
    IsConditions v ↔ ∃ c, Conditions.ofValue v = .ok c ∧ c.validate = .ok () := by
  cases v with
  | null => exact iff_of_true trivial ⟨_, rfl, rfl⟩
  | object members =>
    simp only [IsConditions, Conditions.ofValue, Except.ok.injEq, exists_eq_left',
      validate_eq_ok_iff, List.forall_mem_map, flaw?_ofValue_iff]
  | bool | number | string | array => simp [IsConditions, Conditions.ofValue]

theorem toValue_ofValue_eq {v : Value} {c : Conditions} (h : Conditions.ofValue v = .ok c) :
    c.toValue = storedConditions v := by
  cases v with
  | null =>
    cases h
    rfl
  | object members =>
    obtain ⟨d, hd, hv⟩ := Conditions.toValue_ofValue_object members
    obtain rfl : c = d := Except.ok.inj (h.symm.trans hd)
    exact hv
  | bool | number | string | array => cases h

/-! ## Actions -/

theorem natural?_eq_some_iff {v : Value} {n : Nat} :
    v.natural? = some n ↔ v = .number (.int n) ∧ n < UInt64.size := by
  have hmax : (Text.Numeral.maxUnsigned : Int) + 1 = UInt64.size := by decide
  unfold Value.natural?
  split
  · next i =>
    simp only [Value.number.injEq, Number.int.injEq]
    split
    · next hi =>
      rw [Option.some.injEq]
      omega
    · next hi =>
      refine iff_of_false (by simp) ?_
      omega
  · next h =>
    refine iff_of_false (by simp) ?_
    rintro ⟨rfl, -⟩
    exact h _ rfl

theorem parseBanTime_none_iff {time : Option Value} :
    Action.parseBanTime time = .ok none ↔ time = none ∨ time = some .null := by
  unfold Action.parseBanTime
  split
  · simp
  · simp
  · next v hnull =>
    refine iff_of_false ?_ (by simpa using hnull)
    split <;> simp

theorem parseBanTime_some_iff {time : Option Value} {seconds : UInt64} :
    Action.parseBanTime time = .ok (some seconds) ↔
      time = some (.number (.int seconds.toNat)) ∧ 0 < seconds.toNat := by
  unfold Action.parseBanTime
  split
  · simp
  · simp
  · next v hnull =>
    constructor
    · intro h
      split at h
      · next n hn =>
        obtain ⟨rfl, hlt⟩ := natural?_eq_some_iff.1 hn
        obtain rfl : UInt64.ofNat (n + 1) = seconds := Option.some.inj (Except.ok.inj h)
        have hs : (UInt64.ofNat (n + 1)).toNat = n + 1 := UInt64.toNat_ofNat_of_lt hlt
        rw [hs]
        exact ⟨rfl, Nat.succ_pos n⟩
      · cases h
    · rintro ⟨hv, hpos⟩
      have hn : v.natural? = some seconds.toNat :=
        natural?_eq_some_iff.2 ⟨Option.some.inj hv, seconds.toNat_lt⟩
      obtain ⟨k, hk⟩ : ∃ k, seconds.toNat = k + 1 := ⟨seconds.toNat - 1, by omega⟩
      rw [hn, hk]
      simp only [← hk, UInt64.ofNat_toNat]

/-- An action is loaded and passes exactly when the document orders it. -/
theorem orders_iff {v : Value} {a : Action} :
    Orders v a ↔ Action.ofValue v = .ok a ∧ a.validate = .ok () := by
  constructor
  · intro h
    cases h with
    | disconnect ha => exact ⟨by simp [Action.ofValue, ha, Action.ofName], rfl⟩
    | ban ha ht =>
      have hp := parseBanTime_none_iff.2 ht
      exact ⟨by simp [Action.ofValue, ha, Action.ofName, hp, Except.map], rfl⟩
    | banFor ha ht hpos =>
      have hp := parseBanTime_some_iff.2 ⟨ht, hpos⟩
      exact ⟨by simp [Action.ofValue, ha, Action.ofName, hp, Except.map], rfl⟩
  · rintro ⟨hv, hok⟩
    unfold Action.ofValue at hv
    split at hv
    · next members =>
      split at hv
      · next name ha =>
        unfold Action.ofName at hv
        split at hv
        · next hban =>
          subst hban
          cases hp : Action.parseBanTime (Members.find? "banTime" members) with
          | error f =>
            rw [hp] at hv
            cases hv
          | ok time =>
            rw [hp] at hv
            obtain rfl : Action.ban time = a := Except.ok.inj hv
            cases time with
            | none => exact .ban ha (parseBanTime_none_iff.1 hp)
            | some seconds =>
              obtain ⟨ht, hpos⟩ := parseBanTime_some_iff.1 hp
              exact .banFor ha ht hpos
        · split at hv
          · next hdisconnect =>
            subst hdisconnect
            cases hv
            exact .disconnect ha
          · cases hv
            cases hok
      · cases hv
    · cases hv

/-! ## Descriptions -/

theorem beginsWithText_dropWhile {cs : List Char} (h : Says cs) :
    BeginsWithText (cs.dropWhile Text.isBlank) := by
  induction cs with
  | nil =>
    obtain ⟨c, hc, -⟩ := h
    cases hc
  | cons c cs ih =>
    cases hb : Text.isBlank c with
    | false => exact ⟨c, by simp [hb], hb⟩
    | true =>
      rw [List.dropWhile_cons_of_pos hb]
      obtain ⟨d, hd, hsays⟩ := h
      rcases List.mem_cons.1 hd with rfl | hd
      · rw [hb] at hsays
        cases hsays
      · exact ih ⟨d, hd, hsays⟩

/-- What is trimmed off is blank, and what is left begins and ends with a character that is not. -/
theorem trimList_parts {cs : List Char} (h : Says cs) :
    ∃ front back, cs = front ++ Text.trimList cs ++ back ∧ ¬ Says front ∧ ¬ Says back ∧
      BeginsWithText (Text.trimList cs) ∧ BeginsWithText (Text.trimList cs).reverse := by
  obtain ⟨c, hc, hb⟩ := beginsWithText_dropWhile h
  have hback : Text.trimList cs ++ ((cs.dropWhile Text.isBlank).reverse.takeWhile
      Text.isBlank).reverse = cs.dropWhile Text.isBlank := by
    rw [Text.trimList, ← List.reverse_append, List.takeWhile_append_dropWhile,
      List.reverse_reverse]
  have hlast : BeginsWithText (Text.trimList cs).reverse := by
    rw [Text.trimList, List.reverse_reverse]
    exact beginsWithText_dropWhile ⟨c, List.mem_reverse.2 (List.mem_of_head? hc), hb⟩
  -- Something is left, so its first character is the first that was not trimmed off in front.
  have hfirst : BeginsWithText (Text.trimList cs) := by
    cases hk : Text.trimList cs with
    | nil =>
      rw [hk] at hlast
      obtain ⟨_, hnil, _⟩ := hlast
      cases hnil
    | cons k kept =>
      rw [← hback, hk] at hc
      exact ⟨c, hc, hb⟩
  refine ⟨cs.takeWhile Text.isBlank,
    ((cs.dropWhile Text.isBlank).reverse.takeWhile Text.isBlank).reverse, ?_, ?_, ?_, hfirst, hlast⟩
  · rw [List.append_assoc, hback, List.takeWhile_append_dropWhile]
  · rw [not_says_iff]
    exact List.all_takeWhile
  · rw [not_says_iff, List.all_reverse]
    exact List.all_takeWhile

theorem trims_normalize (description : Option String) :
    Trims description (normalize description) := by
  cases description with
  | none => exact .absent
  | some text =>
    simp only [normalize, Option.bind_some, Text.trimmed?]
    split
    · next h => exact .blank (by rw [says_iff, h]; decide)
    · next h =>
      obtain ⟨front, back, hcs, hf, hb, hfirst, hlast⟩ :=
        trimList_parts ((says_iff text).2 (by simpa using h))
      exact .text (by simpa [Text.trim] using hcs) hf hb (by simpa [Text.trim] using hfirst)
        (by simpa [Text.trim] using hlast)

/-! ## All checks -/

variable {s : Submission} {id : RuleId} {now : Instant} {r : Rule} {f : Fault}

def rule (s : Submission) (id : RuleId) (now : Instant) : Except Fault Rule :=
  s.draft.bind (make id now)

theorem draft_eq_ok_iff {d : Draft} :
    s.draft = .ok d ↔ ∃ c a, Conditions.ofValue s.conditions = .ok c ∧
      Action.ofValue s.actions = .ok a ∧ d = ⟨s.name, s.description, c, a, s.isActive⟩ := by
  unfold draft
  cases Conditions.ofValue s.conditions with
  | error f => simp [bind, Except.bind]
  | ok c =>
    cases Action.ofValue s.actions with
    | error f => simp [bind, Except.bind]
    | ok a => simp [bind, Except.bind, pure, Except.pure, eq_comm]

theorem make_eq_ok_iff {d : Draft} :
    make id now d = .ok r ↔ d.conditions.validate = .ok () ∧ d.action.validate = .ok () ∧
      ∃ name : Name, name.text = d.name ∧ r = ⟨id, name, normalize d.description, d.conditions,
        d.action, d.isActive, now, now⟩ := by
  unfold make restore
  cases d.conditions.validate with
  | error f => simp [bind, Except.bind]
  | ok _ =>
    cases d.action.validate with
    | error f => simp [bind, Except.bind]
    | ok _ =>
      simp only [bind, Except.bind, ← Name.ofText_eq_ok_iff]
      cases Name.ofText d.name with
      | error f => simp
      | ok name => simp [pure, Except.pure, eq_comm]

theorem rule_eq_ok_iff :
    s.rule id now = .ok r ↔ ∃ c a, Conditions.ofValue s.conditions = .ok c ∧ c.validate = .ok () ∧
      Action.ofValue s.actions = .ok a ∧ a.validate = .ok () ∧ ∃ name : Name, name.text = s.name ∧
        r = ⟨id, name, normalize s.description, c, a, s.isActive, now, now⟩ := by
  unfold rule
  constructor
  · intro h
    cases hd : s.draft with
    | error f =>
      rw [hd] at h
      cases h
    | ok d =>
      rw [hd] at h
      obtain ⟨c, a, hc, ha, rfl⟩ := draft_eq_ok_iff.1 hd
      obtain ⟨hvc, hva, name, hname, rfl⟩ := make_eq_ok_iff.1 h
      exact ⟨c, a, hc, hvc, ha, hva, name, hname, rfl⟩
  · rintro ⟨c, a, hc, hvc, ha, hva, name, hname, rfl⟩
    rw [draft_eq_ok_iff.2 ⟨c, a, hc, ha, rfl⟩]
    exact make_eq_ok_iff.2 ⟨hvc, hva, name, hname, rfl⟩

/-- The checks pass exactly what is admissible. -/
theorem rule_isOk_iff (id : RuleId) (now : Instant) :
    (∃ r, s.rule id now = .ok r) ↔ s.Admissible := by
  simp only [rule_eq_ok_iff]
  constructor
  · rintro ⟨r, c, a, hc, hvc, ha, hva, name, hname, rfl⟩
    refine ⟨?_, (isConditions_iff _).2 ⟨c, hc, hvc⟩, a, orders_iff.2 ⟨ha, hva⟩⟩
    rw [says_iff, ← hname]
    exact name.notBlank
  · rintro ⟨hname, hconditions, a, hactions⟩
    obtain ⟨c, hc, hvc⟩ := (isConditions_iff _).1 hconditions
    obtain ⟨ha, hva⟩ := orders_iff.1 hactions
    exact ⟨_, c, a, hc, hvc, ha, hva, ⟨s.name, (says_iff _).1 hname⟩, rfl, rfl⟩

/-- What passes becomes the rule that was asked for. -/
theorem fulfils_of_rule (h : s.rule id now = .ok r) : r.id = id ∧ s.Fulfils r := by
  obtain ⟨c, a, hc, -, ha, hva, name, hname, rfl⟩ := rule_eq_ok_iff.1 h
  exact ⟨rfl, hname, trims_normalize _, toValue_ofValue_eq hc, orders_iff.2 ⟨ha, hva⟩, rfl⟩

theorem Fulfils.stamped (h : s.Fulfils r) (createdAt updatedAt : Instant) :
    s.Fulfils (r.stamped createdAt updatedAt) :=
  ⟨h.name, h.description, h.conditions, h.action, h.isActive⟩

/-! ## Refusals -/

/-- If it fails, then because the input breaks a rule of the domain. -/
def FailsAsInvalid {α : Type} (x : Except Fault α) : Prop :=
  ∀ f, x = .error f → f.kind = .validation

theorem FailsAsInvalid.ok {α : Type} (a : α) : FailsAsInvalid (.ok a) := by
  intro f hf
  cases hf

theorem FailsAsInvalid.validation {α : Type} (text : String) :
    FailsAsInvalid (.error (.validation text) : Except Fault α) := by
  intro f hf
  cases hf
  rfl

theorem FailsAsInvalid.bind {α β : Type} {x : Except Fault α} {g : α → Except Fault β}
    (hx : FailsAsInvalid x) (hg : ∀ a, FailsAsInvalid (g a)) : FailsAsInvalid (x.bind g) := by
  cases x with
  | ok a => exact hg a
  | error f => exact fun _ he => hx _ (by cases he; rfl)

theorem ofValue_failsAsInvalid (v : Value) : FailsAsInvalid (Conditions.ofValue v) := by
  unfold Conditions.ofValue
  split
  · exact .ok _
  · exact .ok _
  · exact .validation _

theorem parseBanTime_failsAsInvalid (time : Option Value) :
    FailsAsInvalid (Action.parseBanTime time) := by
  unfold Action.parseBanTime
  split
  · exact .ok _
  · exact .ok _
  · split
    · exact .ok _
    · exact .validation _

theorem action_failsAsInvalid (v : Value) : FailsAsInvalid (Action.ofValue v) := by
  unfold Action.ofValue
  split
  · split
    · unfold Action.ofName
      split
      · exact .bind (parseBanTime_failsAsInvalid _) fun t => .ok _
      · split
        · exact .ok _
        · exact .ok _
    · exact .validation _
  · exact .validation _

theorem validate_failsAsInvalid (c : Conditions) : FailsAsInvalid c.validate := by
  unfold Conditions.validate
  split
  · exact .validation _
  · exact .ok _

theorem validateAction_failsAsInvalid (a : Action) : FailsAsInvalid a.validate := by
  unfold Action.validate
  split
  · exact .ok _
  · exact .ok _
  · exact .validation _

theorem ofText_failsAsInvalid (text : String) : FailsAsInvalid (Name.ofText text) := by
  unfold Name.ofText
  split
  · exact .ok _
  · exact .validation _

theorem draft_failsAsInvalid (s : Submission) : FailsAsInvalid s.draft :=
  .bind (ofValue_failsAsInvalid _) fun _ => .bind (action_failsAsInvalid _) fun _ => .ok _

theorem rule_failsAsInvalid (s : Submission) (id : RuleId) (now : Instant) :
    FailsAsInvalid (s.rule id now) :=
  .bind (draft_failsAsInvalid s) fun _ => .bind (validate_failsAsInvalid _) fun _ =>
    .bind (validateAction_failsAsInvalid _) fun _ => .bind (ofText_failsAsInvalid _) fun _ => .ok _

end PeerRules.Rule.Submission

namespace PeerRules.Service

open Plan Rule

/-! ## A creation -/

variable {s : Rule.Submission} {store after : Store} {id : RuleId} {now : Instant} {r : Rule}
  {es : List (Exchange Call.signature)} {result : Except Fault Rule}

/-- What is left of a creation when a new rule has been handed to the store. -/
def afterInsert : Except Fault Rule → RulesPlan (Except Fault Rule)
  | .error f => .done (.error f)
  | .ok stored => .call (.log (.ruleCreated stored.id stored.name.text)) fun _ => .done (.ok stored)

/-- What is left of a creation when the checks are over. -/
def afterChecks : Except Fault Rule → RulesPlan (Except Fault Rule)
  | .error f => .done (.error f)
  | .ok rule => .call (.insertRule rule) afterInsert

theorem create_eq {d : Draft} (hd : s.draft = .ok d) :
    create s = .call .now fun now => .call .freshId fun id => afterChecks (s.rule id now) := by
  unfold create Submission.rule
  rw [hd]
  refine congrArg (Plan.call (P := Call.signature) Call.now) (funext fun now => ?_)
  refine congrArg (Plan.call (P := Call.signature) Call.freshId) (funext fun id => ?_)
  refine (done_bind (P := Call.signature) id _).trans ?_
  rw [Except.bind]
  cases make id now d with
  | error f => rfl
  | ok rule =>
    refine congrArg (Plan.call (P := Call.signature) (Call.insertRule rule)) (funext fun r => ?_)
    cases r <;> rfl

def announcing : Except Fault Rule → List (Exchange Call.signature)
  | .error _ => []
  | .ok stored => [⟨.log (.ruleCreated stored.id stored.name.text), ()⟩]

theorem afterInsert_runs_iff {reply : Except Fault Rule} :
    (afterInsert reply).Runs es result ↔ es = announcing reply ∧ result = reply := by
  cases reply with
  | error f =>
    rw [afterInsert, runs_done_iff]
    exact and_congr_right fun _ => eq_comm
  | ok stored =>
    constructor
    · intro h
      obtain ⟨⟨⟩, rest, rfl, hrest⟩ := runs_call_iff.1 h
      obtain ⟨rfl, rfl⟩ := runs_done_iff.1 hrest
      exact ⟨rfl, rfl⟩
    · rintro ⟨rfl, rfl⟩
      exact runs_call_iff.2 ⟨(), [], rfl, .done _⟩

/-- What a creation calls, and what it answers. -/
inductive Course (s : Rule.Submission) :
    List (Exchange Call.signature) → Except Fault Rule → Prop where
  | unread {f : Fault} (h : s.draft = .error f) : Course s [] (.error f)
  | refused {f : Fault} (now : Instant) (id : RuleId) (hd : ∃ d, s.draft = .ok d)
      (h : s.rule id now = .error f) : Course s [⟨.now, now⟩, ⟨.freshId, id⟩] (.error f)
  | handedIn {r : Rule} (now : Instant) (id : RuleId) (h : s.rule id now = .ok r)
      (reply : Except Fault Rule) :
      Course s (⟨.now, now⟩ :: ⟨.freshId, id⟩ :: ⟨.insertRule r, reply⟩ :: announcing reply) reply

theorem create_course (h : (create s).Runs es result) : Course s es result := by
  cases hd : s.draft with
  | error f =>
    unfold create at h
    rw [hd] at h
    obtain ⟨rfl, rfl⟩ := runs_done_iff.1 h
    exact .unread hd
  | ok d =>
    rw [create_eq hd] at h
    obtain ⟨now, _, rfl, h₁⟩ := runs_call_iff.1 h
    obtain ⟨id, _, rfl, h₂⟩ := runs_call_iff.1 h₁
    cases hr : s.rule id now with
    | error f =>
      rw [hr] at h₂
      obtain ⟨rfl, rfl⟩ := runs_done_iff.1 h₂
      exact .refused now id ⟨d, hd⟩ hr
    | ok r =>
      rw [hr] at h₂
      obtain ⟨reply, _, rfl, h₃⟩ := runs_call_iff.1 h₂
      obtain ⟨rfl, rfl⟩ := afterInsert_runs_iff.1 h₃
      exact .handedIn now id hr result

def Draws (id : RuleId) : Exchange Call.signature → Prop
  | ⟨.freshId, drawn⟩ => drawn = id
  | _ => True

/-- A creation at a store, with an identifier that is drawn for it: its calls, its answer and the
store afterwards. -/
structure Creates (s : Rule.Submission) (store : Store) (id : RuleId)
    (es : List (Exchange Call.signature)) (result : Except Fault Rule) (after : Store) : Prop where
  runs : (create s).Runs es result
  serves : Store.party.Serves store es after
  draws : ∀ e ∈ es, Draws id e

/-- The store answers every call, and any identifier can be drawn. -/
theorem exists_answer (store : Store) (id : RuleId) (c : Call.signature.Call) :
    ∃ r t, Store.party.Answers store c r t ∧ Draws id ⟨c, r⟩ := by
  cases c with
  | insertRule rule => exact ⟨_, _, ⟨⟨0⟩, rfl⟩, trivial⟩
  | updateRule rule => exact ⟨_, _, ⟨⟨0⟩, rfl⟩, trivial⟩
  | append entry => exact ⟨_, _, ⟨id, rfl⟩, trivial⟩
  | deleteRule id => exact ⟨_, _, rfl, trivial⟩
  | findRule id => exact ⟨_, _, ⟨rfl, rfl⟩, trivial⟩
  | listRules => exact ⟨_, _, ⟨rfl, rfl⟩, trivial⟩
  | listActive => exact ⟨_, _, ⟨rfl, rfl⟩, trivial⟩
  | listEntries query => exact ⟨_, _, ⟨rfl, rfl⟩, trivial⟩
  | freshId => exact ⟨id, _, rfl, rfl⟩
  | now => exact ⟨(⟨0⟩ : Instant), _, rfl, trivial⟩
  | log event => exact ⟨(), _, rfl, trivial⟩
  | listPeers => exact ⟨Except.ok [], _, rfl, trivial⟩
  | dispatch peer action => exact ⟨Except.ok (.succeeded ""), _, rfl, trivial⟩
  | control order limit => exact ⟨none, _, rfl, trivial⟩
  | acquire scope => exact ⟨Except.ok none, _, rfl, trivial⟩
  | renew permit => exact ⟨Except.ok false, _, rfl, trivial⟩
  | release permit => exact ⟨Except.ok (), _, rfl, trivial⟩
  | readText path => exact ⟨Except.ok "", _, rfl, trivial⟩

theorem exists_creates (s : Rule.Submission) (store : Store) (id : RuleId) :
    ∃ es result after, Creates s store id es result after := by
  obtain ⟨es, result, after, hr, hs, hd⟩ :=
    Party.exists_served (fun store c => exists_answer store id c) (create s) store
  exact ⟨es, result, after, hr, hs, hd⟩

/-- What is told to the log leaves the store as it is. -/
theorem serves_announcing {reply : Except Fault Rule}
    (h : Store.party.Serves store (announcing reply) after) : after = store := by
  cases reply with
  | error f => exact Party.serves_nil_iff.1 h
  | ok stored => exact Party.serves_one_iff.1 h

/-- What a creation comes to when the identifier that is drawn is free: what the checks make of the
submission, stored behind the others if that is a rule. -/
theorem Creates.outcome (h : Creates s store id es result after)
    (hfree : store.contains id = false) :
    (∃ now f, s.rule id now = .error f ∧ result = .error f ∧ after = store) ∨
    ∃ now r stamp, s.rule id now = .ok r ∧ result = .ok (r.stamped stamp stamp) ∧
      after = ⟨store.rules ++ [r.stamped stamp stamp], store.entries⟩ := by
  obtain ⟨hr, hs, hd⟩ := h
  cases create_course hr with
  | @unread f hf =>
    have hrule : s.rule id ⟨0⟩ = .error f := by rw [Submission.rule, hf]; rfl
    exact .inl ⟨⟨0⟩, f, hrule, rfl, Party.serves_nil_iff.1 hs⟩
  | @refused f now drawn _ hf =>
    obtain rfl : drawn = id := hd _ (List.mem_cons_of_mem _ List.mem_cons_self)
    cases hs with
    | cons hnow hs =>
      obtain rfl := hnow
      exact .inl ⟨now, f, hf, rfl, Party.serves_one_iff.1 hs⟩
  | @handedIn r now drawn hrule =>
    obtain rfl : drawn = id := hd _ (List.mem_cons_of_mem _ List.mem_cons_self)
    have hid := (Submission.fulfils_of_rule hrule).1
    cases hs with
    | cons hnow hs =>
      obtain rfl := hnow
      cases hs with
      | cons hdraw hs =>
        obtain rfl := hdraw
        cases hs with
        | cons hinsert hs =>
          obtain rfl := serves_announcing hs
          obtain ⟨stamp, hkept⟩ := hinsert
          rw [Store.insert, hid, hfree] at hkept
          obtain ⟨rfl, rfl⟩ := Prod.mk.inj hkept
          exact .inr ⟨now, r, stamp, hrule, rfl, rfl⟩

/-- **What can be created.** At every store, whatever it holds, and with an identifier that is free,
a creation comes to an end. It succeeds exactly when the submission is admissible; then the rule
that the submission asks for, and nothing else, is added behind the stored rules. A submission that
is not admissible is refused as invalid, and the store is left as it was. -/
theorem creation_accepts (s : Rule.Submission) (store : Store) {id : RuleId}
    (hfree : store.contains id = false) :
    (∃ es result after, Creates s store id es result after) ∧
    ∀ es result after, Creates s store id es result after →
      ((∃ r, result = .ok r) ↔ s.Admissible) ∧
      (∀ r, result = .ok r →
        r.id = id ∧ s.Fulfils r ∧ after = ⟨store.rules ++ [r], store.entries⟩) ∧
      (∀ f, result = .error f → f.kind = .validation ∧ after = store) := by
  refine ⟨exists_creates s store id, fun es result after h => ?_⟩
  rcases h.outcome hfree with ⟨now, f, hf, rfl, rfl⟩ | ⟨now, r, stamp, hr, rfl, rfl⟩
  · have hnot : ¬ s.Admissible := by
      rw [← Submission.rule_isOk_iff id now, hf]
      rintro ⟨r, hr⟩
      cases hr
    refine ⟨iff_of_false ?_ hnot, ?_, ?_⟩
    · rintro ⟨r, hr⟩
      cases hr
    · intro r hr
      cases hr
    · intro g hg
      cases hg
      exact ⟨Submission.rule_failsAsInvalid s id now f hf, rfl⟩
  · have hyes : s.Admissible := (Submission.rule_isOk_iff id now).1 ⟨r, hr⟩
    obtain ⟨hid, hfulfils⟩ := Submission.fulfils_of_rule hr
    refine ⟨iff_of_true ⟨_, rfl⟩ hyes, ?_, ?_⟩
    · intro x hx
      cases hx
      exact ⟨hid, hfulfils.stamped stamp stamp, rfl⟩
    · intro f hf
      cases hf

/-! ## A ban that is created -/

def onionSubmission : Rule.Submission where
  name := " Onion "
  description := some " behind Tor\n"
  conditions := .object [("addr", .object [("contains", .string ".onion")])]
  actions := .object [("action", .string "ban"), ("banTime", .number (.int 3600))]
  isActive := true

/-- A store with one rule, which disconnects everybody. -/
def storeOfOne : Store where
  rules := [⟨.ofNat 1, ⟨"Guests", by decide⟩, none, .none, .disconnect, false, ⟨0⟩, ⟨0⟩⟩]
  entries := []

theorem creation_accepts_onion :
    storeOfOne.contains (.ofNat 2) = false ∧
      ∃ es r after, Creates onionSubmission storeOfOne (.ofNat 2) es (.ok r) after ∧
        onionSubmission.Fulfils r ∧ after = ⟨storeOfOne.rules ++ [r], []⟩ := by
  have hfree : storeOfOne.contains (.ofNat 2) = false := by decide
  have hgood : onionSubmission.Admissible :=
    (Submission.rule_isOk_iff (.ofNat 2) ⟨0⟩).1 ⟨_, rfl⟩
  obtain ⟨⟨es, result, after, h⟩, hall⟩ := creation_accepts onionSubmission storeOfOne hfree
  obtain ⟨hok, hmade, -⟩ := hall es result after h
  obtain ⟨r, rfl⟩ := hok.2 hgood
  obtain ⟨-, hfulfils, hafter⟩ := hmade r rfl
  exact ⟨hfree, es, r, after, h, hfulfils, hafter⟩

end PeerRules.Service
