import PeerRules.Proofs.Amending

/-!
# Updates one after another

An update replaces some parts of a rule. What a replacement is does not depend on the part that it
replaces, and whether it passes its check depends on nothing but itself. So two updates in sequence
are one update, `Update.followedBy`, which has a part from the second if that one names it and else
from the first; and a rule that has been updated twice differs from one that has been updated once
in the time of the update alone.

* `Update.apply_followedBy`: two updates in sequence are one.
* `Update.followedBy_self`, `Update.followedBy_comm`: an update followed by itself, and updates that
  name different parts.
* `Update.updates_compose`: sequences, repetitions and exchanges of updates of any rule.
-/
namespace PeerRules.Rule.Update

open Amendment

variable {r s t : Rule} {p q u : Update} {now later : Instant}

/-! ## Two updates as one -/

def names (u : Update) : Part → Bool
  | .name => u.name.isSome
  | .description => u.description.isSome
  | .conditions => u.conditions.isSome
  | .actions => u.action.isSome
  | .isActive => u.isActive.isSome

def Disjoint (p q : Update) : Prop := ∀ part, p.names part = false ∨ q.names part = false

/-- The update that has each part from `q` if `q` names it, and from `p` if not. -/
def followedBy (p q : Update) : Update where
  name := q.name.or p.name
  description := q.description.or p.description
  conditions := q.conditions.or p.conditions
  action := q.action.or p.action
  isActive := q.isActive.or p.isActive

theorem followedBy_self (u : Update) : u.followedBy u = u := by
  simp only [followedBy, Option.or_self]

theorem or_comm_of_disjoint {α : Type} {x y : Option α} (h : x.isSome = false ∨ y.isSome = false) :
    x.or y = y.or x := by
  simp only [Option.isSome_eq_false_iff, Option.isNone_iff_eq_none] at h
  rcases h with rfl | rfl
  · rw [Option.none_or, Option.or_none]
  · rw [Option.or_none, Option.none_or]

/-- It makes no difference which comes first of two updates that name different parts. -/
theorem followedBy_comm (h : p.Disjoint q) : p.followedBy q = q.followedBy p := by
  have hname := or_comm_of_disjoint (h .name)
  have hdescription := or_comm_of_disjoint (h .description)
  have hconditions := or_comm_of_disjoint (h .conditions)
  have haction := or_comm_of_disjoint (h .actions)
  have hactive := or_comm_of_disjoint (h .isActive)
  simp only [followedBy, hname, hdescription, hconditions, haction, hactive]

/-! ## Whether an update is accepted -/

/-- Every replacement passes its check: the conditions and the action theirs, and the name says
something. -/
structure IsAccepted (u : Update) : Prop where
  conditions : ∀ c, u.conditions = some c → c.validate = .ok ()
  action : ∀ a, u.action = some a → a.validate = .ok ()
  name : ∀ text, u.name = some text → Text.allBlank text = false

theorem validatePart_eq_ok_iff {α : Type} {check : α → Except Fault Unit} {x : Option α} :
    validatePart check x = .ok () ↔ ∀ a, x = some a → check a = .ok () := by
  cases x <;> simp [validatePart]

theorem exists_newName_iff {old : Name} {given : Option String} :
    (∃ name, newName old given = .ok name) ↔
      ∀ text, given = some text → Text.allBlank text = false := by
  cases given with
  | none => simp [newName]
  | some text =>
    constructor
    · rintro ⟨name, hname⟩ _ ⟨⟩
      obtain rfl := (Name.ofText_eq_ok_iff text name).1 hname
      exact name.notBlank
    · intro h
      exact ⟨⟨text, h text rfl⟩, (Name.ofText_eq_ok_iff text _).2 rfl⟩

theorem isAccepted_of_apply (h : r.apply u now = .ok s) : u.IsAccepted := by
  obtain ⟨hconditions, haction, name, hname, -⟩ := apply_eq_ok_iff.1 h
  exact ⟨validatePart_eq_ok_iff.1 hconditions, validatePart_eq_ok_iff.1 haction,
    exists_newName_iff.1 ⟨name, hname⟩⟩

theorem IsAccepted.exists_apply (h : u.IsAccepted) (r : Rule) (now : Instant) :
    ∃ s, r.apply u now = .ok s := by
  obtain ⟨name, hname⟩ := exists_newName_iff.2 h.name
  exact ⟨_, apply_eq_ok_iff.2 ⟨validatePart_eq_ok_iff.2 h.conditions,
    validatePart_eq_ok_iff.2 h.action, name, hname, rfl⟩⟩

/-- What an update makes of a rule has the time of the update, and depends on it in nothing else. -/
theorem apply_at (h : r.apply u now = .ok s) (later : Instant) :
    s.updatedAt = now ∧ r.apply u later = .ok { s with updatedAt := later } := by
  obtain ⟨hconditions, haction, name, hname, rfl⟩ := apply_eq_ok_iff.1 h
  exact ⟨rfl, apply_eq_ok_iff.2 ⟨hconditions, haction, name, hname, rfl⟩⟩

/-! ## Two updates in sequence -/

theorem validatePart_or {α : Type} {check : α → Except Fault Unit} {x y : Option α}
    (hx : validatePart check x = .ok ()) (hy : validatePart check y = .ok ()) :
    validatePart check (y.or x) = .ok () := by
  cases y with
  | none => exact hx
  | some y => exact hy

theorem newName_or {old first second : Name} {x y : Option String}
    (hx : newName old x = .ok first) (hy : newName first y = .ok second) :
    newName old (y.or x) = .ok second := by
  cases y with
  | none =>
    cases hy
    exact hx
  | some y => exact hy

/-- **Two updates in sequence are one.** -/
theorem apply_followedBy {first second : Instant} (hp : r.apply p first = .ok s)
    (hq : s.apply q second = .ok t) (later : Instant) :
    r.apply (p.followedBy q) later = .ok { t with updatedAt := later } := by
  obtain ⟨hpc, hpa, name, hpname, rfl⟩ := apply_eq_ok_iff.1 hp
  obtain ⟨hqc, hqa, name', hqname, rfl⟩ := apply_eq_ok_iff.1 hq
  refine apply_eq_ok_iff.2 ⟨validatePart_or hpc hqc, validatePart_or hpa hqa, name',
    newName_or hpname hqname, ?_⟩
  simp only [followedBy, Option.getD_or, Option.map_or]

/-- Two updates in sequence, put in one, make the same rule at the time of the second. -/
theorem apply_followedBy_now {first : Instant} (hp : r.apply p first = .ok s)
    (hq : s.apply q now = .ok t) : r.apply (p.followedBy q) now = .ok t := by
  have hboth := apply_followedBy hp hq now
  rwa [← (apply_at hq now).1] at hboth ⊢

/-- An update that is applied again changes the time and nothing else. -/
theorem apply_again (h : r.apply u now = .ok s) (later : Instant) :
    s.apply u later = .ok { s with updatedAt := later } := by
  obtain ⟨t, ht⟩ := (isAccepted_of_apply h).exists_apply s later
  have htwice := apply_followedBy_now h ht
  rw [followedBy_self] at htwice
  rw [ht, ← htwice]
  exact (apply_at h later).2

/-- Updates that name different parts make the same rule in either order. -/
theorem apply_comm {s' : Rule} {first second : Instant} (hdisjoint : p.Disjoint q)
    (hp : r.apply p first = .ok s) (hq : r.apply q second = .ok s') (later : Instant) :
    ∃ t, s.apply q later = .ok t ∧ s'.apply p later = .ok t := by
  obtain ⟨t, ht⟩ := (isAccepted_of_apply hq).exists_apply s later
  obtain ⟨t', ht'⟩ := (isAccepted_of_apply hp).exists_apply s' later
  have hboth := apply_followedBy_now hp ht
  have hboth' := apply_followedBy_now hq ht'
  rw [followedBy_comm hdisjoint, hboth'] at hboth
  exact ⟨t, ht, hboth ▸ ht'⟩

/-- **Updates compose.** Whatever the rule, the updates and the times at which they are applied: two
updates of which the second is accepted after the first make of the rule what the two in one make of
it, but for the time; so an update that is applied again changes the time and nothing else, and two
that name different parts, each of them accepted, make the same rule in either order. All these
rules have the identifier and the time of creation of the first one. -/
theorem updates_compose (r : Rule) (first second later : Instant) :
    (∀ p q s t, r.apply p first = .ok s → s.apply q second = .ok t →
      r.apply (p.followedBy q) later = .ok { t with updatedAt := later } ∧
        t.id = r.id ∧ t.createdAt = r.createdAt) ∧
    (∀ p s, r.apply p first = .ok s →
      s.apply p later = .ok { s with updatedAt := later } ∧
        s.id = r.id ∧ s.createdAt = r.createdAt) ∧
    ∀ p q s s', p.Disjoint q → r.apply p first = .ok s → r.apply q second = .ok s' →
      ∃ t, s.apply q later = .ok t ∧ s'.apply p later = .ok t ∧
        t.id = r.id ∧ t.createdAt = r.createdAt := by
  have hkept : ∀ {u v : Update} {a b : Rule} {m n : Instant}, r.apply u m = .ok a →
      a.apply v n = .ok b → b.id = r.id ∧ b.createdAt = r.createdAt := by
    intro u v a b m n hu hv
    obtain ⟨hid, hcreated⟩ := apply_keeps_identity hu
    obtain ⟨hid', hcreated'⟩ := apply_keeps_identity hv
    exact ⟨hid'.trans hid, hcreated'.trans hcreated⟩
  refine ⟨fun p q s t hp hq => ⟨apply_followedBy hp hq later, hkept hp hq⟩,
    fun p s hp => ⟨apply_again hp later, apply_keeps_identity hp⟩,
    fun p q s s' hdisjoint hp hq => ?_⟩
  obtain ⟨t, ht, ht'⟩ := apply_comm hdisjoint hp hq later
  exact ⟨t, ht, ht', hkept hp ht⟩

/-! ### A description that is given and cleared -/

def plainRule : Rule where
  id := RuleId.ofNat 7
  name := ⟨"Plain", by decide +kernel⟩
  description := none
  conditions := Conditions.none
  action := .disconnect
  isActive := true
  createdAt := ⟨0⟩
  updatedAt := ⟨0⟩

/-- Gives another name, and a description between blanks. -/
def describing : Update := ⟨some "New", some (some " why\n"), none, none, none⟩

/-- Clears the description, and gives an action. -/
def clearing : Update := ⟨none, some none, none, some (.ban none), none⟩

def banningOff : Update := ⟨none, none, none, some (.ban none), some false⟩

theorem updates_compose_cleared :
    (∃ s t, plainRule.apply describing ⟨1⟩ = .ok s ∧ s.apply clearing ⟨2⟩ = .ok t ∧
      plainRule.apply ⟨some "New", some none, none, some (.ban none), none⟩ ⟨3⟩ =
        .ok { t with updatedAt := ⟨3⟩ }) ∧
    (∃ s, plainRule.apply describing ⟨1⟩ = .ok s ∧ s.description = some "why" ∧
      s.apply describing ⟨3⟩ = .ok { s with updatedAt := ⟨3⟩ }) ∧
    ∃ s s' t, describing.Disjoint banningOff ∧ plainRule.apply describing ⟨1⟩ = .ok s ∧
      plainRule.apply banningOff ⟨2⟩ = .ok s' ∧ s.apply banningOff ⟨3⟩ = .ok t ∧
      s'.apply describing ⟨3⟩ = .ok t := by
  obtain ⟨hsequence, hagain, heither⟩ := updates_compose plainRule ⟨1⟩ ⟨2⟩ ⟨3⟩
  have hdescribing : describing.IsAccepted := ⟨nofun, nofun, by rintro _ ⟨⟩; decide +kernel⟩
  have hclearing : clearing.IsAccepted := ⟨nofun, by rintro _ ⟨⟩; rfl, nofun⟩
  have hbanning : banningOff.IsAccepted := ⟨nofun, by rintro _ ⟨⟩; rfl, nofun⟩
  obtain ⟨s, hs⟩ := hdescribing.exists_apply plainRule ⟨1⟩
  obtain ⟨t, ht⟩ := hclearing.exists_apply s ⟨2⟩
  obtain ⟨s', hs'⟩ := hbanning.exists_apply plainRule ⟨2⟩
  have hdisjoint : describing.Disjoint banningOff := by
    intro part
    cases part <;> decide
  have hwhy : s.description = some "why" := by
    obtain ⟨-, -, name, -, rfl⟩ := apply_eq_ok_iff.1 hs
    change (describing.description.map normalize).getD plainRule.description = some "why"
    decide +kernel
  obtain ⟨either, heq, heq', -⟩ := heither _ _ s s' hdisjoint hs hs'
  exact ⟨⟨s, t, hs, ht, (hsequence _ _ s t hs ht).1⟩, ⟨s, hs, hwhy, (hagain _ s hs).1⟩,
    s, s', either, hdisjoint, hs, hs', heq, heq'⟩

end PeerRules.Rule.Update
