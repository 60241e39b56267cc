import Mathlib.Order.Basic
import PeerRules.Proofs.MeetingLaws

/-!
# Laws of comparisons

Numbers are compared by their nearest floats, wherever they stand in a condition: equality, and each
of the operators that take a number, asks how the one measure stands to the other. So what holds of
the order of integers holds of the operators, for numbers of all kinds in any mix.

All other documents are compared as they are built, down to their numbers. Two of them are equal if
they become one document when the signs of all zeros are taken off, so this equality is one of
values, too.

* `Value.same_iff`: structural equality is the sameness of what is left without signs of zeros.
* `equal_iff`: equality is the sameness of what a document is compared by.
* `numbers_of_holds`, `relates_iff`: the operators hold of numbers only, and say which of them is
  the larger.
* `comparisons_coherent`: the laws.
-/
namespace PeerRules

namespace Json

/-! ## Structural equality -/

def Binary64.unsignedZero (f : Binary64) : Binary64 :=
  if f.quanta = 0 then { f with negative := false } else f

def Number.unsignedZero : Number → Number
  | .int n => .int n
  | .float f => .float f.unsignedZero

theorem Binary64.count_eq_iff {f g : Binary64} :
    f.count = g.count ↔ f.unsignedZero = g.unsignedZero := by
  obtain ⟨sign, quanta, hf⟩ := f
  obtain ⟨sign', quanta', hg⟩ := g
  simp only [count, unsignedZero]
  cases sign <;> cases sign' <;> grind

theorem Number.same_iff {a b : Number} :
    a.same b = true ↔ a.unsignedZero = b.unsignedZero := by
  cases a with
  | int m => cases b <;> simp [same, unsignedZero]
  | float f => cases b <;> simp [same, unsignedZero, Binary64.count_eq_iff]

namespace Value

mutual

/-- A document without the signs of its zeros. -/
def unsignedZeros : Value → Value
  | .number n => .number n.unsignedZero
  | .array items => .array (unsignedItems items)
  | .object members => .object (unsignedMembers members)
  | v => v

def unsignedItems : List Value → List Value
  | [] => []
  | v :: vs => v.unsignedZeros :: unsignedItems vs

def unsignedMembers : List (String × Value) → List (String × Value)
  | [] => []
  | (k, v) :: ms => (k, v.unsignedZeros) :: unsignedMembers ms

end

mutual

/-- By induction over the first document, together with the lists in it. -/
theorem same_iff : ∀ (v w : Value), v.same w = true ↔ v.unsignedZeros = w.unsignedZeros
  | .null, w => by cases w <;> simp [same, unsignedZeros]
  | .bool _, w => by cases w <;> simp [same, unsignedZeros]
  | .number _, w => by cases w <;> simp [same, unsignedZeros, Number.same_iff]
  | .string _, w => by cases w <;> simp [same, unsignedZeros]
  | .array vs, w => by cases w <;> simp [same, unsignedZeros, sameItems_iff vs]
  | .object ms, w => by cases w <;> simp [same, unsignedZeros, sameMembers_iff ms]

theorem sameItems_iff : ∀ (vs ws : List Value),
    sameItems vs ws = true ↔ unsignedItems vs = unsignedItems ws
  | [], ws => by cases ws <;> simp [sameItems, unsignedItems]
  | v :: vs, ws => by
    cases ws <;>
      simp [sameItems, unsignedItems, same_iff v, sameItems_iff vs]

theorem sameMembers_iff : ∀ (ms ns : List (String × Value)),
    sameMembers ms ns = true ↔ unsignedMembers ms = unsignedMembers ns
  | [], ns => by cases ns <;> simp [sameMembers, unsignedMembers]
  | (k, v) :: ms, ns => by
    cases ns <;>
      simp [sameMembers, unsignedMembers, same_iff v, sameMembers_iff ms, and_assoc]

end

end Value

end Json

open Json

namespace Condition

/-! ## Equality -/

/-- What a document is compared by: a number by its nearest float, all else by how it is built. -/
def likeness : Value → Int ⊕ Value
  | .number n => .inl n.measure
  | v => .inr v.unsignedZeros

theorem equal_iff {v w : Value} : equal v w = true ↔ likeness v = likeness w := by
  cases v with
  | number a =>
    cases w with
    | number b => simp [equal, likeness, Number.compare]
    | _ => simp [equal, likeness, Value.same]
  | _ =>
    cases w with
    | number b => simp [equal, likeness, Value.same]
    | _ => simp [equal, likeness, Value.same_iff]

theorem equal_equivalence : Equivalence fun v w => equal v w = true where
  refl _ := equal_iff.2 rfl
  symm h := equal_iff.2 (equal_iff.1 h).symm
  trans h h' := equal_iff.2 ((equal_iff.1 h).trans (equal_iff.1 h'))

/-! ## The operators on numbers -/

namespace Operator

/-- How an operator on numbers looks at their nearest floats. -/
def Looks : Operator → Int → Int → Prop
  | .eq, m, n => m = n
  | .neq, m, n => m ≠ n
  | .gt, m, n => n < m
  | .gte, m, n => n ≤ m
  | .lt, m, n => m < n
  | .lte, m, n => m ≤ n
  | _, _, _ => False

/-- Two numbers stand to each other as the operator says. -/
def Relates (o : Operator) (a b : Number) : Prop := o.holds (.number a) (.number b) = true

variable {o : Operator} {a b : Number} {u v w : Value}

theorem relates_iff : o.Relates a b ↔ o.Looks a.measure b.measure := by
  unfold Relates
  cases o <;>
    simp [holds, Looks, equal, order?, texts, Value.items?, Number.compare,
      Ordering.isGT_iff_eq_gt, Ordering.isLT_iff_eq_lt, Int.compare_eq_gt, Int.compare_eq_lt,
      Int.isGE_compare, Int.isLE_compare]

def ofOrder : List Operator := [.gt, .gte, .lt, .lte]

/-- They hold of numbers only. -/
theorem numbers_of_holds (ho : o ∈ ofOrder) (h : o.holds v w = true) :
    ∃ a b, v = .number a ∧ w = .number b ∧ o.Relates a b := by
  have hsome : order? v w ≠ none := by
    intro hnone
    simp only [ofOrder, List.mem_cons, List.not_mem_nil, or_false] at ho
    rcases ho with rfl | rfl | rfl | rfl <;> simp [holds, hnone] at h
  cases v with
  | number a =>
    cases w with
    | number b => exact ⟨a, b, rfl, rfl, h⟩
    | _ => exact absurd rfl hsome
  | _ => exact absurd rfl hsome

theorem not_holds_of_no_number (ho : o ∈ ofOrder) (hnone : v.number? = none ∨ w.number? = none) :
    o.holds v w = false := by
  refine Bool.eq_false_iff.2 fun h => ?_
  obtain ⟨a, b, rfl, rfl, -⟩ := numbers_of_holds ho h
  rcases hnone with hnone | hnone <;> cases hnone

/-- The one of three operators that holds of two numbers with these nearest floats. -/
def standing (m n : Int) : Operator := if m < n then .lt else if m = n then .eq else .gt

theorem looks_iff_eq_standing {m n : Int} (ho : o ∈ [Operator.lt, .eq, .gt]) :
    o.Looks m n ↔ o = standing m n := by
  simp only [List.mem_cons, List.not_mem_nil, or_false] at ho
  unfold standing
  rcases ho with rfl | rfl | rfl <;> simp only [Looks] <;> split_ifs <;> simp <;> omega

theorem existsUnique_relates (a b : Number) :
    ∃! o, o ∈ [Operator.lt, .eq, .gt] ∧ o.Relates a b := by
  have hmem : standing a.measure b.measure ∈ [Operator.lt, .eq, .gt] := by
    unfold standing
    split_ifs <;> simp
  refine ⟨_, ⟨hmem, relates_iff.2 ((looks_iff_eq_standing hmem).2 rfl)⟩, fun o ho => ?_⟩
  exact (looks_iff_eq_standing ho.1).1 (relates_iff.1 ho.2)

theorem order?_swap (v w : Value) : order? w v = (order? v w).map Ordering.swap := by
  cases v <;> cases w <;> simp [order?, Number.compare, Int.compare_swap]

theorem gte_holds_iff : Operator.gte.holds v w = true ↔ Operator.lte.holds w v = true := by
  simp only [holds, order?_swap v w, Option.any_map]
  cases order? v w <;> simp

/-- The operators by which a number is above another. -/
def above : List Operator := [.gt, .gte]

theorem ofOrder_of_above (ho : o ∈ above) : o ∈ ofOrder := by
  simp only [above, ofOrder, List.mem_cons, List.not_mem_nil, or_false] at ho ⊢
  exact ho.imp_right .inl

theorem gte_of_above (ho : o ∈ above) (h : o.holds v w = true) : Operator.gte.holds v w = true := by
  obtain ⟨a, b, rfl, rfl, hab⟩ := numbers_of_holds (ofOrder_of_above ho) h
  refine (relates_iff (a := a) (b := b)).2 ?_
  rw [relates_iff] at hab
  simp only [above, List.mem_cons, List.not_mem_nil, or_false] at ho
  rcases ho with rfl | rfl
  · exact Int.le_of_lt hab
  · exact hab

/-- What is above a number is above every number that is not above that one. -/
theorem above_of_gte (ho : o ∈ above) (h : o.holds u v = true)
    (hle : Operator.gte.holds v w = true) : o.holds u w = true := by
  obtain ⟨a, b, rfl, rfl, hab⟩ := numbers_of_holds (ofOrder_of_above ho) h
  obtain ⟨b', c, hb, rfl, hbc⟩ := numbers_of_holds (by simp [ofOrder]) hle
  obtain rfl : b = b' := Value.number.inj hb
  refine (relates_iff (a := a) (b := c)).2 ?_
  rw [relates_iff] at hab hbc
  simp only [above, List.mem_cons, List.not_mem_nil, or_false] at ho
  rcases ho with rfl | rfl
  · exact Int.lt_of_le_of_lt hbc hab
  · exact Int.le_trans hbc hab

end Operator

end Condition

namespace Conditions

open Condition Operator

/-- **Laws of comparisons.** Of less, equal and greater exactly one holds of two numbers, of
whatever kinds; the other two operators are what their names say, and less is greater the other way
round. What is above a number is above all that this number is above, so a peer that meets a
threshold meets every threshold that is no higher. Where one side is no number, none of the four
operators holds. Equality is an equivalence of all documents, and it is the equality that inequality
denies, that membership looks for and that a value without operators asks for. -/
theorem comparisons_coherent :
    (∀ a b : Number, ∃! o, o ∈ [Operator.lt, .eq, .gt] ∧ o.Relates a b) ∧
    (∀ a b : Number,
      (Operator.gte.Relates a b ↔ Operator.gt.Relates a b ∨ Operator.eq.Relates a b) ∧
      (Operator.lte.Relates a b ↔ Operator.lt.Relates a b ∨ Operator.eq.Relates a b) ∧
      (Operator.lt.Relates a b ↔ Operator.gt.Relates b a)) ∧
    (∀ o ∈ [Operator.gt, .gte], ∀ u v w : Value,
      o.holds u v = true → o.holds v w = true → o.holds u w = true) ∧
    (∀ o ∈ [Operator.gt, .gte], ∀ (p : Peer) (path : String) (b c : Value),
      Operator.lte.holds c b = true →
      MetBy (single path (asking o b)) p → MetBy (single path (asking o c)) p) ∧
    (∀ o ∈ [Operator.gt, .gte, .lt, .lte], ∀ v w : Value,
      v.number? = Option.none ∨ w.number? = Option.none → o.holds v w = false) ∧
    (Equivalence fun v w => Operator.eq.holds v w = true) ∧
    ∀ v w : Value,
      Operator.neq.holds v w = !Operator.eq.holds v w ∧
      (∀ items, Operator.isIn.holds v (.array items) = items.any (Operator.eq.holds v)) ∧
      (w.members? = Option.none → (Spec.ofValue w).holds v = Operator.eq.holds v w) := by
  refine ⟨existsUnique_relates, fun a b => ?_, fun o ho u v w huv hvw => ?_,
    fun o ho p path b c hle hmet => ?_, fun o ho v w => not_holds_of_no_number ho,
    equal_equivalence, fun v w => ⟨rfl, fun items => rfl, fun hscalar => ?_⟩⟩
  · simp only [relates_iff, Looks]
    exact ⟨by omega, by omega, trivial⟩
  · exact above_of_gte ho huv (gte_of_above ho hvw)
  · obtain ⟨found, hfound, hholds⟩ := MetBy.asking_iff.1 hmet
    exact MetBy.asking_iff.2 ⟨found, hfound, above_of_gte ho hholds (gte_holds_iff.2 hle)⟩
  · cases w with
    | object members => cases hscalar
    | null | bool | number | string | array => rfl

def halfway : Number := .float ⟨false, 5 * Nat.pow 2 1073, by decide +kernel⟩

def slowPeer : Peer := ⟨[("pingtime", .ofNat 3)]⟩

/-- An integer is above a float, and so above every integer below that. -/
theorem comparisons_coherent_slowPeer :
    Operator.lte.holds (.ofNat 2) (.number halfway) = true ∧
      MetBy (single "pingtime" (asking .gt (.number halfway))) slowPeer ∧
      MetBy (single "pingtime" (asking .gt (.ofNat 2))) slowPeer ∧
      Operator.gt.holds (.ofNat 3) (.number halfway) = true ∧
      Operator.gt.holds (.number halfway) (.ofNat 2) = true ∧
      Operator.gt.holds (.ofNat 3) (.ofNat 2) = true ∧
      Operator.gt.holds (.string "3") (.ofNat 2) = false ∧
      (Spec.ofValue (.array [.ofNat 3])).holds (.array [.ofNat 3]) = true := by
  obtain ⟨-, -, htrans, hmeets, hnone, hequivalence, huses⟩ := comparisons_coherent
  have hle : Operator.lte.holds (.ofNat 2) (.number halfway) = true := by decide +kernel
  have hgt : Operator.gt.holds (.ofNat 3) (.number halfway) = true := by decide +kernel
  have hgt' : Operator.gt.holds (.number halfway) (.ofNat 2) = true := by decide +kernel
  have hmet : MetBy (single "pingtime" (asking .gt (.number halfway))) slowPeer :=
    MetBy.asking_iff.2 ⟨_, rfl, hgt⟩
  obtain ⟨-, -, hscalar⟩ := huses (.array [.ofNat 3]) (.array [.ofNat 3])
  exact ⟨hle, hmet, hmeets .gt (by simp) _ _ _ _ hle hmet, hgt, hgt',
    htrans .gt (by simp) _ _ _ hgt hgt', hnone .gt (by simp) _ _ (.inl rfl),
    (hscalar rfl).trans (hequivalence.refl _)⟩

end Conditions

end PeerRules
