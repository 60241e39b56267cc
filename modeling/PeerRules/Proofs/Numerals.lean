import PeerRules.Json.Number
import PeerRules.Text.Blank
import PeerRules.Text.Numeral

/-!
# What numerals denote

A numeral is read digit by digit, and given up at the first digit that leaves the range. That comes
to the same as reading all of it and looking at the range then, since a number only grows with its
digits: a text is read as an integer just if it denotes that integer and the range has it.

Integers of a document are written so that they are read as themselves, and floats so that they are
not read as integers at all: there is a point or an exponent in each of them.

* `digits_eq_ok_iff`: digits in a range, which is shared by signed and unsigned numbers.
* `signed?_eq_ok_iff`: signed numbers of 64 bits.
* `denotes_text_int`: the text of an integer denotes it.
* `exists_mem_text_float`: a float is not written like an integer.
-/
namespace PeerRules

namespace Text.Numeral

/-- Nothing but ASCII digits, at least one. -/
structure IsDigits (cs : List Char) : Prop where
  nonempty : cs ≠ []
  digits : ∀ c ∈ cs, c.isDigit = true

def value (ds : List Char) : Nat := Nat.ofDigitChars 10 ds 0

/-- The characters denote the integer: digits, behind a sign or not. -/
inductive Denotes : List Char → Int → Prop where
  | unsigned {ds : List Char} (h : IsDigits ds) : Denotes ds (value ds)
  | plus {ds : List Char} (h : IsDigits ds) : Denotes ('+' :: ds) (value ds)
  | minus {ds : List Char} (h : IsDigits ds) : Denotes ('-' :: ds) (-(value ds : Int))

def IsSigned (n : Int) : Prop := -0x8000_0000_0000_0000 ≤ n ∧ n ≤ 0x7FFF_FFFF_FFFF_FFFF

variable {limit n m : Nat} {beyond : Refusal} {cs ds : List Char} {i : Int}

/-! ## Digits -/

theorem digit?_eq_some_iff {c : Char} {d : Nat} :
    digit? c = some d ↔ c.isDigit = true ∧ d = c.toNat - '0'.toNat := by
  have hdigit : c.isDigit = true ↔ '0' ≤ c ∧ c ≤ '9' := Char.isDigit_iff_toNat
  unfold digit?
  rw [hdigit]
  split
  · next h => simp [h, eq_comm]
  · next h => simp [h]

theorem isBlank_of_isDigit {c : Char} (h : c.isDigit = true) : isBlank c = false := by
  obtain ⟨hlow, hhigh⟩ := Char.isDigit_iff_toNat.1 h
  have hzero : '0'.toNat = 48 := rfl
  have hnine : '9'.toNat = 57 := rfl
  simp only [isBlank, Bool.or_eq_false_iff, Bool.and_eq_false_iff, beq_eq_false_iff_ne,
    decide_eq_false_iff_not]
  omega

theorem le_ofDigitChars (n : Nat) (ds : List Char) : n ≤ Nat.ofDigitChars 10 ds n := by
  induction ds generalizing n with
  | nil => simp
  | cons c ds ih =>
    rw [Nat.ofDigitChars_cons]
    exact Nat.le_trans (by omega) (ih _)

/-- By induction on the digits; the number in front of them only grows. -/
theorem magnitude_eq_ok_iff (hn : n ≤ limit) : magnitude limit beyond n ds = .ok m ↔
    (∀ c ∈ ds, c.isDigit = true) ∧ m = Nat.ofDigitChars 10 ds n ∧ m ≤ limit := by
  induction ds generalizing n with
  | nil =>
    simp only [magnitude, Except.ok.injEq, List.not_mem_nil, false_implies, implies_true, true_and,
      Nat.ofDigitChars_nil]
    exact ⟨fun h => ⟨h.symm, h ▸ hn⟩, fun h => h.1.symm⟩
  | cons c ds ih =>
    unfold magnitude
    cases hd : digit? c with
    | none =>
      refine iff_of_false (by simp) fun h => ?_
      have hc : digit? c = some _ := digit?_eq_some_iff.2 ⟨h.1 c List.mem_cons_self, rfl⟩
      rw [hd] at hc
      cases hc
    | some d =>
      obtain ⟨hc, rfl⟩ := digit?_eq_some_iff.1 hd
      have hvalue : Nat.ofDigitChars 10 (c :: ds) n =
          Nat.ofDigitChars 10 ds (n * 10 + (c.toNat - '0'.toNat)) := by
        rw [Nat.ofDigitChars_cons, Nat.mul_comm]
      rw [hvalue]
      dsimp only
      split
      · next hbeyond =>
        have hgrows := le_ofDigitChars (n * 10 + (c.toNat - '0'.toNat)) ds
        exact iff_of_false (by simp) fun h => by omega
      · next hwithin =>
        rw [ih (Nat.le_of_not_lt hwithin), List.forall_mem_cons]
        simp [hc]

theorem digits_eq_ok_iff :
    digits limit beyond ds = .ok n ↔ IsDigits ds ∧ value ds = n ∧ n ≤ limit := by
  cases ds with
  | nil => exact iff_of_false (by simp [digits]) fun h => h.1.nonempty rfl
  | cons c ds =>
    rw [digits, magnitude_eq_ok_iff (Nat.zero_le _)]
    constructor
    · rintro ⟨hds, rfl, hlimit⟩
      exact ⟨⟨by simp, hds⟩, rfl, hlimit⟩
    · rintro ⟨hds, rfl, hlimit⟩
      exact ⟨hds.digits, rfl, hlimit⟩

/-! ## Signs -/

theorem denotes_plus_iff : Denotes ('+' :: ds) i ↔ IsDigits ds ∧ i = value ds := by
  constructor
  · intro h
    cases h with
    | unsigned h => exact absurd (h.digits '+' List.mem_cons_self) (by decide)
    | plus h => exact ⟨h, rfl⟩
  · rintro ⟨h, rfl⟩
    exact .plus h

theorem denotes_minus_iff : Denotes ('-' :: ds) i ↔ IsDigits ds ∧ i = -(value ds : Int) := by
  constructor
  · intro h
    cases h with
    | unsigned h => exact absurd (h.digits '-' List.mem_cons_self) (by decide)
    | minus h => exact ⟨h, rfl⟩
  · rintro ⟨h, rfl⟩
    exact .minus h

theorem denotes_unsigned_iff (hplus : ∀ ds, cs ≠ '+' :: ds) (hminus : ∀ ds, cs ≠ '-' :: ds) :
    Denotes cs i ↔ IsDigits cs ∧ i = value cs := by
  constructor
  · intro h
    cases h with
    | unsigned h => exact ⟨h, rfl⟩
    | plus => exact absurd rfl (hplus _)
    | minus => exact absurd rfl (hminus _)
  · rintro ⟨h, rfl⟩
    exact .unsigned h

theorem Denotes.unique {j : Int} (h : Denotes cs i) (h' : Denotes cs j) : i = j := by
  cases h with
  | plus h => exact (denotes_plus_iff.1 h').2.symm
  | minus h => exact (denotes_minus_iff.1 h').2.symm
  | unsigned h =>
    cases h' with
    | unsigned => rfl
    | plus => exact absurd (h.digits '+' List.mem_cons_self) (by decide)
    | minus => exact absurd (h.digits '-' List.mem_cons_self) (by decide)

theorem map_digits_eq_ok_iff {f : Nat → Int} :
    (digits limit beyond ds).map f = .ok i ↔
      IsDigits ds ∧ i = f (value ds) ∧ value ds ≤ limit := by
  constructor
  · intro h
    cases hn : digits limit beyond ds with
    | error refusal => simp [hn, Except.map] at h
    | ok n =>
      obtain ⟨hds, rfl, hlimit⟩ := digits_eq_ok_iff.1 hn
      rw [hn] at h
      exact ⟨hds, (Except.ok.inj h).symm, hlimit⟩
  · rintro ⟨hds, rfl, hlimit⟩
    rw [digits_eq_ok_iff.2 ⟨hds, rfl, hlimit⟩]
    rfl

/-- A numeral has digits and signs only. -/
theorem Denotes.mem (h : Denotes cs i) {c : Char} (hc : c ∈ cs) :
    c.isDigit = true ∨ c = '+' ∨ c = '-' := by
  cases h with
  | unsigned h => exact .inl (h.digits c hc)
  | plus h => exact (List.mem_cons.1 hc).elim (.inr ∘ .inl) fun hc => .inl (h.digits c hc)
  | minus h => exact (List.mem_cons.1 hc).elim (.inr ∘ .inr) fun hc => .inl (h.digits c hc)

/-- **Signed integers.** A text is read as an integer of 64 bits just if it denotes that integer. -/
theorem signed?_eq_ok_iff : signed? cs = .ok i ↔ Denotes cs i ∧ IsSigned i := by
  have hsigned : ∀ n : Nat, IsSigned n ↔ n ≤ maxSigned := by
    intro n
    simp only [IsSigned, maxSigned]
    omega
  have hnegative : ∀ n : Nat, IsSigned (-(n : Int)) ↔ n ≤ maxSigned + 1 := by
    intro n
    simp only [IsSigned, maxSigned]
    omega
  unfold signed?
  split
  · refine iff_of_false (by simp) ?_
    rintro ⟨⟨hnil⟩, -⟩
    exact hnil.nonempty rfl
  · next ds =>
    rw [map_digits_eq_ok_iff, denotes_plus_iff, and_assoc]
    exact and_congr_right fun _ => and_congr_right fun hi => hi ▸ (hsigned _).symm
  · next ds =>
    rw [map_digits_eq_ok_iff, denotes_minus_iff, and_assoc]
    exact and_congr_right fun _ => and_congr_right fun hi => hi ▸ (hnegative _).symm
  · next hplus hminus =>
    rw [map_digits_eq_ok_iff, denotes_unsigned_iff hplus hminus, and_assoc]
    exact and_congr_right fun _ => and_congr_right fun hi => hi ▸ (hsigned _).symm

end Text.Numeral

namespace Json.Number

open Text.Numeral

/-! ## The texts of numbers -/

theorem isDigits_toDigits (n : Nat) : IsDigits (Nat.toDigits 10 n) :=
  ⟨Nat.toDigits_ne_nil, fun _ hc => Nat.isDigit_of_mem_toDigits (by decide) (by decide) hc⟩

theorem denotes_text_int (n : Int) : Denotes (text (.int n)).toList n := by
  have hdigits := isDigits_toDigits n.natAbs
  have hvalue : (value (Nat.toDigits 10 n.natAbs) : Int) = n.natAbs :=
    congrArg Int.ofNat Nat.ofDigitChars_ten_toDigits
  by_cases hneg : n < 0
  · have hn : n = -(value (Nat.toDigits 10 n.natAbs) : Int) := by omega
    have htext : (text (.int n)).toList = '-' :: Nat.toDigits 10 n.natAbs := by
      simp [text, hneg]
    rw [htext]
    exact denotes_minus_iff.2 ⟨hdigits, hn⟩
  · have hn : n = value (Nat.toDigits 10 n.natAbs) := by omega
    have htext : (text (.int n)).toList = Nat.toDigits 10 n.natAbs := by
      simp [text, hneg]
    have hdenotes := Denotes.unsigned hdigits
    rw [← hn] at hdenotes
    exact htext ▸ hdenotes

theorem point_mem_positional (d : Decimal) : '.' ∈ positional d := by
  unfold positional
  dsimp only
  split
  · simp
  · split <;> simp

theorem exponent_mem_scientific (d : Decimal) : 'e' ∈ scientific d := by simp [scientific]

/-- There is a character in the text of a float that is in no numeral. -/
theorem exists_mem_text_float (f : Binary64) :
    ∃ c ∈ (text (.float f)).toList, c = '.' ∨ c = 'e' := by
  have hmagnitude : ∃ c ∈ magnitudeText f.quanta, c = '.' ∨ c = 'e' := by
    unfold magnitudeText
    split
    · exact ⟨'.', by simp, .inl rfl⟩
    · dsimp only
      split
      · exact ⟨'.', point_mem_positional _, .inl rfl⟩
      · exact ⟨'e', exponent_mem_scientific _, .inr rfl⟩
  obtain ⟨c, hc, hmark⟩ := hmagnitude
  exact ⟨c, by simp [text, hc], hmark⟩

end Json.Number

end PeerRules
