import Mathlib.Algebra.Group.Nat.Defs
import PeerRules.RuleId.Parser

/-!
# Numbers in a fixed number of places

A number below a power of a base is written in as many digits, the most significant one first. The
digits are all that there is to the number, and since the first places weigh more than all those
behind them, the numbers are in the order of their digits, compared from the front. This is the
order that the written forms inherit: a list keeps its place among others of its length when every
item is replaced by one that stands for it in an order of its own, and when the same item is put in
at the same place of each.

* `ofHexDigits_hexDigits`, `hexDigits_ofHexDigits`: hexadecimal digits and their number.
* `digitsIn_lt_iff`: numbers are ordered as their digits, in any base.
* `map_lt_map_iff`, `append_lt_append_iff`: lists with the items replaced, and put together.
-/
namespace PeerRules.RuleId

/-! ## Digits in a base -/

/-- The digits of a number in a base, as many as asked for, the last ones of it. -/
def digitsIn (base : Nat) : Nat → Nat → List Nat
  | 0, _ => []
  | count + 1, n => n / base ^ count % base :: digitsIn base count n

variable {base count m n : Nat}

theorem hexDigits_eq_digitsIn (count n : Nat) : hexDigits count n = digitsIn 16 count n := by
  induction count with
  | zero => rfl
  | succ count ih => exact congrArg (_ :: ·) ih

theorem lt_of_mem_digitsIn (hb : 0 < base) : ∀ d ∈ digitsIn base count n, d < base := by
  induction count with
  | zero => simp [digitsIn]
  | succ count ih => exact List.forall_mem_cons.2 ⟨Nat.mod_lt _ hb, ih⟩

/-- The places in front of those that are asked for do not count. -/
theorem digitsIn_add_mul (hb : 0 < base) (front n : Nat) :
    digitsIn base count (front * base ^ count + n) = digitsIn base count n := by
  induction count generalizing front with
  | zero => rfl
  | succ count ih =>
    have hsplit : front * base ^ (count + 1) = front * base * base ^ count := by
      rw [Nat.pow_succ', Nat.mul_assoc]
    have hpos : 0 < base ^ count := Nat.pow_pos hb
    rw [digitsIn, digitsIn, hsplit, ih, Nat.add_comm, Nat.add_mul_div_right _ _ hpos,
      Nat.add_mul_mod_self_right]

theorem digitsIn_mod (hb : 0 < base) (n : Nat) :
    digitsIn base count (n % base ^ count) = digitsIn base count n := by
  have h := @digitsIn_add_mul base count hb (n / base ^ count) (n % base ^ count)
  rw [Nat.div_add_mod'] at h
  exact h.symm

/-- The order of two numbers is that of their quotients, and for equal ones of their remainders. -/
theorem div_lt_or_mod_lt_iff (k : Nat) : m / k < n / k ∨ m / k = n / k ∧ m % k < n % k ↔ m < n := by
  have hm := Nat.div_add_mod m k
  have hn := Nat.div_add_mod n k
  constructor
  · rintro (hdiv | ⟨hdiv, hmod⟩)
    · exact Nat.lt_of_not_le fun hle => Nat.not_lt.2 (Nat.div_le_div_right hle) hdiv
    · rw [hdiv] at hm
      omega
  · intro hlt
    rcases Nat.lt_or_eq_of_le (Nat.div_le_div_right (c := k) (Nat.le_of_lt hlt)) with hdiv | hdiv
    · exact .inl hdiv
    · rw [hdiv] at hm
      exact .inr ⟨hdiv, by omega⟩

/-- Numbers are in the order of their digits, compared from the front. By induction on the number of
places: the first one decides, or else what is left of both numbers does. -/
theorem digitsIn_lt_iff (hb : 0 < base) (hm : m < base ^ count) (hn : n < base ^ count) :
    digitsIn base count m < digitsIn base count n ↔ m < n := by
  induction count generalizing m n with
  | zero =>
    have hm' : m = 0 := by simpa using hm
    have hn' : n = 0 := by simpa using hn
    simp [hm', hn']
  | succ count ih =>
    have hpos : 0 < base ^ count := Nat.pow_pos hb
    have hfirst : ∀ {k}, k < base ^ (count + 1) → k / base ^ count % base = k / base ^ count :=
      fun hk => Nat.mod_eq_of_lt (Nat.div_lt_of_lt_mul (by rwa [Nat.pow_succ] at hk))
    have hrest := ih (Nat.mod_lt m hpos) (Nat.mod_lt n hpos)
    rw [digitsIn_mod hb, digitsIn_mod hb] at hrest
    rw [digitsIn, digitsIn, List.cons_lt_cons_iff, hfirst hm, hfirst hn, hrest]
    exact div_lt_or_mod_lt_iff (base ^ count)

/-! ## Hexadecimal digits and their number -/

/-- Digits behind a number that has been read. -/
theorem foldl_hexDigits (n : Nat) (ds : List Nat) :
    ds.foldl (fun n d => n * 16 + d) n = n * 16 ^ ds.length + ofHexDigits ds := by
  induction ds generalizing n with
  | nil => simp [ofHexDigits]
  | cons e ds ih =>
    have hbehind : ofHexDigits (e :: ds) = (0 * 16 + e) * 16 ^ ds.length + ofHexDigits ds := ih _
    rw [List.foldl_cons, ih, hbehind, List.length_cons, Nat.pow_succ', Nat.zero_mul, Nat.zero_add,
      Nat.add_mul, Nat.mul_assoc, Nat.add_assoc]

theorem ofHexDigits_cons (d : Nat) (ds : List Nat) :
    ofHexDigits (d :: ds) = d * 16 ^ ds.length + ofHexDigits ds := by
  rw [ofHexDigits, List.foldl_cons, foldl_hexDigits, Nat.zero_mul, Nat.zero_add]

theorem ofHexDigits_lt {ds : List Nat} (h : ∀ d ∈ ds, d < 16) : ofHexDigits ds < 16 ^ ds.length := by
  induction ds with
  | nil => decide
  | cons d ds ih =>
    obtain ⟨hd, hds⟩ := List.forall_mem_cons.1 h
    calc ofHexDigits (d :: ds)
        = d * 16 ^ ds.length + ofHexDigits ds := ofHexDigits_cons d ds
      _ < d * 16 ^ ds.length + 16 ^ ds.length := Nat.add_lt_add_left (ih hds) _
      _ = (d + 1) * 16 ^ ds.length := (Nat.succ_mul _ _).symm
      _ ≤ 16 * 16 ^ ds.length := Nat.mul_le_mul_right _ hd
      _ = 16 ^ (d :: ds).length := by rw [List.length_cons, Nat.pow_succ']

theorem ofHexDigits_hexDigits (count n : Nat) : ofHexDigits (hexDigits count n) = n % 16 ^ count := by
  induction count with
  | zero => simp [hexDigits, ofHexDigits, Nat.mod_one]
  | succ count ih =>
    rw [hexDigits, ofHexDigits_cons, ih, hexDigits_length, Nat.mod_pow_succ, Nat.add_comm,
      Nat.mul_comm]
    rfl

theorem hexDigits_ofHexDigits {ds : List Nat} (h : ∀ d ∈ ds, d < 16) :
    hexDigits ds.length (ofHexDigits ds) = ds := by
  rw [hexDigits_eq_digitsIn]
  induction ds with
  | nil => rfl
  | cons d ds ih =>
    obtain ⟨hd, hds⟩ := List.forall_mem_cons.1 h
    have hpos : 0 < 16 ^ ds.length := Nat.pow_pos (by decide)
    rw [List.length_cons, digitsIn, ofHexDigits_cons, digitsIn_add_mul (by decide), ih hds,
      Nat.mul_comm, Nat.mul_add_div hpos, Nat.div_eq_of_lt (ofHexDigits_lt hds), Nat.add_zero,
      Nat.mod_eq_of_lt hd]

/-! ## Lists in order -/

section Lists

variable {α β : Type} [LT α] [LT β] {as bs : List α} {xs ys : List α} {f : α → β}

/-- Items that are replaced by others in the same order leave the lists in order. -/
theorem map_lt_map_iff (h : ∀ a ∈ as, ∀ b ∈ bs, (f a < f b ↔ a < b) ∧ (f a = f b ↔ a = b)) :
    as.map f < bs.map f ↔ as < bs := by
  induction as generalizing bs with
  | nil => cases bs <;> simp
  | cons a as ih =>
    cases bs with
    | nil => simp
    | cons b bs =>
      obtain ⟨hlt, heq⟩ := h a List.mem_cons_self b List.mem_cons_self
      have hrest := ih fun c hc d hd => h c (List.mem_cons_of_mem _ hc) d (List.mem_cons_of_mem _ hd)
      rw [List.map_cons, List.map_cons, List.cons_lt_cons_iff, List.cons_lt_cons_iff, hlt, heq,
        hrest]

/-- Lists that are put together of parts of equal length. -/
theorem append_lt_append_iff [Std.Irrefl fun a b : α => a < b] (h : as.length = bs.length) :
    as ++ xs < bs ++ ys ↔ as < bs ∨ as = bs ∧ xs < ys := by
  induction as generalizing bs with
  | nil =>
    obtain rfl : bs = [] := List.eq_nil_of_length_eq_zero h.symm
    simp
  | cons a as ih =>
    cases bs with
    | nil => cases h
    | cons b bs =>
      have hrest := ih (Nat.succ.inj h)
      rw [List.cons_append, List.cons_append, List.cons_lt_cons_iff, List.cons_lt_cons_iff, hrest,
        List.cons.injEq]
      rw [and_or_left, or_assoc, and_assoc]

end Lists

end PeerRules.RuleId
