/-!
# Rule identifiers

An identifier is a number of 128 bits, assigned once when a rule is made and never changed. Its text
is 32 lower-case hexadecimal digits in groups of 8, 4, 4, 4 and 12.

* `digits_length`: the text has 32 digits besides its hyphens.
-/
namespace PeerRules

/-- A rule identifier: 128 bits. -/
structure RuleId where
  number : Nat
  lt : number < Nat.pow 2 128
  deriving DecidableEq

namespace RuleId

/-- The identifier with a number, reduced to 128 bits. -/
def ofNat (n : Nat) : RuleId := ⟨n % Nat.pow 2 128, Nat.mod_lt _ (Nat.two_pow_pos 128)⟩

/-- Identifiers are ordered by number. -/
instance : LT RuleId := ⟨fun a b => a.number < b.number⟩

instance (a b : RuleId) : Decidable (a < b) := inferInstanceAs (Decidable (a.number < b.number))

/-- The hexadecimal digits of a number, as many as asked for, the last ones of it. -/
def hexDigits : Nat → Nat → List Nat
  | 0, _ => []
  | count + 1, n => n / Nat.pow 16 count % 16 :: hexDigits count n

def ofHexDigits (ds : List Nat) : Nat := ds.foldl (fun n d => n * 16 + d) 0

def digits (id : RuleId) : List Char := (hexDigits 32 id.number).map Nat.digitChar

/-- Puts hyphens behind the groups of 8, 4, 4 and 4 digits. -/
def grouped (ds : List Char) : List Char :=
  ds.take 8 ++ '-' :: (ds.drop 8).take 4 ++ '-' :: (ds.drop 12).take 4 ++ '-' :: (ds.drop 16).take 4
    ++ '-' :: ds.drop 20

def text (id : RuleId) : String := String.ofList (grouped id.digits)

/-- The identifier made of 128 random bits: four of them give way to the version, which says that
the rest is random, and two to the variant. -/
def ofRandom (bits : Nat) : RuleId :=
  let low := bits % Nat.pow 2 62
  let middle := bits / Nat.pow 2 64 % 0x1000
  let high := bits / Nat.pow 2 80
  ofNat (high * Nat.pow 2 80 + (0x4000 + middle) * Nat.pow 2 64 + Nat.pow 2 63 + low)

def version (id : RuleId) : Nat := id.number / Nat.pow 2 76 % 16

theorem hexDigits_length (count n : Nat) : (hexDigits count n).length = count := by
  induction count with
  | zero => rfl
  | succ count ih => simp [hexDigits, ih]

theorem digits_length (id : RuleId) : id.digits.length = 32 := by
  simp [digits, hexDigits_length]

end RuleId

end PeerRules
