/-!
# Decimal numerals of bounded integers

A numeral is an optional sign and one or more ASCII digits. Reading fails on an empty text, on any
other character, and on a number outside the range; the first digit that leaves the range decides,
so a bad digit behind it goes unseen.
-/
namespace PeerRules.Text.Numeral

/-- Why a text is no numeral of the range asked for. -/
inductive Refusal where
  | empty
  | invalidDigit
  | tooLarge
  | tooSmall
  deriving DecidableEq, Repr

def Refusal.message : Refusal → String
  | .empty => "cannot parse integer from empty string"
  | .invalidDigit => "invalid digit found in string"
  | .tooLarge => "number too large to fit in target type"
  | .tooSmall => "number too small to fit in target type"

def digit? (c : Char) : Option Nat :=
  if '0' ≤ c ∧ c ≤ '9' then some (c.toNat - '0'.toNat) else none

/-- Reads the digits `cs` behind a number `n`, which may grow up to `limit`. -/
def magnitude (limit : Nat) (beyond : Refusal) : Nat → List Char → Except Refusal Nat
  | n, [] => .ok n
  | n, c :: cs =>
    match digit? c with
    | none => .error .invalidDigit
    | some d => if limit < n * 10 + d then .error beyond else magnitude limit beyond (n * 10 + d) cs

/-- The digits of a numeral: at least one. -/
def digits (limit : Nat) (beyond : Refusal) : List Char → Except Refusal Nat
  | [] => .error .invalidDigit
  | c :: cs => magnitude limit beyond 0 (c :: cs)

def maxUnsigned : Nat := 0xFFFF_FFFF_FFFF_FFFF

def maxSigned : Nat := 0x7FFF_FFFF_FFFF_FFFF

/-- An unsigned number of 64 bits, after an optional `+`. -/
def unsigned? : List Char → Except Refusal Nat
  | [] => .error .empty
  | '+' :: cs => digits maxUnsigned .tooLarge cs
  | cs => digits maxUnsigned .tooLarge cs

/-- A signed number of 64 bits, after an optional sign. -/
def signed? : List Char → Except Refusal Int
  | [] => .error .empty
  | '+' :: cs => (digits maxSigned .tooLarge cs).map Int.ofNat
  | '-' :: cs => (digits (maxSigned + 1) .tooSmall cs).map fun n : Nat => -(n : Int)
  | cs => (digits maxSigned .tooLarge cs).map Int.ofNat

end PeerRules.Text.Numeral
