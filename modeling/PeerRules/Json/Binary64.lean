/-!
# Floats of 64 bits, counted in quanta

Every finite float of 64 bits is a whole number of quanta of 2 to the power -1074. A magnitude is
kept as that count, so floats are ordered and compared as integers and nothing is ever rounded
behind the reader's back. Rounding is one function, `nearest`: a quotient goes to the closest
float, and of two equally close ones to the one with the even last bit.

* `Representable`: at most 53 bits lead, and all bits behind them are zero.
-/
namespace PeerRules.Json

namespace Binary64

/-- The bits of a magnitude that lie behind its 53 leading ones. -/
def spareBits (quanta : Nat) : Nat := quanta.log2 - 52

/-- The quanta between a magnitude and the next float above it. -/
def gap (quanta : Nat) : Nat := Nat.pow 2 (spareBits quanta)

def one : Nat := Nat.pow 2 1074

/-- A count of quanta that a finite float has: 53 leading bits, zeros behind them, and a leading bit
no higher than that of the largest float. -/
def Representable (quanta : Nat) : Prop :=
  quanta.log2 < 2098 ∧ quanta % gap quanta = 0

instance (quanta : Nat) : Decidable (Representable quanta) :=
  inferInstanceAs (Decidable (_ ∧ _))

/-- `num / den` to the nearest whole number, a half to the even neighbour. -/
def divNearestEven (num den : Nat) : Nat :=
  let q := num / den
  let twice := 2 * (num % den)
  if twice < den then q
  else if den < twice then q + 1
  else q + q % 2

/-- The quanta of the float nearest to `num / den`, for a positive `den`. The quotient has
`num * one / den` quanta, of which 53 leading bits are kept. The result can be too large for a
float, but has always the shape of one. -/
def nearest (num den : Nat) : Nat :=
  let scaled := num * one
  let gap := gap (scaled / den)
  divNearestEven scaled (den * gap) * gap

end Binary64

/-- A finite float of 64 bits: its sign, which zero has too, and its magnitude in quanta. -/
structure Binary64 where
  negative : Bool
  quanta : Nat
  representable : Binary64.Representable quanta
  deriving DecidableEq

namespace Binary64

/-- The float with a given sign and magnitude, when there is one. -/
def ofQuanta? (negative : Bool) (quanta : Nat) : Option Binary64 :=
  if h : Representable quanta then some ⟨negative, quanta, h⟩ else none

def zero (negative : Bool) : Binary64 := ⟨negative, 0, by decide⟩

def count (f : Binary64) : Int := if f.negative then -(f.quanta : Int) else f.quanta

def powerOfTen (e : Nat) : Nat := nearest (Nat.pow 10 e) 1

/-- The quanta of the float nearest to the product of two magnitudes. -/
def mulQuanta (a b : Nat) : Nat := nearest (a * b) (one * one)

/-- The quanta of the float nearest to the quotient of two magnitudes. -/
def divQuanta (a b : Nat) : Nat := nearest a b

def topExponent : Nat := 308

/-- Scales a magnitude by 10 to the power `e`: the power is rounded to a float first, and so is the
result. Below the smallest power of ten the scaling is done in steps of the largest one. -/
def scaleDown (quanta : Nat) (e : Nat) : Nat :=
  if e ≤ topExponent then divQuanta quanta (powerOfTen e)
  else if quanta = 0 then 0
  else scaleDown (divQuanta quanta (powerOfTen topExponent)) (e - topExponent)
termination_by e
decreasing_by simp only [topExponent] at *; omega

/-- The float of a significand and a power of ten. The significand is rounded to a float before it
is scaled. `none` when the number is too large. -/
def ofScientific? (negative : Bool) (significand : Nat) (exponent : Int) : Option Binary64 :=
  let quanta := nearest significand 1
  if exponent < 0 then ofQuanta? negative (scaleDown quanta exponent.natAbs)
  else if quanta = 0 then some (zero negative)
  else if topExponent < exponent.toNat then none
  else ofQuanta? negative (mulQuanta quanta (powerOfTen exponent.toNat))

end Binary64

end PeerRules.Json
