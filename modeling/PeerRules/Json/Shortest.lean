import PeerRules.Json.Binary64

/-!
# The shortest decimal of a float

`shortest` gives the decimal with the fewest digits among those that a reader rounds back to the
float. For one digit, two digits and so on it looks at the two decimals of that many digits next to
the value; the first count with a hit wins, and of two hits the nearer, of two equally near ones the
even.

All of it is integer arithmetic: the value and the ends of its interval are counted in quarters of
a quantum.
-/
namespace PeerRules.Json

/-- A positive decimal: `0.d₁d₂…dₙ` times 10 to the power `point`, where `digits` is the number
`d₁d₂…dₙ`. -/
structure Decimal where
  digits : Nat
  point : Int
  deriving DecidableEq, Repr

namespace Binary64

/-- The numbers that round to a magnitude, in quarters of a quantum: from `low` to `high`, the ends
included when `closed`. -/
structure Cell where
  low : Nat
  high : Nat
  closed : Bool

def leadingBit : Nat := 0x10_0000_0000_0000

/-- The cell of a magnitude. The gap to the float below is half as wide when the magnitude is a
power of two, and the ends round to it when its last leading bit is zero. -/
def cell (quanta : Nat) : Cell :=
  let spare := spareBits quanta
  let leading := quanta >>> spare
  let below := if leading = leadingBit ∧ 0 < spare then gap quanta else 2 * gap quanta
  ⟨4 * quanta - below, 4 * quanta + 2 * gap quanta, leading % 2 == 0⟩

def Cell.contains (c : Cell) (num den : Nat) : Bool :=
  if c.closed then c.low * den ≤ num && num ≤ c.high * den
  else c.low * den < num && num < c.high * den

/-- The number of zeros between the point and the first digit of a value below one: how often it can
be multiplied by ten before it reaches one, less one. -/
def leadingZeros : Nat → Nat → Nat → Nat
  | 0, _, zeros => zeros
  | fuel + 1, scaled, zeros =>
    if one ≤ scaled * 10 then zeros else leadingZeros fuel (scaled * 10) (zeros + 1)

/-- The power of ten just above the value: the value is at least `10 ^ (k - 1)` and below
`10 ^ k`. -/
def magnitudePoint (quanta : Nat) : Int :=
  let whole := quanta >>> 1074
  if whole = 0 then -(leadingZeros 330 quanta 0 : Int) else (Nat.toDigits 10 whole).length

def withoutTrailingZeros : Nat → Nat → Nat
  | 0, n => n
  | fuel + 1, n => if n % 10 = 0 then withoutTrailingZeros fuel (n / 10) else n

/-- The best decimal of the grid whose unit is 10 to the power `unit`, if one lies in the cell. -/
def onGrid (quanta : Nat) (c : Cell) (unit : Int) : Option Nat :=
  let up := Nat.pow 10 (-unit).toNat
  let down := Nat.pow 10 unit.toNat
  let num := quanta * up
  let den := one * down
  let floor := num / den
  let fits (n : Nat) : Bool := c.contains (4 * (n * den)) up
  let twice := 2 * (num % den)
  let nearer := if twice < den then floor
    else if den < twice then floor + 1
    else floor + floor % 2
  let other := if nearer = floor then floor + 1 else floor
  if fits nearer then some nearer else if fits other then some other else none

/-- Tries grids of `count`, `count + 1`, … digits. -/
def firstGrid (quanta : Nat) (c : Cell) (point : Int) : Nat → Nat → Option (Nat × Int)
  | 0, _ => none
  | fuel + 1, count =>
    match onGrid quanta c (point - count) with
    | some n => some (n, point - count)
    | none => firstGrid quanta c point fuel (count + 1)

/-- The shortest decimal of a positive magnitude. Seventeen digits always suffice. -/
def shortest (quanta : Nat) : Decimal :=
  let found := (firstGrid quanta (cell quanta) (magnitudePoint quanta) 17 1).getD (0, 0)
  let digits := withoutTrailingZeros 20 found.1
  ⟨digits, found.2 + (Nat.toDigits 10 found.1).length⟩

end Binary64

end PeerRules.Json
