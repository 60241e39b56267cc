import PeerRules.Json.Shortest

/-!
# Numbers of a document

A number is an integer or a float, and stays what it is: `7` and `7.0` are written differently.

There are two ways to compare. `same` asks whether two numbers are one value of one kind; `compare`
orders them by the nearest float, so that an integer meets a float, and two large integers can meet
each other.
-/
namespace PeerRules.Json

/-- A number: an integer, or a float of 64 bits. -/
inductive Number where
  | int (n : Int)
  | float (f : Binary64)
  deriving DecidableEq

/-- How floats are written: which decimal points lie inside positional notation. -/
structure FloatNotation where
  /-- Points above this one are written positionally. -/
  lowPoint : Int
  /-- Points up to this one are written positionally. -/
  highPoint : Int

namespace Number

/-- Positional from five places behind the point up to sixteen digits before it, scientific with a
sign of the exponent beyond. -/
def floatText : FloatNotation := ⟨-5, 16⟩

def zeros (n : Nat) : List Char := List.replicate n '0'

/-- A positive decimal in positional notation, with at least one digit on both sides of the
point. -/
def positional (d : Decimal) : List Char :=
  let ds := Nat.toDigits 10 d.digits
  if d.point ≤ 0 then '0' :: '.' :: zeros d.point.natAbs ++ ds
  else
    let before := d.point.toNat
    if ds.length ≤ before then ds ++ zeros (before - ds.length) ++ ['.', '0']
    else ds.take before ++ '.' :: ds.drop before

/-- A positive decimal in scientific notation: one digit before the point, no point behind a lone
digit, and a signed exponent. -/
def scientific (d : Decimal) : List Char :=
  let exponent := d.point - 1
  let lead := match Nat.toDigits 10 d.digits with
    | [] => []
    | [c] => [c]
    | c :: cs => c :: '.' :: cs
  lead ++ 'e' :: (if exponent < 0 then '-' else '+') :: Nat.toDigits 10 exponent.natAbs

def magnitudeText (quanta : Nat) : List Char :=
  if quanta = 0 then ['0', '.', '0']
  else
    let d := Binary64.shortest quanta
    if floatText.lowPoint < d.point ∧ d.point ≤ floatText.highPoint then positional d
    else scientific d

def text : Number → String
  | .int n => if n < 0 then "-" ++ toString n.natAbs else toString n.natAbs
  | .float f =>
    String.ofList ((if f.negative then ['-'] else []) ++ magnitudeText f.quanta)

def measure : Number → Int
  | .int n => if n < 0 then -(Binary64.nearest n.natAbs 1 : Int) else Binary64.nearest n.natAbs 1
  | .float f => f.count

/-- The order of the nearest floats. -/
protected def compare (a b : Number) : Ordering := Ord.compare a.measure b.measure

/-- One value of one kind: integers by value, floats by value, and never one with the other. -/
def same : Number → Number → Bool
  | .int a, .int b => a == b
  | .float a, .float b => a.count == b.count
  | _, _ => false

def toInt? : Number → Option Int
  | .int n => some n
  | .float _ => none

end Number

end PeerRules.Json
