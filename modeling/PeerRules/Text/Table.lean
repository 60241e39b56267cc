/-!
# Tables of code points

Properties of characters are kept as lists of numbers, in order, in one of three forms: the edges at
which a property begins and ends; runs, each with its value; and blocks, in which every code point
has a number of its own.
-/
namespace PeerRules.Text.Table

def digitValue (c : Char) : Nat :=
  if c ≤ '9' then c.toNat - '0'.toNat else c.toNat - 'A'.toNat + 10

/-- The numbers of lines: hexadecimal, with a blank between any two of a line. -/
def ofLines (lines : List String) : List Nat :=
  lines.flatMap fun line =>
    (line.splitOn " ").map fun word => word.toList.foldl (fun n c => n * 16 + digitValue c) 0

/-- Whether a number lies behind an odd number of edges. -/
def within (n : Nat) (edges : List Nat) : Bool := (edges.takeWhile (· ≤ n)).length % 2 == 1

/-- The value of the run that a number lies in. The table lists the first number of a run and its
value by turns; what lies before the first run has a value that is given. -/
def valueAt (n value : Nat) : List Nat → Nat
  | first :: v :: rest => if first ≤ n then valueAt n v rest else value
  | _ => value

/-- The number for `n` in a table of blocks. A block is its first code point, how many it has, and
as many numbers. -/
def entry? (n : Nat) : List Nat → Option Nat
  | first :: count :: rest =>
    if first ≤ n ∧ n < first + count then rest[n - first]? else entry? n (rest.drop count)
  | _ => none
termination_by table => table.length
decreasing_by simp; omega

/-- The numbers for `n` in a table that lists a code point, how many numbers it has, and these. -/
def entries? (n : Nat) : List Nat → Option (List Nat)
  | m :: count :: rest => if m = n then some (rest.take count) else entries? n (rest.drop count)
  | _ => none
termination_by table => table.length
decreasing_by simp; omega

end PeerRules.Text.Table
