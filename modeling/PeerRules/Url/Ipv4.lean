import PeerRules.Url.Escape

/-!
# Addresses of four bytes

A host can be a number of 32 bits, mostly written as four bytes with points between them. The last
part stands for all bytes that are left, a part that begins with `0` is octal, and one that begins
with `0x` is hexadecimal.
-/
namespace PeerRules.Url.Ipv4

/-- The digits of a part, with their base. -/
def based : List Char → Nat × List Char
  | '0' :: 'x' :: ds => (16, ds)
  | '0' :: 'X' :: ds => (16, ds)
  | '0' :: d :: ds => (8, d :: ds)
  | ds => (10, ds)

/-- The number of digits in a base; none at all are zero. -/
def ofDigits (base : Nat) (ds : List Char) : Option Nat :=
  ds.foldlM (fun n c => do
    let d ← hexValue? c
    if d < base then some (n * base + d) else none) 0

def number? (part : List Char) : Option Nat :=
  if part.isEmpty then none
  else
    let (base, ds) := based part
    ofDigits base ds

/-- The parts of a host, without an empty one at the end. -/
def parts (host : List Char) : List (List Char) :=
  let ps := host.splitOn '.'
  match ps.reverse with
  | [] :: p :: rest => (p :: rest).reverse
  | _ => ps

/-- Whether a host means a number: its last part is one, or has only decimal digits. -/
def isNumeric (host : List Char) : Bool :=
  match (parts host).getLast? with
  | some part =>
    (!part.isEmpty && part.all fun c => '0' ≤ c && c ≤ '9') || (number? part).isSome
  | none => false

def ofParts : List Nat → Option Nat
  | [] => none
  | ns =>
    let count := ns.length - 1
    let front := ns.take count
    let last := ns.getLastD 0
    if 3 < count ∨ front.any (255 < ·) ∨ Nat.pow 256 (4 - count) ≤ last then none
    else some (front.foldl (fun n b => n * 256 + b) 0 * Nat.pow 256 (4 - count) + last)

def parse? (host : List Char) : Option Nat := do
  let ns ← (parts host).mapM number?
  ofParts ns

def text (n : Nat) : String :=
  String.intercalate "."
    ([n / 0x1000000, n / 0x10000, n / 0x100, n].map fun b => toString (b % 256))

/-- The last of two parts is three bytes. -/
example : (parse? "127.1".toList).map text = some "127.0.0.1" := by decide +kernel

end PeerRules.Url.Ipv4
