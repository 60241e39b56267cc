/-!
# Labels of ASCII for labels of all characters

A label with characters beyond ASCII is written in ASCII: first the characters that are ASCII, then
the others in the order of their code points. Each of them is one number, which says how many steps
lie between it and the one before, when the code points and the places in the label are passed in
turn. Numbers have digits of a base that follows the sizes of the numbers before.
-/
namespace PeerRules.Url.Punycode

def base : Nat := 36

def firstWide : Nat := 0x80

def firstOffset : Nat := 72

def digit (d : Nat) : Char :=
  if d < 26 then Char.ofNat ('a'.toNat + d) else Char.ofNat ('0'.toNat + (d - 26))

def digitValue? (c : Char) : Option Nat :=
  if 'a' ≤ c ∧ c ≤ 'z' then some (c.toNat - 'a'.toNat)
  else if 'A' ≤ c ∧ c ≤ 'Z' then some (c.toNat - 'A'.toNat)
  else if '0' ≤ c ∧ c ≤ '9' then some (c.toNat - '0'.toNat + 26)
  else none

/-- Below which value the digit at a place, counted in bases, ends a number. -/
def threshold (place offset : Nat) : Nat :=
  if place ≤ offset then 1 else if offset + 26 ≤ place then 26 else place - offset

/-- Divides a size until it is small, and counts the bases for it. -/
def shrink (size bases : Nat) : Nat × Nat :=
  if size ≤ 455 then (size, bases) else shrink (size / 35) (bases + base)
termination_by size
decreasing_by omega

/-- The offset for the next number, given the last one, how many characters there are now, and
whether it was the first. -/
def adapted (last count : Nat) (isFirst : Bool) : Nat :=
  let size := if isFirst then last / 700 else last / 2
  let (size, bases) := shrink (size + size / count) 0
  bases + base * size / (size + 38)

/-! ## Writing -/

/-- The digits of a number, from a place on. The first argument bounds their count. -/
def digits (offset : Nat) : Nat → Nat → Nat → List Char
  | 0, _, _ => []
  | fuel + 1, place, n =>
    let t := threshold place offset
    if n < t then [digit n]
    else
      digit (t + (n - t) % (base - t))
        :: digits offset fuel (place + base) ((n - t) / (base - t))

/-- What writing has come to: the steps since the last number, the offset, how many characters are
written, and what is written, last character first. -/
structure Writing where
  steps : Nat
  offset : Nat
  count : Nat
  written : List Char

/-- Passes a character of the label when code point `n` has its turn. -/
def Writing.pass (isFirst : Nat → Bool) (n : Nat) (w : Writing) (c : Char) : Writing :=
  if c.toNat < n then { w with steps := w.steps + 1 }
  else if c.toNat = n then
    { steps := 0
      offset := adapted w.steps (w.count + 1) (isFirst w.count)
      count := w.count + 1
      written := (digits w.offset (w.steps.log2 + 2) base w.steps).reverse ++ w.written }
  else w

/-- Passes the label once for each of its code points beyond ASCII, in their order; `next` is the
code point that has its turn. -/
def Writing.passAll (isFirst : Nat → Bool) (label : List Char) :
    Nat → Writing → List Nat → Writing
  | _, w, [] => w
  | next, w, n :: ns =>
    let w := { w with steps := w.steps + (n - next) * (w.count + 1) }
    let w := label.foldl (Writing.pass isFirst n) w
    passAll isFirst label (n + 1) { w with steps := w.steps + 1 } ns

def encode (label : List Char) : List Char :=
  let narrow := label.filter (·.toNat < firstWide)
  let wide := (label.filter (firstWide ≤ ·.toNat)).map Char.toNat
  let order := (wide.mergeSort (fun a b => decide (a ≤ b))).eraseDups
  let front := if narrow.isEmpty then [] else narrow ++ ['-']
  let start : Writing := ⟨0, firstOffset, narrow.length, front.reverse⟩
  (Writing.passAll (· == narrow.length) label firstWide start order).written.reverse

/-! ## Reading -/

/-- Reads a number: the steps behind `steps`, and what is left. `weight` is that of the next
digit. -/
def readNumber (offset : Nat) : Nat → Nat → Nat → List Char → Option (Nat × List Char)
  | _, _, _, [] => none
  | place, weight, steps, c :: cs => do
    let d ← digitValue? c
    let t := threshold place offset
    if d < t then some (steps + d * weight, cs)
    else readNumber offset (place + base) (weight * (base - t)) (steps + d * weight) cs

def isCharacter (n : Nat) : Bool := n < 0xD800 || (0xDFFF < n && n < 0x110000)

/-- Reads the characters beyond ASCII into the others. The first argument bounds their count. -/
def insertAll : Nat → Nat → Nat → Nat → List Char → List Char → Option (List Char)
  | _, _, _, _, label, [] => some label
  | 0, _, _, _, _, _ => none
  | fuel + 1, offset, n, place, label, cs => do
    let (steps, rest) ← readNumber offset base 1 place cs
    let count := label.length + 1
    let m := n + steps / count
    if isCharacter m then
      let spot := steps % count
      insertAll fuel (adapted (steps - place) count (place == 0)) m (spot + 1)
        (label.take spot ++ Char.ofNat m :: label.drop spot) rest
    else none

/-- The ASCII characters of a written label, which stand in front of its last hyphen, and the
numbers behind it. -/
def atLastHyphen (cs : List Char) : List Char × List Char :=
  match cs.reverse.dropWhile (· ≠ '-') with
  | _ :: c :: front => ((c :: front).reverse, (cs.reverse.takeWhile (· ≠ '-')).reverse)
  | _ => ([], cs)

def decode? (cs : List Char) : Option (List Char) :=
  let (narrow, numbers) := atLastHyphen cs
  insertAll numbers.length firstOffset firstWide 0 narrow numbers

/-- A name with one letter beyond ASCII. -/
example : String.ofList (encode "exämple".toList) = "exmple-cua" := by decide +kernel

end PeerRules.Url.Punycode
