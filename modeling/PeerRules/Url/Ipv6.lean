import PeerRules.Url.Escape

/-!
# Addresses of eight words

A host can be a number of 128 bits: eight words in hexadecimal with colons between them. Zeros may
be left out once, at two colons in a row, and the last two words may be four decimal bytes.
-/
namespace PeerRules.Url.Ipv6

def word? (cs : List Char) : Option Nat :=
  if cs.isEmpty ∨ 4 < cs.length then none
  else cs.foldlM (fun n c => do return n * 16 + (← hexValue? c)) 0

def byteOf? (cs : List Char) : Option Nat :=
  match cs with
  | ['0'] => some 0
  | '0' :: _ => none
  | [] => none
  | cs => do
    let n ← cs.foldlM (fun n c =>
      if '0' ≤ c ∧ c ≤ '9' then some (n * 10 + (c.toNat - '0'.toNat)) else none) 0
    if n < 256 then some n else none

/-- Two words as four decimal bytes. -/
def bytes? (cs : List Char) : Option (List Nat) :=
  match (cs.splitOn '.').mapM byteOf? with
  | some [a, b, c, d] => some [a * 256 + b, c * 256 + d]
  | _ => none

/-- The words of a part without two colons in a row; the last two may be bytes. -/
def words? (mayEndInBytes : Bool) (cs : List Char) : Option (List Nat) :=
  match (cs.splitOn ':').reverse with
  | [] => none
  | last :: front => do
    let ws ← front.reverse.mapM word?
    let vs ←
      if mayEndInBytes ∧ last.contains '.' then bytes? last else (word? last).map fun w => [w]
    return ws ++ vs

/-- The words of a part that may be empty. -/
def wordsOrNone? (mayEndInBytes : Bool) (cs : List Char) : Option (List Nat) :=
  if cs.isEmpty then some [] else words? mayEndInBytes cs

/-- What stands in front of the first two colons in a row, and what stands behind them. -/
def atGap? : List Char → Option (List Char × List Char)
  | ':' :: ':' :: rest => some ([], rest)
  | c :: rest => (atGap? rest).map fun (front, behind) => (c :: front, behind)
  | [] => none

/-- Words with the zeros that were left out between them. -/
def filled? (front behind : List Nat) : Option (List Nat) :=
  let count := front.length + behind.length
  if count < 8 then some (front ++ List.replicate (8 - count) 0 ++ behind) else none

def parse? (cs : List Char) : Option (List Nat) :=
  match atGap? cs with
  | some (front, behind) => do
    let fs ← wordsOrNone? false front
    let bs ← wordsOrNone? true behind
    filled? fs bs
  | none => do
    let ws ← words? true cs
    if ws.length = 8 then some ws else none

def zeros (ws : List Nat) : Nat := (ws.takeWhile (· = 0)).length

def longestRun : List Nat → Nat
  | [] => 0
  | w :: ws => max (zeros (w :: ws)) (longestRun ws)

def joined (ws : List Nat) : List Char :=
  List.intercalate [':'] (ws.map (Nat.toDigits 16))

/-- What stands in front of the first run of so many zeros, and what stands behind it. -/
def atRun (run : Nat) : List Nat → List Nat × List Nat
  | [] => ([], [])
  | w :: ws =>
    if zeros (w :: ws) = run then ([], (w :: ws).drop run)
    else
      let (front, behind) := atRun run ws
      (w :: front, behind)

/-- Eight words as text: the longest run of zeros is left out, and the first of several, unless it
is a single zero. -/
def text (ws : List Nat) : String :=
  let run := longestRun ws
  if run < 2 then String.ofList (joined ws)
  else
    let (front, behind) := atRun run ws
    String.ofList (joined front ++ ':' :: ':' :: joined behind)

/-- The longest run of zeros is left out. -/
example : (parse? "1:0:0:2:0:0:0:3".toList).map text = some "1:0:0:2::3" := by decide +kernel

end PeerRules.Url.Ipv6
