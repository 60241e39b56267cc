/-!
# The digest of a script

A script that the key server has kept is called by a digest of its text: SHA-1, in hexadecimal. The
text is padded to blocks of 64 bytes, and each block is worked into five words of 32 bits.
-/
namespace PeerRules.Lease.Digest

def turn (w : UInt32) (bits : UInt32) : UInt32 := (w <<< bits) ||| (w >>> (32 - bits))

/-- A number as eight bytes, the highest first. -/
def bytes8 (n : Nat) : List UInt8 :=
  (List.range 8).reverse.map fun i => UInt8.ofNat (n / Nat.pow 256 i)

/-- How many zeros fill the last block of a text of `n` bytes. -/
def zeros (n : Nat) : Nat := 63 - (n + 8) % 64

/-- A text with its padding: one bit, zeros, and its length in bits. -/
def padded (bs : List UInt8) : List UInt8 :=
  bs ++ 0x80 :: (List.replicate (zeros bs.length) 0 ++ bytes8 (8 * bs.length))

/-- Four bytes as a word, and so on. -/
def words : List UInt8 → List UInt32
  | a :: b :: c :: d :: rest =>
    ((a.toUInt32 <<< 24) ||| (b.toUInt32 <<< 16) ||| (c.toUInt32 <<< 8) ||| d.toUInt32) ::
      words rest
  | _ => []

/-- The words of a schedule, the latest first, with `count` more in front. -/
def extend : Nat → List UInt32 → List UInt32
  | 0, ws => ws
  | count + 1, ws =>
    extend count (turn (ws.getD 2 0 ^^^ ws.getD 7 0 ^^^ ws.getD 13 0 ^^^ ws.getD 15 0) 1 :: ws)

/-- The five words that are worked on. -/
structure State where
  a : UInt32
  b : UInt32
  c : UInt32
  d : UInt32
  e : UInt32

def State.initial : State := ⟨0x67452301, 0xEFCDAB89, 0x98BADCFE, 0x10325476, 0xC3D2E1F0⟩

/-- The mixture of three words in a round, and the round's constant. -/
def mixture (round : Nat) (b c d : UInt32) : UInt32 × UInt32 :=
  if round < 20 then ((b &&& c) ||| (~~~b &&& d), 0x5A827999)
  else if round < 40 then (b ^^^ c ^^^ d, 0x6ED9EBA1)
  else if round < 60 then ((b &&& c) ||| (b &&& d) ||| (c &&& d), 0x8F1BBCDC)
  else (b ^^^ c ^^^ d, 0xCA62C1D6)

def State.mix (s : State) (round : Nat) (w : UInt32) : State :=
  let (f, k) := mixture round s.b s.c s.d
  ⟨turn s.a 5 + f + s.e + k + w, s.a, turn s.b 30, s.c, s.d⟩

def State.rounds : State → Nat → List UInt32 → State
  | s, _, [] => s
  | s, round, w :: ws => (s.mix round w).rounds (round + 1) ws

/-- Works in a block of sixteen words. -/
def State.absorb (s : State) (block : List UInt32) : State :=
  let t := s.rounds 0 (extend 64 block.reverse).reverse
  ⟨s.a + t.a, s.b + t.b, s.c + t.c, s.d + t.d, s.e + t.e⟩

def State.absorbAll : Nat → State → List UInt32 → State
  | 0, s, _ => s
  | count + 1, s, ws => absorbAll count (s.absorb (ws.take 16)) (ws.drop 16)

def hex (w : UInt32) : List Char :=
  (List.range 8).reverse.map fun i => Nat.digitChar (w.toNat / Nat.pow 16 i % 16)

def ofText (s : String) : String :=
  let ws := words (padded s.toUTF8.toList)
  let t := State.absorbAll (ws.length / 16) .initial ws
  String.ofList ([t.a, t.b, t.c, t.d, t.e].flatMap hex)

end PeerRules.Lease.Digest
