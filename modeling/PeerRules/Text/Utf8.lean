/-!
# Bytes as text

In UTF-8 a character is a first byte and up to three more, which only continue it. Bytes that are no
text are met in two ways: reading stops at them, or each broken sequence is read as one mark.
-/
namespace PeerRules.Text.Utf8

/-- What bytes begin with. -/
inductive Piece where
  | char (c : Char)
  /-- Bytes that begin a character which does not go on. -/
  | broken (length : Nat)
  /-- The last bytes, which begin a character. -/
  | cutOff (length : Nat)
  deriving DecidableEq, Repr

def Piece.length : Piece → Nat
  | .char c => c.utf8Size
  | .broken n | .cutOff n => n

/-- For a first byte of a character of many bytes: how many more there are, and between which bounds
the next one lies. -/
def opening? (b : UInt8) : Option (Nat × UInt8 × UInt8) :=
  if b < 0xC2 then none
  else if b < 0xE0 then some (1, 0x80, 0xBF)
  else if b = 0xE0 then some (2, 0xA0, 0xBF)
  else if b = 0xED then some (2, 0x80, 0x9F)
  else if b < 0xF0 then some (2, 0x80, 0xBF)
  else if b = 0xF0 then some (3, 0x90, 0xBF)
  else if b < 0xF4 then some (3, 0x80, 0xBF)
  else if b = 0xF4 then some (3, 0x80, 0x8F)
  else none

/-- The bytes that continue a character: at most `count`, the first of them between two bounds. -/
def continuing : Nat → UInt8 → UInt8 → List UInt8 → List UInt8
  | count + 1, low, high, b :: bs =>
    if low ≤ b ∧ b ≤ high then b :: continuing count 0x80 0xBF bs else []
  | _, _, _, _ => []

/-- The bits that a first byte gives to a character of so many more bytes. -/
def openingBits (b : UInt8) (more : Nat) : Nat := b.toNat % (0x40 >>> more)

/-- The piece that a byte begins, given the bytes behind it. -/
def piece (b : UInt8) (bs : List UInt8) : Piece :=
  if b < 0x80 then .char (Char.ofNat b.toNat)
  else
    match opening? b with
    | none => .broken 1
    | some (more, low, high) =>
      let tail := continuing more low high bs
      if tail.length = more then
        .char (Char.ofNat (tail.foldl (fun n t => n * 64 + t.toNat % 64) (openingBits b more)))
      else if tail.length = bs.length then .cutOff (tail.length + 1)
      else .broken (tail.length + 1)

/-- Bytes in pieces. -/
def pieces : List UInt8 → List Piece
  | [] => []
  | b :: bs => piece b bs :: pieces (bs.drop ((piece b bs).length - 1))
termination_by bs => bs.length
decreasing_by
  rw [List.length_drop, List.length_cons]
  omega

/-- Why bytes are no text. -/
inductive Refusal where
  | broken (length place : Nat)
  | cutOff (place : Nat)
  deriving DecidableEq, Repr

def Refusal.message : Refusal → String
  | .broken length place =>
    "invalid utf-8 sequence of " ++ toString length ++ " bytes from index " ++ toString place
  | .cutOff place => "incomplete utf-8 byte sequence from index " ++ toString place

/-- The characters of pieces, the first of which begins at a place. -/
def readPieces (place : Nat) : List Piece → Except Refusal (List Char)
  | [] => .ok []
  | .char c :: rest => (readPieces (place + c.utf8Size) rest).map (c :: ·)
  | .broken n :: _ => .error (.broken n place)
  | .cutOff _ :: _ => .error (.cutOff place)

def decode (bs : List UInt8) : Except Refusal (List Char) := readPieces 0 (pieces bs)

/-- What is read for bytes that are no character. -/
def mark : Char := Char.ofNat 0xFFFD

/-- Reads a text with a mark for everything that is no character. -/
def lossy (bs : List UInt8) : List Char :=
  (pieces bs).map fun
    | .char c => c
    | .broken _ | .cutOff _ => mark

def encode (cs : List Char) : List UInt8 := cs.flatMap String.utf8EncodeChar

/-- A character that breaks off in the middle. -/
example : lossy [0x61, 0xE2, 0x82] = ['a', mark] := by decide +kernel

end PeerRules.Text.Utf8
