import PeerRules.Json.Cursor
import PeerRules.Json.Number
import PeerRules.Text.Numeral

/-!
# Words, numbers and texts of a document

The readers of what stands between the brackets. A number without a point or an exponent is an
integer as long as 64 bits hold it; any other number is a float, and so is a negative zero. The
significand of a float keeps the leading digits that 64 bits hold; further digits count only for
their number.

A text may hold escapes. Characters outside the basic plane are escaped as two surrogates, and a
surrogate without its partner is refused.
-/
namespace PeerRules.Json.Reader

/-- The rest of a word whose first letter has been read. -/
def word : List Char → Reader Unit
  | [] => pure ()
  | w :: ws => do
    match ← peek with
    | none => refuseAhead .endInValue
    | some c => if c = w then do skip; word ws else refuseAhead .wordExpected

def peekDigit : Reader (Option Nat) := do
  return (← peek).bind Text.Numeral.digit?

def skipDigits : Nat → Nat → Reader Nat
  | 0, count => pure count
  | fuel + 1, count => do
    match ← peekDigit with
    | some _ => do skip; skipDigits fuel (count + 1)
    | none => pure count

/-- Reads digits behind the significand `n` for as long as 64 bits hold it. Gives the significand,
the digits taken, and whether a digit was left because it did not fit. -/
def takeDigits : Nat → Nat → Nat → Reader (Nat × Nat × Bool)
  | 0, n, count => pure (n, count, false)
  | fuel + 1, n, count => do
    match ← peekDigit with
    | none => pure (n, count, false)
    | some d =>
      if Text.Numeral.maxUnsigned < n * 10 + d then pure (n, count, true)
      else do skip; takeDigits fuel (n * 10 + d) (count + 1)

def toFloat (negative : Bool) (significand : Nat) (exponent : Int) : Reader Number :=
  match Binary64.ofScientific? negative significand exponent with
  | some f => pure (.float f)
  | none => refuseHere .numberOutOfRange

/-- The largest exponent that is told apart from a larger one. -/
def maxExponent : Nat := 0x7FFF_FFFF

/-- The digits of an exponent. An exponent beyond the largest one makes the number zero or too
large. -/
def exponentDigits (negative : Bool) (significand : Nat) (start : Int) (down : Bool) :
    Nat → Nat → Reader Number
  | 0, e => toFloat negative significand (if down then start - e else start + e)
  | fuel + 1, e => do
    match ← peekDigit with
    | none => toFloat negative significand (if down then start - e else start + e)
    | some d => do
      skip
      if maxExponent < e * 10 + d then
        if significand ≠ 0 ∧ ¬ down then refuseHere .numberOutOfRange
        else do
          let _ ← skipDigits fuel 0
          pure (.float (.zero negative))
      else exponentDigits negative significand start down fuel (e * 10 + d)

def exponent (negative : Bool) (significand : Nat) (start : Int) : Reader Number := do
  skip
  let sign ← peek
  if sign = some '+' || sign = some '-' then skip
  match ← peek with
  | none => refuseAhead .endInValue
  | some c =>
    match Text.Numeral.digit? c with
    | none => refuseAhead .badNumber
    | some d => do
      skip
      exponentDigits negative significand start (sign = some '-') (← remaining) d

def opensExponent (c : Option Char) : Bool := c = some 'e' || c = some 'E'

/-- The decimal places of a number, at its point. -/
def places (negative : Bool) (significand : Nat) (start : Int) : Reader Number := do
  skip
  let fuel ← remaining
  let (n, count, overflowed) ← takeDigits fuel significand 0
  if overflowed then
    let _ ← skipDigits fuel 0
  else if count = 0 then
    match ← peek with
    | some _ => refuseAhead .badNumber
    | none => refuseAhead .endInValue
  if opensExponent (← peek) then exponent negative n (start - count)
  else toFloat negative n (start - count)

/-- What follows the digits of a whole number. -/
def afterDigits (negative : Bool) (significand : Nat) : Reader Number := do
  let next ← peek
  if next = some '.' then places negative significand 0
  else if opensExponent next then exponent negative significand 0
  else if ¬ negative then pure (.int significand)
  else if significand = 0 ∨ Text.Numeral.maxSigned + 1 < significand then
    toFloat true significand 0
  else pure (.int (-(significand : Int)))

/-- A number whose sign has been read. -/
def number (negative : Bool) : Reader Number := do
  match ← peek with
  | none => refuseAhead .endInValue
  | some c =>
    match Text.Numeral.digit? c with
    | none => refuseAhead .badNumber
    | some 0 => do
      skip
      if (← peekDigit).isSome then refuseAhead .badNumber else afterDigits negative 0
    | some _ => do
      let fuel ← remaining
      let (n, _, overflowed) ← takeDigits fuel 0 0
      if ¬ overflowed then afterDigits negative n
      else do
        let dropped ← skipDigits fuel 0
        let next ← peek
        if next = some '.' then places negative n dropped
        else if opensExponent next then exponent negative n dropped
        else toFloat negative n dropped

def hexDigit? (c : Char) : Option Nat :=
  if '0' ≤ c ∧ c ≤ '9' then some (c.toNat - '0'.toNat)
  else if 'a' ≤ c ∧ c ≤ 'f' then some (c.toNat - 'a'.toNat + 10)
  else if 'A' ≤ c ∧ c ≤ 'F' then some (c.toNat - 'A'.toNat + 10)
  else none

/-- The characters that make up the next bytes, as many as asked for or a few more when the last one
is wide; `none` when the text ends before. -/
def nextBytes : Nat → List Char → Option (List Char)
  | 0, _ => some []
  | _ + 1, [] => none
  | n + 1, c :: rest => (nextBytes (n + 1 - c.utf8Size) rest).map (c :: ·)
termination_by _ cs => cs.length

/-- The place behind a number of bytes. -/
def placeAfter (place : Place) : Nat → List Char → Place
  | 0, _ => place
  | _ + 1, [] => place
  | n + 1, c :: rest =>
    if c = '\n' then placeAfter ⟨place.line + 1, 0⟩ n rest
    else placeAfter ⟨place.line, place.column + min (n + 1) c.utf8Size⟩ (n + 1 - c.utf8Size) rest
termination_by _ cs => cs.length

/-- The four digits of an escape by number. -/
def hexEscape : Reader Nat := fun c =>
  match nextBytes 4 c.rest with
  | none => .error ⟨.endInString, c.toEnd.place⟩
  | some cs =>
    match cs.mapM hexDigit? with
    | some ds => .ok (ds.foldl (fun n d => n * 16 + d) 0, cs.foldl (fun cur _ => cur.advance) c)
    | none => .error ⟨.badEscape, placeAfter c.place 4 c.rest⟩

/-- A character that must follow inside a surrogate pair. -/
def expectInPair (c : Char) : Reader Unit := do
  match ← peek with
  | none => refuseHere .endInString
  | some d => if d = c then skip else refuseAhead .unfinishedSurrogate

/-- A character escaped by number, behind the `u`. -/
def unicodeEscape : Reader Char := do
  let n ← hexEscape
  if 0xDC00 ≤ n ∧ n ≤ 0xDFFF then refuseHere .loneSurrogate
  else if n < 0xD800 ∨ 0xDBFF < n then pure (Char.ofNat n)
  else do
    expectInPair '\\'
    expectInPair 'u'
    let m ← hexEscape
    if m < 0xDC00 ∨ 0xDFFF < m then refuseHere .loneSurrogate
    else pure (Char.ofNat ((n - 0xD800) * 0x400 + (m - 0xDC00) + 0x10000))

/-- The character a letter stands for behind a backslash. -/
def escaped? : Char → Option Char
  | '"' => some '"'
  | '\\' => some '\\'
  | '/' => some '/'
  | 'b' => some (Char.ofNat 8)
  | 'f' => some (Char.ofNat 12)
  | 'n' => some '\n'
  | 'r' => some '\r'
  | 't' => some '\t'
  | _ => none

/-- The rest of a text whose opening quote has been read; `acc` holds what came before, last
character first. -/
def stringTail : Nat → List Char → Reader String
  | 0, _ => refuseHere .endInString
  | fuel + 1, acc => do
    match ← peek with
    | none => refuseHere .endInString
    | some '"' => do
      skip
      pure (String.ofList acc.reverse)
    | some '\\' => do
      skip
      match ← peek with
      | none => refuseHere .endInString
      | some 'u' => do
        skip
        let c ← unicodeEscape
        stringTail fuel (c :: acc)
      | some e =>
        match escaped? e with
        | some c => do
          skip
          stringTail fuel (c :: acc)
        | none => refuseAhead .badEscape
    | some c =>
      if c.toNat < 32 then refuseAhead .controlCharacter
      else do
        skip
        stringTail fuel (c :: acc)

/-- A text whose opening quote has been read. -/
def stringBody : Reader String := do
  stringTail ((← remaining) + 1) []

end PeerRules.Json.Reader
