import PeerRules.Json.Lexeme
import PeerRules.Json.Value

/-!
# Reading documents

`value` reads one document of bounded depth. `ignored` passes over one whose content does not
matter: it follows the syntax but looks neither at the range of numbers, nor at the pairing of
surrogates, nor at the depth.

`parse` reads a text that holds one document and nothing else.
-/
namespace PeerRules.Json.Reader

/-- How many containers may be open at once, less one: a document this deep is refused. -/
def depthLimit : Nat := 128

/-- Whether another item of an array follows; the first item has no comma before it. -/
def nextItem (first : Bool) : Reader Bool := do
  match ← peekToken with
  | none => refuseAhead .endInArray
  | some ']' => pure false
  | some c =>
    if first then pure true
    else if c = ',' then do
      skip
      match ← peekToken with
      | some ']' => refuseAhead .trailingComma
      | some _ => pure true
      | none => refuseAhead .endInValue
    else refuseAhead .arrayCommaOrEndExpected

/-- Whether another member of an object follows; its key has been begun but not read. -/
def nextMember (first : Bool) : Reader Bool := do
  match ← peekToken with
  | none => refuseAhead .endInObject
  | some '\x7d' => pure false
  | some c =>
    if first then
      if c = '"' then pure true else refuseAhead .keyNotText
    else if c = ',' then do
      skip
      match ← peekToken with
      | some '"' => pure true
      | some '\x7d' => refuseAhead .trailingComma
      | some _ => refuseAhead .keyNotText
      | none => refuseAhead .endInValue
    else refuseAhead .objectCommaOrEndExpected

def key : Reader String := do
  skip
  stringBody

def colon : Reader Unit := do
  match ← peekToken with
  | some ':' => skip
  | some _ => refuseAhead .colonExpected
  | none => refuseAhead .endInObject

def closeArray : Reader Unit := do
  match ← peekToken with
  | some ']' => skip
  | some ',' => do
    skip
    match ← peekToken with
    | some ']' => refuseAhead .trailingComma
    | _ => refuseAhead .trailingCharacters
  | some _ => refuseAhead .trailingCharacters
  | none => refuseAhead .endInArray

def closeObject : Reader Unit := do
  match ← peekToken with
  | some '\x7d' => skip
  | some ',' => refuseAhead .trailingComma
  | some _ => refuseAhead .trailingCharacters
  | none => refuseAhead .endInObject

/-- A document that holds no other, at its first character. -/
def scalar (c : Char) : Reader Value :=
  match c with
  | 'n' => do skip; word "ull".toList; pure .null
  | 't' => do skip; word "rue".toList; pure (.bool true)
  | 'f' => do skip; word "alse".toList; pure (.bool false)
  | '-' => do skip; return .number (← number true)
  | '"' => do skip; return .string (← stringBody)
  | c => if (Text.Numeral.digit? c).isSome then return .number (← number false)
    else refuseAhead .valueExpected

mutual

/-- One document; `depth` containers more may be opened, less one. The first argument bounds the
number of steps. -/
def value : Nat → Nat → Reader Value
  | 0, _ => refuseAhead .endInValue
  | fuel + 1, depth => do
    match ← peekToken with
    | none => refuseAhead .endInValue
    | some '[' =>
      if depth ≤ 1 then refuseAhead .tooDeep
      else do
        skip
        let items ← valueItems fuel (depth - 1) true
        closeArray
        pure (.array items)
    | some '\x7b' =>
      if depth ≤ 1 then refuseAhead .tooDeep
      else do
        skip
        let members ← valueMembers fuel (depth - 1) true []
        closeObject
        pure (.object members)
    | some c => scalar c

/-- The items of an array, up to its bracket. -/
def valueItems : Nat → Nat → Bool → Reader (List Value)
  | 0, _, _ => refuseAhead .endInArray
  | fuel + 1, depth, first => do
    if ← nextItem first then
      let v ← value fuel depth
      let rest ← valueItems fuel depth false
      pure (v :: rest)
    else pure []

/-- The members of an object, up to its brace, put in order behind the ones already read. -/
def valueMembers : Nat → Nat → Bool → Members → Reader Members
  | 0, _, _, _ => refuseAhead .endInObject
  | fuel + 1, depth, first, members => do
    if ← nextMember first then
      let k ← key
      colon
      let v ← value fuel depth
      valueMembers fuel depth false (members.insert k v)
    else pure members

end

/-- Enough steps for the rest of the text: every step but the entry into a container and its end
takes a character. -/
def steps : Reader Nat := do
  return 2 * (← remaining) + 4

def anyValue (depth : Nat) : Reader Value := do
  value (← steps) depth

/-- Nothing but blanks up to the end of the text. -/
def finish : Reader Unit := do
  match ← peekToken with
  | some _ => refuseAhead .trailingCharacters
  | none => pure ()

/-! ## Passing over a document -/

def ignoredString : Nat → Reader Unit
  | 0 => refuseHere .endInString
  | fuel + 1 => do
    match ← peek with
    | none => refuseHere .endInString
    | some '"' => skip
    | some '\\' => do
      skip
      match ← peek with
      | none => refuseHere .endInString
      | some 'u' => do
        skip
        let _ ← hexEscape
        ignoredString fuel
      | some e =>
        if (escaped? e).isSome then do skip; ignoredString fuel else refuseAhead .badEscape
    | some c => if c.toNat < 32 then refuseHere .controlCharacter else do skip; ignoredString fuel

/-- The exponent of a number of no interest, if it has one. -/
def ignoredExponent : Reader Unit := do
  if opensExponent (← peek) then
    skip
    let sign ← peek
    if sign = some '+' || sign = some '-' then skip
    if (← peekDigit).isSome then let _ ← skipDigits (← remaining) 0
    else refuseAhead .badNumber

def ignoredNumber : Reader Unit := do
  match ← peekDigit with
  | none => refuseAhead .badNumber
  | some 0 =>
    skip
    if (← peekDigit).isSome then refuseAhead .badNumber
  | some _ => let _ ← skipDigits (← remaining) 0
  if (← peek) = some '.' then
    skip
    if (← skipDigits (← remaining) 0) = 0 then refuseAhead .badNumber
  ignoredExponent

def ignoredScalar (c : Char) : Reader Unit :=
  match c with
  | '"' => do skip; ignoredString ((← remaining) + 1)
  | '-' => do skip; ignoredNumber
  | c => if (Text.Numeral.digit? c).isSome then ignoredNumber else do let _ ← scalar c

mutual

def ignoredValue : Nat → Reader Unit
  | 0 => refuseAhead .endInValue
  | fuel + 1 => do
    match ← peekToken with
    | none => refuseAhead .endInValue
    | some '[' => do skip; ignoredItems fuel true
    | some '\x7b' => do skip; ignoredMembers fuel true
    | some c => ignoredScalar c

def ignoredItems : Nat → Bool → Reader Unit
  | 0, _ => refuseAhead .endInArray
  | fuel + 1, first => do
    match ← peekToken with
    | none => refuseAhead .endInArray
    | some ']' => skip
    | some c =>
      if first then do
        ignoredValue fuel
        ignoredItems fuel false
      else if c = ',' then do
        skip
        ignoredValue fuel
        ignoredItems fuel false
      else refuseAhead .arrayCommaOrEndExpected

def ignoredMembers : Nat → Bool → Reader Unit
  | 0, _ => refuseAhead .endInObject
  | fuel + 1, first => do
    match ← peekToken with
    | none => refuseAhead .endInObject
    | some '\x7d' => skip
    | some c =>
      if first || c = ',' then do
        if first then pure () else skip
        match ← peekToken with
        | some '"' => skip
        | some _ => refuseAhead .keyNotText
        | none => refuseAhead .endInObject
        ignoredString ((← remaining) + 1)
        colon
        ignoredValue fuel
        ignoredMembers fuel false
      else refuseAhead .objectCommaOrEndExpected

end

/-- Passes over one document. -/
def ignored : Reader Unit := do
  ignoredValue (← steps)

/-- A text that holds one document. -/
def parse (text : String) : Except Refusal Value :=
  run (do let v ← anyValue depthLimit; finish; pure v) text

end PeerRules.Json.Reader
