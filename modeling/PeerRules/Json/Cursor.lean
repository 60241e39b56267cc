/-!
# Reading a text, character by character

A cursor is the rest of a text with the place of its first character: the line, from 1, and the
number of bytes already read on that line. A reader takes characters off a cursor and gives a
result, or refuses with a problem and the place where it was seen.

Most problems are seen at the next character and placed one byte behind it; the others are placed
where the cursor stands.
-/
namespace PeerRules.Json

/-- A line, from 1, and a number of bytes on it. -/
structure Place where
  line : Nat
  column : Nat
  deriving DecidableEq, Repr

/-- What can be wrong with a text that should be a document. -/
inductive Problem where
  | endInArray
  | endInObject
  | endInString
  | endInValue
  | colonExpected
  | arrayCommaOrEndExpected
  | objectCommaOrEndExpected
  | wordExpected
  | valueExpected
  | badEscape
  | badNumber
  | numberOutOfRange
  | keyNotText
  | controlCharacter
  | loneSurrogate
  | unfinishedSurrogate
  | trailingComma
  | trailingCharacters
  | tooDeep
  /-- The document is well formed but not of the shape asked for. -/
  | shape (text : String)
  deriving DecidableEq, Repr

def Problem.message : Problem → String
  | .endInArray => "EOF while parsing a list"
  | .endInObject => "EOF while parsing an object"
  | .endInString => "EOF while parsing a string"
  | .endInValue => "EOF while parsing a value"
  | .colonExpected => "expected `:`"
  | .arrayCommaOrEndExpected => "expected `,` or `]`"
  | .objectCommaOrEndExpected => "expected `,` or `\x7d`"
  | .wordExpected => "expected ident"
  | .valueExpected => "expected value"
  | .badEscape => "invalid escape"
  | .badNumber => "invalid number"
  | .numberOutOfRange => "number out of range"
  | .keyNotText => "key must be a string"
  | .controlCharacter => "control character (\\u0000-\\u001F) found while parsing a string"
  | .loneSurrogate => "lone leading surrogate in hex escape"
  | .unfinishedSurrogate => "unexpected end of hex escape"
  | .trailingComma => "trailing comma"
  | .trailingCharacters => "trailing characters"
  | .tooDeep => "recursion limit exceeded"
  | .shape text => text

structure Refusal where
  problem : Problem
  place : Place
  deriving DecidableEq, Repr

/-- The wording of a refusal, with its place. -/
def Refusal.message (r : Refusal) : String :=
  r.problem.message ++ " at line " ++ toString r.place.line ++ " column " ++ toString r.place.column

/-- The rest of a text and the place of its first character. -/
structure Cursor where
  rest : List Char
  place : Place

namespace Cursor

def start (text : String) : Cursor := ⟨text.toList, ⟨1, 0⟩⟩

/-- The place one byte on, or the same place at the end of the text. -/
def ahead (c : Cursor) : Place :=
  match c.rest with
  | [] => c.place
  | '\n' :: _ => ⟨c.place.line + 1, 0⟩
  | _ => ⟨c.place.line, c.place.column + 1⟩

def advance (c : Cursor) : Cursor :=
  match c.rest with
  | [] => c
  | '\n' :: rest => ⟨rest, ⟨c.place.line + 1, 0⟩⟩
  | ch :: rest => ⟨rest, ⟨c.place.line, c.place.column + ch.utf8Size⟩⟩

def toEnd (c : Cursor) : Cursor :=
  c.rest.foldl (fun cur _ => cur.advance) c

end Cursor

abbrev Reader (α : Type) : Type := StateT Cursor (Except Refusal) α

namespace Reader

variable {α : Type}

def refuseAhead (p : Problem) : Reader α := fun c => .error ⟨p, c.ahead⟩

def refuseHere (p : Problem) : Reader α := fun c => .error ⟨p, c.place⟩

/-- The next character, left in place. -/
def peek : Reader (Option Char) := fun c => .ok (c.rest.head?, c)

def skip : Reader Unit := fun c => .ok ((), c.advance)

/-- Blanks between the tokens of a document. -/
def isSpace (c : Char) : Bool := c = ' ' || c = '\n' || c = '\t' || c = '\r'

/-- Passes the blanks, however many there are. -/
def skipSpaces : Reader Unit := fun c =>
  .ok ((), (c.rest.takeWhile isSpace).foldl (fun cur _ => cur.advance) c)

/-- The next character behind the blanks, left in place. -/
def peekToken : Reader (Option Char) := do
  skipSpaces
  peek

/-- The number of characters left, which bounds every loop over the rest of the text. -/
def remaining : Reader Nat := fun c => .ok (c.rest.length, c)

def run (r : Reader α) (text : String) : Except Refusal α :=
  (r (Cursor.start text)).map (·.1)

end Reader

end PeerRules.Json
