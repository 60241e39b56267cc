import PeerRules.Text.Utf8

/-!
# Escapes in addresses

A part of an address holds only some of the ASCII characters. The bytes of all others are written in
hexadecimal behind a percent sign. Which characters are escaped depends on the part.
-/
namespace PeerRules.Url

open Text

/-! ## What is escaped -/

/-- Escaped in every part: what is not printable ASCII. -/
def escapedAnywhere (c : Char) : Bool := c.toNat < 0x20 || 0x7F ≤ c.toNat

def escapedInQuery (c : Char) : Bool :=
  escapedAnywhere c || c == ' ' || c == '"' || c == '#' || c == '<' || c == '>'

def escapedInWebQuery (c : Char) : Bool := escapedInQuery c || c == '\''

def escapedInFragment (c : Char) : Bool :=
  escapedAnywhere c || c == ' ' || c == '"' || c == '<' || c == '>' || c.toNat == 0x60

def escapedInPath (c : Char) : Bool :=
  escapedInFragment c || c == '#' || c == '?' || c == '{' || c == '}'

def escapedInLogin (c : Char) : Bool :=
  escapedInPath c || c == '/' || c == ':' || c == ';' || c == '=' || c == '@' || c == '['
    || c == '\\' || c == ']' || c == '^' || c == '|'

/-! ## Writing and reading -/

def escapedByte (b : UInt8) : List Char :=
  ['%', (Nat.digitChar (b.toNat / 16)).toUpper, (Nat.digitChar (b.toNat % 16)).toUpper]

/-- Writes a text, and escapes some of its characters. -/
def escape (isEscaped : Char → Bool) (cs : List Char) : List Char :=
  cs.flatMap fun c =>
    if isEscaped c then (String.utf8EncodeChar c).flatMap escapedByte else [c]

def hexValue? (c : Char) : Option Nat :=
  if '0' ≤ c ∧ c ≤ '9' then some (c.toNat - '0'.toNat)
  else if 'a' ≤ c ∧ c ≤ 'f' then some (c.toNat - 'a'.toNat + 10)
  else if 'A' ≤ c ∧ c ≤ 'F' then some (c.toNat - 'A'.toNat + 10)
  else none

def byte? (high low : Char) : Option UInt8 := do
  return UInt8.ofNat ((← hexValue? high) * 16 + (← hexValue? low))

/-- The bytes that a text stands for. A percent sign without two digits stands for itself. -/
def unescape : List Char → List UInt8
  | '%' :: high :: low :: rest =>
    match byte? high low with
    | some b => b :: unescape rest
    | none => 0x25 :: unescape (high :: low :: rest)
  | c :: rest => String.utf8EncodeChar c ++ unescape rest
  | [] => []

/-- The text that a text stands for, if its bytes are one. -/
def unescapeText (cs : List Char) : Except Utf8.Refusal String :=
  (Utf8.decode (unescape cs)).map String.ofList

/-- A blank is escaped in a path. -/
example : escape escapedInPath "/a b".toList = "/a%20b".toList := by decide +kernel

end PeerRules.Url
