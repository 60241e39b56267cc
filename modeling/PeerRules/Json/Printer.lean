import PeerRules.Json.Value

/-!
# Documents as compact text

No spaces, members in their order. A text stands between quotes; the quote, the backslash and
control characters are escaped, all else is written as it is.
-/
namespace PeerRules.Json

def hexDigit (n : Nat) : Char := Nat.digitChar n

def escape (c : Char) : List Char :=
  if c = '"' then ['\\', '"']
  else if c = '\\' then ['\\', '\\']
  else if c = '\n' then ['\\', 'n']
  else if c = '\r' then ['\\', 'r']
  else if c = '\t' then ['\\', 't']
  else if c = Char.ofNat 8 then ['\\', 'b']
  else if c = Char.ofNat 12 then ['\\', 'f']
  else if c.toNat < 32 then
    ['\\', 'u', '0', '0', hexDigit (c.toNat / 16), hexDigit (c.toNat % 16)]
  else [c]

def quoted (s : String) : List Char := '"' :: s.toList.flatMap escape ++ ['"']

namespace Value

mutual

/-- The compact text of a document, as characters. -/
def chars : Value → List Char
  | .null => "null".toList
  | .bool true => "true".toList
  | .bool false => "false".toList
  | .number n => n.text.toList
  | .string s => quoted s
  | .array [] => ['[', ']']
  | .array (v :: rest) => '[' :: v.chars ++ itemsChars rest ++ [']']
  | .object [] => ['{', '}']
  | .object ((k, v) :: rest) => '{' :: quoted k ++ ':' :: v.chars ++ membersChars rest ++ ['}']

/-- The items behind the first one, each after a comma. -/
def itemsChars : List Value → List Char
  | [] => []
  | v :: rest => ',' :: v.chars ++ itemsChars rest

/-- The members behind the first one, each after a comma. -/
def membersChars : List (String × Value) → List Char
  | [] => []
  | (k, v) :: rest => ',' :: quoted k ++ ':' :: v.chars ++ membersChars rest

end

def text (v : Value) : String := String.ofList v.chars

end Value

end PeerRules.Json
