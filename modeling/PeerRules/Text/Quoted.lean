import PeerRules.Text.Hidden

/-!
# Quoted text

How a text is shown inside a message: between quotes, with the quote and the backslash escaped,
line feed, carriage return, tab and NUL by letter, and every other hidden character by its number in
braces.
-/
namespace PeerRules.Text.Quoted

/-- The shown form of one character. -/
def escape (c : Char) : List Char :=
  if c = '"' then ['\\', '"']
  else if c = '\\' then ['\\', '\\']
  else if c = '\n' then ['\\', 'n']
  else if c = '\r' then ['\\', 'r']
  else if c = '\t' then ['\\', 't']
  else if c.toNat = 0 then ['\\', '0']
  else if isHidden c then '\\' :: 'u' :: '\x7b' :: Nat.toDigits 16 c.toNat ++ ['\x7d']
  else [c]

def quote (s : String) : String :=
  String.ofList ('"' :: s.toList.flatMap escape ++ ['"'])

/-- A line separator has no glyph. -/
example : quote "\u2028" = "\"\\u\x7b2028\x7d\"" := by decide +kernel

end PeerRules.Text.Quoted
