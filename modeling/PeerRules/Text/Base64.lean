/-!
# Base64

Bytes as text: three bytes become four characters of an alphabet of 64, and a group that is not full
is padded.
-/
namespace PeerRules.Text.Base64

/-- The character for a number below 64. -/
def symbol (n : Nat) : Char :=
  if n < 26 then Char.ofNat ('A'.toNat + n)
  else if n < 52 then Char.ofNat ('a'.toNat + (n - 26))
  else if n < 62 then Char.ofNat ('0'.toNat + (n - 52))
  else if n = 62 then '+'
  else '/'

/-- The first `count` of the four digits of a group of 24 bits. -/
def digits (count group : Nat) : List Char :=
  ([group / 0x40000, group / 0x1000, group / 0x40, group].take count).map fun n => symbol (n % 64)

def encode : List UInt8 → List Char
  | [] => []
  | [a] => digits 2 (a.toNat * 65536) ++ ['=', '=']
  | [a, b] => digits 3 (a.toNat * 65536 + b.toNat * 256) ++ ['=']
  | a :: b :: c :: rest => digits 4 (a.toNat * 65536 + b.toNat * 256 + c.toNat) ++ encode rest

def ofText (s : String) : String := String.ofList (encode s.toUTF8.toList)

/-- A group of one byte has two pads. -/
example : encode [117, 58] = "dTo=".toList := by decide +kernel

end PeerRules.Text.Base64
