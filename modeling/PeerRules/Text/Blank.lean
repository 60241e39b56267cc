/-!
# Blank characters and trimming

`isBlank` is the Unicode property `White_Space`. Texts are trimmed of it on both ends before they
are read as names, numbers, addresses or identifiers.

* `trimList_blank_append`: blanks in front of a text change nothing.
-/
namespace PeerRules.Text

/-- The Unicode property `White_Space`. -/
def isBlank (c : Char) : Bool :=
  let n := c.toNat
  (0x9 ≤ n && n ≤ 0xD) || n == 0x20 || n == 0x85 || n == 0xA0 || n == 0x1680
    || (0x2000 ≤ n && n ≤ 0x200A) || n == 0x2028 || n == 0x2029 || n == 0x202F
    || n == 0x205F || n == 0x3000

def trimList (cs : List Char) : List Char :=
  ((cs.dropWhile isBlank).reverse.dropWhile isBlank).reverse

def trim (s : String) : String := String.ofList (trimList s.toList)

def allBlank (s : String) : Bool := s.toList.all isBlank

/-- The trimmed text, when something is left of it. -/
def trimmed? (s : String) : Option String := if allBlank s then none else some (trim s)

theorem trimList_blank_append (bs cs : List Char) (h : bs.all isBlank = true) :
    trimList (bs ++ cs) = trimList cs := by
  induction bs with
  | nil => rfl
  | cons b bs ih =>
    simp only [List.all_cons, Bool.and_eq_true] at h
    rw [← ih h.2]
    simp [trimList, h.1]

end PeerRules.Text
