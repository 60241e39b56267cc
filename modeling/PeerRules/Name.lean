import PeerRules.Fault
import PeerRules.Text.Blank

/-!
# Names

A name is a text with at least one character that is not blank. It is kept as it was given, blanks
around it included.

* `ofText_eq_ok_iff`: a text is a name exactly when it is not all blank.
-/
namespace PeerRules

/-- A text that says something (`NonEmptyString`). -/
structure Name where
  text : String
  notBlank : Text.allBlank text = false
  deriving DecidableEq

namespace Name

/-- The name that a text is, if it says something. -/
def ofText (s : String) : Except Fault Name :=
  if h : Text.allBlank s = false then .ok ⟨s, h⟩
  else .error (.validation "value must not be empty or whitespace")

theorem ofText_eq_ok_iff (s : String) (n : Name) : ofText s = .ok n ↔ n.text = s := by
  unfold ofText
  split
  · constructor
    · intro h
      cases h
      rfl
    · intro h
      obtain ⟨t, ht⟩ := n
      subst h
      rfl
  · next hs =>
    constructor
    · intro h
      cases h
    · intro h
      exact absurd (h ▸ n.notBlank) hs

end Name

end PeerRules
