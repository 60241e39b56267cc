import PeerRules.Url.Domain.Direction
import PeerRules.Url.Domain.Joining
import PeerRules.Url.Domain.Mapping
import PeerRules.Url.Punycode

/-!
# Names of hosts

A host name is made of labels with points between them. Names are looked up in ASCII: the characters
are replaced by what they stand for, the text is composed, and a label with other characters is
written in ASCII behind a mark.
-/
namespace PeerRules.Url.Domain

open Text

/-- What a label begins with whose characters are written in ASCII. -/
def asciiMark : List Char := ['x', 'n', '-', '-']

def isAscii (cs : List Char) : Bool := cs.all (·.toNat < 0x80)

/-- Whether a label can be meant: it does not begin with a mark, each character stands for itself,
and joiners are where they make a difference. -/
def isSound (label : List Char) : Bool :=
  (label.head?.all fun c => !isMark c) && label.all isPlain && hasPlacedJoiners [] label

/-- The label that a label in ASCII behind the mark was made from: it is composed, has characters
beyond ASCII, and no mark of its own. -/
def unmarked? (written : List Char) : Option (List Char) := do
  let label ← Punycode.decode? written
  if !isAscii label && Composed.compose label == label && !asciiMark.isPrefixOf label then
    some label
  else none

def meant? (label : List Char) : Option (List Char) := do
  let label ← if asciiMark.isPrefixOf label then unmarked? (label.drop 4) else some label
  if isSound label then some label else none

def written (label : List Char) : List Char :=
  if isAscii label then label else asciiMark ++ Punycode.encode label

/-- Whether a character cannot stand in a name, since it ends a host or escapes something. -/
def isForbidden (c : Char) : Bool :=
  c.toNat ≤ 0x20 || c.toNat == 0x7F
    || ['#', '/', ':', '<', '>', '?', '@', '[', '\\', ']', '^', '|', '%'].contains c

/-- Whether the labels of a name go together: with a script from the right, each has one
direction. -/
def areOriented (labels : List (List Char)) : Bool :=
  !(labels.any (·.any isFromRight)) || labels.all isOriented

def toAscii? (name : List Char) : Option (List Char) := do
  let characters ← name.mapM target
  let labels ← ((Composed.compose characters.flatten).splitOn '.').mapM meant?
  let ascii := List.intercalate ['.'] (labels.map written)
  if areOriented labels && !ascii.any isForbidden then some ascii else none

end PeerRules.Url.Domain
