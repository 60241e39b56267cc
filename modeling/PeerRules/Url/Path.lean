import PeerRules.Url.Escape

/-!
# Paths

A path is a list of segments. A segment of one dot is left out, and one of two dots takes back the
segment before it; the dots may be escaped. What could be the letter of a drive is never taken back.
-/
namespace PeerRules.Url.Path

/-- What kind of address a path stands in. -/
inductive Kind where
  /-- A backslash parts segments, too. -/
  | web
  /-- A path of the web with drives. -/
  | file
  | other
  deriving DecidableEq, Repr

/-- Whether a character parts segments. -/
def Kind.parts (k : Kind) (c : Char) : Bool := c == '/' || (c == '\\' && k != .other)

def dots : List Char → Option Nat
  | [] => some 0
  | '.' :: rest => (dots rest).map (· + 1)
  | '%' :: '2' :: 'e' :: rest => (dots rest).map (· + 1)
  | '%' :: '2' :: 'E' :: rest => (dots rest).map (· + 1)
  | _ => none

/-- Whether a segment is a letter and one of two marks. -/
def isDrive : List Char → Bool
  | [c, d] => c.isAlpha && (d == ':' || d == '|')
  | _ => false

/-- A segment as it is kept behind others: the first one may be a drive. -/
def Kind.kept (k : Kind) (front : List (List Char)) (segment : List Char) : List Char :=
  if k = .file ∧ front.isEmpty ∧ isDrive segment then segment.take 1 ++ [':'] else segment

/-- Takes the last of some segments back; they come last one first. -/
def back : List (List Char) → List (List Char)
  | segment :: front => if isDrive segment then segment :: front else front
  | [] => []

/-- The segments that are meant. `front` are those before, last one first. -/
def settle (k : Kind) (front : List (List Char)) : List (List Char) → List (List Char)
  | [] => front.reverse
  | [segment] =>
    match dots segment with
    | some 1 => ([] :: front).reverse
    | some 2 => ([] :: back front).reverse
    | _ => (k.kept front segment :: front).reverse
  | segment :: rest =>
    match dots segment with
    | some 1 => settle k front rest
    | some 2 => settle k (back front) rest
    | _ => settle k (k.kept front segment :: front) rest

def text (segments : List (List Char)) : List Char :=
  '/' :: List.intercalate ['/'] segments

/-- The path behind its root. -/
def behindRoot (k : Kind) (cs : List Char) : List Char :=
  let segments := (cs.splitOnP k.parts).map (escape escapedInPath)
  let settled := settle k [] segments
  match k with
  | .file => '/' :: ((text settled).dropWhile (· = '/'))
  | .web | .other => text settled

/-- Two dots take a segment back. -/
example : String.ofList (behindRoot .web "a/b/%2e./../c".toList) = "/c" := by decide +kernel

end PeerRules.Url.Path
