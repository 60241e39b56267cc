import PeerRules.RuleId.Basic
import PeerRules.Fault
import PeerRules.Json.Lexeme
import PeerRules.Text.Blank

/-!
# Reading rule identifiers

Four forms are read, in either case: 32 digits; 32 digits in hyphenated groups; the latter in
braces; the latter behind `urn:uuid:`.

A text of another form is refused with a reason. Lengths and places count bytes.

* `ofText_eq_ok_iff`: a text is accepted exactly when it has one of the four forms.
-/
namespace PeerRules.RuleId

/-- Why a text is no identifier. -/
inductive Refusal where
  | length (found : Nat)
  | character (found : Char) (index : Nat)
  | groupCount (found : Nat)
  | groupLength (group expected found : Nat)
  deriving DecidableEq, Repr

def Refusal.message : Refusal → String
  | .length found => "invalid length: found " ++ toString found
  | .character found index =>
    "invalid character: found `" ++ String.singleton found ++ "` at " ++ toString index
  | .groupCount found => "invalid group count: expected 5, found " ++ toString found
  | .groupLength group expected found =>
    "invalid group length in group " ++ toString group ++ ": expected " ++ toString expected
      ++ ", found " ++ toString found

def byteSize : List Char → Nat
  | [] => 0
  | c :: cs => c.utf8Size + byteSize cs

/-- The identifier of 32 hexadecimal digits. -/
def ofDigits? (cs : List Char) : Option RuleId :=
  if cs.length = 32 then (cs.mapM Json.Reader.hexDigit?).map fun ds => ofNat (ofHexDigits ds)
  else none

/-- The digits of a text of 36 characters whose hyphens stand where they should. -/
def ungrouped? (cs : List Char) : Option (List Char) :=
  let ds := cs.take 8 ++ (cs.drop 9).take 4 ++ (cs.drop 14).take 4 ++ (cs.drop 19).take 4
    ++ cs.drop 24
  if cs = grouped ds then some ds else none

/-- The prefix of an identifier written as a name. -/
def urn : List Char := "urn:uuid:".toList

/-- What is left of a text behind the prefix, in either case, of a name. -/
def afterUrn? (cs : List Char) : Option (List Char) :=
  if (cs.take 9).map Char.toLower = urn then some (cs.drop 9) else none

/-- What is left of a text inside a pair of braces. -/
def inBraces? (cs : List Char) : Option (List Char) :=
  match cs with
  | '\x7b' :: rest => if rest.getLast? = some '\x7d' then some rest.dropLast else none
  | _ => none

/-- The hyphenated part of a text whose length and frame are those of a hyphenated form. -/
def hyphenated? (cs : List Char) : Option (List Char) :=
  if byteSize cs = 36 then some cs
  else if byteSize cs = 38 then inBraces? cs
  else if byteSize cs = 45 then afterUrn? cs
  else none

def ofForm? (cs : List Char) : Option RuleId :=
  if byteSize cs = 32 then ofDigits? cs
  else ((hyphenated? cs).bind ungrouped?).bind ofDigits?

/-- How the digits of a text are framed. -/
inductive Frame where
  | bare
  | hyphenated
  | braced
  | named
  deriving DecidableEq

/-- What a text looks like from the outside: its frame, what stands inside, and the bytes before. -/
def framed (cs : List Char) : Frame × List Char × Nat :=
  match inBraces? cs with
  | some inside => (.braced, inside, 1)
  | none =>
    match afterUrn? cs with
    | some inside => (.named, inside, 9)
    | none => (.bare, cs, 0)

/-- The first character that is neither a digit nor a hyphen, with its byte index. -/
def strayCharacter? : List Char → Nat → Option (Char × Nat)
  | [], _ => none
  | c :: cs, i =>
    if c = '-' ∨ (Json.Reader.hexDigit? c).isSome then strayCharacter? cs (i + c.utf8Size)
    else some (c, i)

/-- The byte indexes of the hyphens of a text of digits and hyphens. -/
def hyphens : List Char → Nat → List Nat
  | [], _ => []
  | c :: cs, i => if c = '-' then i :: hyphens cs (i + 1) else hyphens cs (i + c.utf8Size)

def groups : List (Nat × Nat × Nat) := [(0, 8, 0), (1, 4, 9), (2, 4, 14), (3, 4, 19)]

/-- Why a text is no identifier, given that it is none. -/
def refusal (text : List Char) : Refusal :=
  let (frame, s) : Frame × List Char := match hyphenated? text with
    | some inside => (.hyphenated, inside)
    | none => (.bare, text)
  let size := byteSize s
  if size = 0 ∨ 45 < size then .length size
  else
    let (frame, body, offset) := if frame = .bare then framed s else (frame, s, 0)
    match strayCharacter? body 0 with
    | some (c, i) => .character c (i + offset)
    | none =>
      let hs := hyphens body 0
      if frame = .bare ∧ hs = [] then .length size
      else if hs.length ≠ 4 then .groupCount (hs.length + 1)
      else
        match (groups.zip hs).find? fun ((_, length, start), h) => h ≠ start + length with
        | some ((group, length, start), h) => .groupLength group length (h - start)
        | none => .groupLength 4 12 (size - 24)

/-- The identifier that a text stands for, or why there is none (`RuleId.from_str`). -/
def ofText (s : String) : Except Refusal RuleId :=
  match ofForm? s.toList with
  | some id => .ok id
  | none => .error (refusal s.toList)

/-- The identifier of a reference made by people: blanks around it do not count. -/
def ofReference (s : String) : Except Fault RuleId :=
  match ofText (Text.trim s) with
  | .ok id => .ok id
  | .error r => .error (.validation ("invalid rule id '" ++ s ++ "': " ++ r.message))

theorem ofText_eq_ok_iff (s : String) (id : RuleId) :
    ofText s = .ok id ↔ ofForm? s.toList = some id := by
  unfold ofText
  cases h : ofForm? s.toList <;> simp

end PeerRules.RuleId
