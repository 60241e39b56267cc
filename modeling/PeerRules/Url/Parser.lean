import PeerRules.Url.Basic
import PeerRules.Url.Path

/-!
# Reading addresses

An address is read from the front: the scheme up to a colon, the authority behind two slashes, then
path, query and fragment. Schemes of the web are read more freely than others: a backslash is a
slash, slashes may be missing, and there is always a host and a path.
-/
namespace PeerRules.Url

/-! ## Schemes -/

def isLetter (c : Char) : Bool := ('a' ≤ c && c ≤ 'z') || ('A' ≤ c && c ≤ 'Z')

def isSchemeChar (c : Char) : Bool :=
  isLetter c || ('0' ≤ c && c ≤ '9') || c == '+' || c == '-' || c == '.'

/-- The scheme of an address, in small letters, and what follows its colon. -/
def scheme? (cs : List Char) : Option (List Char × List Char) :=
  match cs with
  | c :: _ =>
    match cs.dropWhile isSchemeChar with
    | ':' :: rest =>
      if isLetter c then some ((cs.takeWhile isSchemeChar).map Char.toLower, rest) else none
    | _ => none
  | [] => none

/-- The schemes of the web, with the number at which their services usually listen. -/
def webNumbers : List (String × Nat) :=
  [("http", 80), ("https", 443), ("ws", 80), ("wss", 443), ("ftp", 21)]

def usualNumber? (scheme : String) : Option Nat := (webNumbers.find? (·.1 = scheme)).map (·.2)

def pathKind (scheme : String) : Path.Kind :=
  if scheme = "file" then .file
  else if (usualNumber? scheme).isSome then .web
  else .other

/-! ## Authorities -/

def endsAuthority (k : Path.Kind) (c : Char) : Bool := k.parts c || c == '?' || c == '#'

/-- What stands in front of the last sign of a login, and what stands behind it. -/
def atLogin (cs : List Char) : Option (List Char × List Char) :=
  match cs.reverse.dropWhile (· ≠ '@') with
  | _ :: front => some (front.reverse, (cs.reverse.takeWhile (· ≠ '@')).reverse)
  | [] => none

/-- The login that stands in front of its sign. A password that is empty does not count, and a login
without both is none. -/
def loginOf (cs : List Char) : Option Login :=
  let user := escape escapedInLogin (cs.takeWhile (· ≠ ':'))
  match cs.dropWhile (· ≠ ':') with
  | _ :: c :: password => some ⟨user, some (escape escapedInLogin (c :: password))⟩
  | _ => if user.isEmpty then none else some ⟨user, none⟩

/-- Splits a host from what stands behind its colon; colons in brackets belong to the host. -/
def atColon (inBrackets : Bool) : List Char → List Char × Option (List Char)
  | [] => ([], none)
  | c :: cs =>
    if c = ':' ∧ ¬ inBrackets then ([], some cs)
    else
      let inBrackets := if c = '[' then true else if c = ']' then false else inBrackets
      let (host, number) := atColon inBrackets cs
      (c :: host, number)

def maxNumber : Nat := 65535

def decimal (ds : List Char) : Nat := ds.foldl (fun n d => n * 10 + (d.toNat - '0'.toNat)) 0

/-- The number of an authority, without the usual one, and what is left behind it. -/
def readNumber (scheme : String) (cs : List Char) : Except Refusal (Option Nat × List Char) :=
  let ds := cs.takeWhile Char.isDigit
  let rest := cs.dropWhile Char.isDigit
  if maxNumber < decimal ds ∨ rest.head?.any (· ≠ '\\') then .error .badPort
  else if ds.isEmpty ∨ usualNumber? scheme = some (decimal ds) then .ok (none, rest)
  else .ok (some (decimal ds), rest)

/-- The host and the number of an authority, and what is left behind them. -/
def readMachine (scheme : String) (k : Path.Kind) (cs : List Char) :
    Except Refusal (Option Host × Option Nat × List Char) := do
  let (hostChars, behind) := atColon false cs
  if k = .web ∧ hostChars.isEmpty then throw .emptyHost
  let host ← if k = .web then (Host.ofWeb hostChars).map some else Host.ofOpaque hostChars
  match behind with
  | none => pure (host, none, [])
  | some ds =>
    if hostChars.isEmpty then throw .emptyHost
    let (n, rest) ← readNumber scheme ds
    pure (host, n, rest)

/-- The authority that stands in front of the rest of an address, and what is left behind it. -/
def readAuthority (scheme : String) (k : Path.Kind) (cs rest : List Char) :
    Except Refusal (Authority × List Char) := do
  match atLogin cs with
  | none =>
    let (host, n, left) ← readMachine scheme k cs
    pure (⟨none, host, n⟩, left)
  | some (front, behind) =>
    if front.isEmpty ∧ behind.isEmpty ∧ ¬ rest.isEmpty then throw .emptyHost
    let (host, n, left) ← readMachine scheme k behind
    let login := loginOf front
    if host.isNone ∧ login.isSome then throw .emptyHost
    pure (⟨login, host, n⟩, left)

/-! ## Paths and what follows -/

def endsPath (c : Char) : Bool := c == '?' || c == '#'

/-- The query and the fragment behind a path. -/
def tail (k : Path.Kind) (cs : List Char) : Option (List Char) × Option (List Char) :=
  let isEscaped := if k = .other then escapedInQuery else escapedInWebQuery
  let fragment := match cs.dropWhile (· ≠ '#') with
    | _ :: f => some (escape escapedInFragment f)
    | [] => none
  match cs.takeWhile (· ≠ '#') with
  | _ :: q => (some (escape isEscaped q), fragment)
  | [] => (none, fragment)

/-- The path behind an authority. Where nothing stands, the web has the root. -/
def pathBehind (k : Path.Kind) (cs : List Char) : List Char :=
  match cs with
  | [] => if k = .other then [] else Path.behindRoot k []
  | c :: rest => if k.parts c then Path.behindRoot k rest else Path.behindRoot k (c :: rest)

def complete (scheme : String) (k : Path.Kind) (a : Option Authority) (cs : List Char) : Url :=
  let (query, fragment) := tail k (cs.dropWhile fun c => !endsPath c)
  ⟨scheme, a, pathBehind k (cs.takeWhile fun c => !endsPath c), query, fragment⟩

def withAuthority (scheme : String) (k : Path.Kind) (cs : List Char) : Except Refusal Url := do
  let rest := cs.dropWhile fun c => !endsAuthority k c
  let (a, left) ← readAuthority scheme k (cs.takeWhile fun c => !endsAuthority k c) rest
  pure (complete scheme k (some a) (left ++ rest))

/-- An address without an authority. Without a slash in front its path has no segments. -/
def withoutAuthority (scheme : String) (cs : List Char) : Url :=
  match cs with
  | '/' :: _ => complete scheme .other none cs
  | cs =>
    let (query, fragment) := tail .other (cs.dropWhile fun c => !endsPath c)
    ⟨scheme, none, escape escapedAnywhere (cs.takeWhile fun c => !endsPath c), query, fragment⟩

/-- The authority of a file: a host, or none. -/
def fileAuthority (host : Option Host) : Option Authority := some ⟨none, host, none⟩

/-- Whether a path begins with the letter of a drive. -/
def beginsWithDrive (k : Path.Kind) (cs : List Char) : Bool :=
  match cs with
  | c :: d :: rest => Path.isDrive [c, d] && rest.head?.all (endsAuthority k)
  | _ => false

def ofFile (scheme : String) (cs : List Char) : Except Refusal Url :=
  let k := Path.Kind.file
  match cs with
  | c :: d :: rest =>
    if k.parts c ∧ k.parts d then
      let name := rest.takeWhile fun c => !endsAuthority k c
      let left := rest.dropWhile fun c => !endsAuthority k c
      if name.isEmpty ∨ beginsWithDrive k rest then
        .ok (complete scheme k (fileAuthority none) rest)
      else do
        let host ← Host.ofWeb name
        let isHere := host = .name "localhost" ∨ beginsWithDrive k (left.drop 1)
        pure (complete scheme k (fileAuthority (if isHere then none else some host)) left)
    else .ok (complete scheme k (fileAuthority none) (c :: d :: rest))
  | cs => .ok (complete scheme k (fileAuthority none) cs)

/-! ## Addresses -/

/-- The characters of an address without blanks and controls at both ends, and without line breaks
and tabs. -/
def trimmed (cs : List Char) : List Char :=
  let isOuter (c : Char) : Bool := c.toNat ≤ 0x20
  (((cs.dropWhile isOuter).reverse.dropWhile isOuter).reverse).filter fun c =>
    c != '\t' && c != '\n' && c != '\r'

def parse (s : String) : Except Refusal Url :=
  match scheme? (trimmed s.toList) with
  | none => .error .noScheme
  | some (letters, rest) =>
    let scheme := String.ofList letters
    match pathKind scheme with
    | .file => ofFile scheme rest
    | .web => withAuthority scheme .web (rest.dropWhile Path.Kind.web.parts)
    | .other =>
      match rest with
      | '/' :: '/' :: cs => withAuthority scheme .other cs
      | cs => .ok (withoutAuthority scheme cs)

end PeerRules.Url
