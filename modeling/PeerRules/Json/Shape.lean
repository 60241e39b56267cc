import PeerRules.Json.Reader
import PeerRules.Text.Quoted

/-!
# Shapes of documents

A shape says what a document must look like to be decoded: a text, a flag, a record with such and
such fields. A record may be written as an object, by key, or as an array, by place; members it does
not know are passed over.

A shape is asked of a document already read (`check`, which sees the members of an object in the
order of keys) or of a text while it is read (`read`, which sees them as written, knows places, and
takes no key twice). Both give the document in normal form: a record is the object of the fields
that are there.

* `check_any`: every document has the shape `any`, and is its own normal form.
-/
namespace PeerRules.Json

/-- A field of a record, over the type of shapes. -/
structure Field (S : Type) where
  key : String
  shape : S
  /-- The record has no value without it. -/
  required : Bool
  /-- `null` may stand in its place. -/
  nullable : Bool

/-- The shape of a document. -/
inductive Shape where
  | any
  | text
  | flag
  /-- An integer of 64 bits with a sign. -/
  | signed
  | list (item : Shape)
  | record (title : String) (fields : List (Field Shape))

def Field.find? {S : Type} (fields : List (Field S)) (key : String) : Option (Field S) :=
  fields.find? (·.key = key)

namespace Shape

def expectation : Shape → String
  | .any => "any value"
  | .text => "a string"
  | .flag => "a boolean"
  | .signed => "i64"
  | .list _ => "a sequence"
  | .record title _ => "struct " ++ title

end Shape

/-- How a document misses a shape. -/
inductive Mismatch where
  /-- Another kind of document. -/
  | kind (found : Value) (expected : String)
  /-- An integer out of range. -/
  | range (found : Number) (expected : String)
  | missing (key : String)
  | repeated (key : String)
  | tooFew (count : Nat) (title : String) (fields : Nat)
  | tooMany (count : Nat)

namespace Mismatch

def describe : Value → String
  | .null => "null"
  | .bool true => "boolean `true`"
  | .bool false => "boolean `false`"
  | .number (.int n) => "integer `" ++ (Number.int n).text ++ "`"
  | .number (.float f) => "floating point `" ++ (Number.float f).text ++ "`"
  | .string s => "string " ++ Text.Quoted.quote s
  | .array _ => "sequence"
  | .object _ => "map"

def message : Mismatch → String
  | .kind found expected => "invalid type: " ++ describe found ++ ", expected " ++ expected
  | .range found expected =>
    "invalid value: " ++ describe (.number found) ++ ", expected " ++ expected
  | .missing key => "missing field `" ++ key ++ "`"
  | .repeated key => "duplicate field `" ++ key ++ "`"
  | .tooFew count title fields =>
    "invalid length " ++ toString count ++ ", expected struct " ++ title ++ " with "
      ++ toString fields ++ " elements"
  | .tooMany count => "invalid length " ++ toString count ++ ", expected fewer elements in array"

end Mismatch

namespace Shape

def fitsSigned (n : Int) : Bool :=
  -(Text.Numeral.maxSigned + 1 : Int) ≤ n && n ≤ Text.Numeral.maxSigned

/-- A number of 64 bits with a sign. -/
def checkSigned (n : Number) : Except Mismatch Value :=
  match n with
  | .int i => if fitsSigned i then .ok (.number n) else .error (.range n "i64")
  | .float _ => .error (.kind (.number n) "i64")

def firstMissing (fields : List (Field Shape)) (found : Members) : Option (Field Shape) :=
  fields.find? fun f => f.required && (found.find? f.key).isNone

/-- The fields behind the end of a record written as an array: none of them may be required.
`count` is how many came before. -/
def checkRest (title : String) (total : Nat) : Nat → List (Field Shape) → Except Mismatch Unit
  | _, [] => .ok ()
  | count, f :: rest =>
    if f.required then .error (.tooFew count title total)
    else checkRest title total (count + 1) rest

mutual

/-- The normal form of a document of the shape, or how it misses it. -/
def check (shape : Shape) : Value → Except Mismatch Value
  | .null =>
    match shape with
    | .any => .ok .null
    | shape => .error (.kind .null shape.expectation)
  | .bool b =>
    match shape with
    | .any | .flag => .ok (.bool b)
    | shape => .error (.kind (.bool b) shape.expectation)
  | .number n =>
    match shape with
    | .any => .ok (.number n)
    | .signed => checkSigned n
    | shape => .error (.kind (.number n) shape.expectation)
  | .string s =>
    match shape with
    | .any | .text => .ok (.string s)
    | shape => .error (.kind (.string s) shape.expectation)
  | .array items =>
    match shape with
    | .any => .ok (.array items)
    | .list item => (checkItems item items).map .array
    | .record title fields => do
      let found ← checkPlaces title fields.length 0 fields items
      if fields.length < items.length then .error (.tooMany items.length) else pure (.object found)
    | shape => .error (.kind (.array items) shape.expectation)
  | .object members =>
    match shape with
    | .any => .ok (.object members)
    | .record _ fields => do
      let found ← checkMembers fields members
      match firstMissing fields found with
      | some f => .error (.missing f.key)
      | none => pure (.object found)
    | shape => .error (.kind (.object members) shape.expectation)

def checkItems (item : Shape) : List Value → Except Mismatch (List Value)
  | [] => .ok []
  | v :: rest => do
    let v ← check item v
    let rest ← checkItems item rest
    pure (v :: rest)

/-- The items of an array as the fields of a record. `count` of `total` fields came before. -/
def checkPlaces (title : String) (total count : Nat) (fields : List (Field Shape)) :
    List Value → Except Mismatch Members
  | [] => (checkRest title total count fields).map fun _ => []
  | v :: items =>
    match fields with
    | [] => .ok []
    | f :: fields => do
      let v ← if f.nullable && v matches .null then pure .null else check f.shape v
      let rest ← checkPlaces title total (count + 1) fields items
      pure ((f.key, v) :: rest)

/-- The members of an object as the fields of a record, in their own order. -/
def checkMembers (fields : List (Field Shape)) :
    List (String × Value) → Except Mismatch Members
  | [] => .ok []
  | (k, v) :: rest =>
    match Field.find? fields k with
    | none => checkMembers fields rest
    | some f => do
      let v ← if f.nullable && v matches .null then pure .null else check f.shape v
      let rest ← checkMembers fields rest
      pure ((k, v) :: rest)

end

theorem check_any (v : Value) : check .any v = .ok v := by
  cases v <;> simp [check]

/-! ## Reading -/

open Reader

/-- Refuses a document for its shape, where the cursor stands. -/
def refuse {α : Type} (m : Mismatch) : Reader α := refuseHere (.shape m.message)

/-- Refuses a document of another kind, at its first character. A scalar is read to be named; a
container is named by its bracket. -/
def refuseKind {α : Type} (shape : Shape) (c : Char) : Reader α := do
  if c = '[' then refuse (.kind (.array []) shape.expectation)
  else if c = '\x7b' then refuse (.kind (.object []) shape.expectation)
  else
    let v ← scalar c
    refuse (.kind v shape.expectation)

/-- What is wrong with a record that has been read so far, if something is. It is told only when
the reader has looked for the record's end. -/
abbrev Pending := Except Mismatch Members

/-- The cursor once a reader has looked for the end of a record: behind it, or at what stands in its
place. -/
def afterLooking (ending : Reader Unit) (c : Cursor) : Cursor :=
  match ending c with
  | .ok (_, behind) => behind
  | .error _ => (c.rest.takeWhile isSpace).foldl (fun cur _ => cur.advance) c

/-- Ends a record: looks for its end, then tells what was wrong, if something was. -/
def endRecord (ending : Reader Unit) : Pending → Reader Value
  | .ok members => do
    ending
    pure (.object members)
  | .error m => fun c => refuse m (afterLooking ending c)

mutual

/-- Reads a document of the shape; `depth` as for `Reader.value`. The first argument bounds the
number of steps. -/
def readWith : Nat → Nat → Shape → Reader Value
  | 0, _, _ => refuseAhead .endInValue
  | fuel + 1, depth, shape => do
    match shape with
    | .any => value (fuel + 1) depth
    | shape =>
      match ← peekToken with
      | none => refuseAhead .endInValue
      | some c =>
        match shape, c with
        | .text, '"' => do
          skip
          return .string (← stringBody)
        | .flag, 't' => scalar 't'
        | .flag, 'f' => scalar 'f'
        | .list item, '[' =>
          if depth ≤ 1 then refuseAhead .tooDeep
          else do
            skip
            let items ← readItems fuel (depth - 1) item true
            closeArray
            pure (.array items)
        | .record title fields, '[' =>
          if depth ≤ 1 then refuseAhead .tooDeep
          else do
            skip
            let found ← readPlaces fuel (depth - 1) title fields.length 0 fields true
            endRecord closeArray found
        | .record _ fields, '\x7b' =>
          if depth ≤ 1 then refuseAhead .tooDeep
          else do
            skip
            let found ← readMembers fuel (depth - 1) fields true []
            endRecord closeObject found
        | .signed, c =>
          if c = '-' || (Text.Numeral.digit? c).isSome then do
            match ← scalar c with
            | .number n =>
              match checkSigned n with
              | .ok v => pure v
              | .error m => refuse m
            | v => refuse (.kind v "i64")
          else refuseKind .signed c
        | shape, c => refuseKind shape c

/-- Reads a field's value, or `null` where it may stand. -/
def readField : Nat → Nat → Field Shape → Reader Value
  | 0, _, _ => refuseAhead .endInValue
  | fuel + 1, depth, f => do
    if f.nullable then
      match ← peekToken with
      | some 'n' => scalar 'n'
      | _ => readWith fuel depth f.shape
    else readWith fuel depth f.shape

def readItems : Nat → Nat → Shape → Bool → Reader (List Value)
  | 0, _, _, _ => refuseAhead .endInArray
  | fuel + 1, depth, item, first => do
    if ← nextItem first then
      let v ← readWith fuel depth item
      let rest ← readItems fuel depth item false
      pure (v :: rest)
    else pure []

/-- Reads the items of an array as the fields of a record. -/
def readPlaces : Nat → Nat → String → Nat → Nat → List (Field Shape) → Bool → Reader Pending
  | 0, _, _, _, _, _, _ => refuseAhead .endInArray
  | _ + 1, _, _, _, _, [], _ => pure (.ok [])
  | fuel + 1, depth, title, total, count, f :: fields, first => do
    if ← nextItem first then
      let v ← readField fuel depth f
      let rest ← readPlaces fuel depth title total (count + 1) fields false
      pure (rest.map fun rest => (f.key, v) :: rest)
    else pure ((checkRest title total count (f :: fields)).map fun _ => [])

/-- Reads the members of an object as the fields of a record, behind those in `found`. -/
def readMembers : Nat → Nat → List (Field Shape) → Bool → Members → Reader Pending
  | 0, _, _, _, _ => refuseAhead .endInObject
  | fuel + 1, depth, fields, first, found => do
    if ← nextMember first then
      let k ← key
      match Field.find? fields k with
      | none => do
        colon
        ignored
        readMembers fuel depth fields false found
      | some f =>
        if (found.find? k).isSome then pure (.error (.repeated k))
        else do
          colon
          let v ← readField fuel depth f
          readMembers fuel depth fields false (found ++ [(k, v)])
    else
      match firstMissing fields found with
      | some f => pure (.error (.missing f.key))
      | none => pure (.ok found)

end

def read (shape : Shape) : Reader Value := do
  readWith (2 * (← steps)) depthLimit shape

/-- A text that holds one document of the shape, and nothing else. -/
def parse (shape : Shape) (text : String) : Except Refusal Value :=
  run (do let v ← shape.read; finish; pure v) text

end Shape

end PeerRules.Json
