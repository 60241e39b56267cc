import PeerRules.Json.Number
import PeerRules.Text.Numeral

/-!
# Documents

A document is a tree of `null`, booleans, numbers, texts, arrays and objects. The members of an
object are listed by key, in the order of code points, each key once; `Member.insert` keeps the list
so, and a member inserted twice has the last value.

`same` is structural equality, under which a float never equals an integer.

* `find?_insert_self`, `find?_insert_of_ne`: an inserted member is found, and no other is touched.
-/
namespace PeerRules.Json

/-- A document. -/
inductive Value where
  | null
  | bool (b : Bool)
  | number (n : Number)
  | string (s : String)
  | array (items : List Value)
  | object (members : List (String × Value))
  deriving Inhabited

/-- The members of an object, by key. -/
abbrev Members := List (String × Value)

namespace Members

/-- Puts a member at its place in the order of keys, in place of one with the same key. -/
def insert (key : String) (value : Value) : Members → Members
  | [] => [(key, value)]
  | (k, v) :: rest =>
    if key < k then (key, value) :: (k, v) :: rest
    else if key = k then (key, value) :: rest
    else (k, v) :: insert key value rest

def find? (key : String) : Members → Option Value
  | [] => none
  | (k, v) :: rest => if k = key then some v else find? key rest

/-- The members of a list in which keys may repeat and come in any order: the last one wins. -/
def ofList (pairs : List (String × Value)) : Members :=
  pairs.foldl (fun members (key, value) => insert key value members) []

theorem find?_insert_self (key : String) (value : Value) (members : Members) :
    find? key (insert key value members) = some value := by
  induction members with
  | nil => simp [insert, find?]
  | cons m rest ih =>
    obtain ⟨k, v⟩ := m
    unfold insert
    split
    · simp [find?]
    · split
      · simp [find?]
      · next hne => simp [find?, Ne.symm hne, ih]

theorem find?_insert_of_ne {key other : String} (h : key ≠ other) (value : Value)
    (members : Members) : find? other (insert key value members) = find? other members := by
  induction members with
  | nil => simp [insert, find?, h]
  | cons m rest ih =>
    obtain ⟨k, v⟩ := m
    unfold insert
    split
    · simp [find?, h]
    · split
      · next heq => subst heq; simp [find?, h]
      · simp [find?, ih]

theorem mem_of_find? {key : String} {value : Value} {members : Members}
    (h : find? key members = some value) : (key, value) ∈ members := by
  induction members with
  | nil => cases h
  | cons m rest ih =>
    obtain ⟨k, v⟩ := m
    unfold find? at h
    split at h
    · next hk =>
      subst hk
      obtain rfl := Option.some.inj h
      exact List.mem_cons_self
    · exact List.mem_cons_of_mem _ (ih h)

end Members

namespace Value

mutual

/-- Structural equality: the same shape, the same keys, the same texts, and numbers that are one
value of one kind. -/
def same : Value → Value → Bool
  | .null, .null => true
  | .bool a, .bool b => a == b
  | .number a, .number b => a.same b
  | .string a, .string b => a == b
  | .array as, .array bs => sameItems as bs
  | .object as, .object bs => sameMembers as bs
  | _, _ => false

def sameItems : List Value → List Value → Bool
  | [], [] => true
  | a :: as, b :: bs => a.same b && sameItems as bs
  | _, _ => false

def sameMembers : List (String × Value) → List (String × Value) → Bool
  | [], [] => true
  | (k, a) :: as, (l, b) :: bs => k == l && a.same b && sameMembers as bs
  | _, _ => false

end

def members? : Value → Option Members
  | .object members => some members
  | _ => none

def items? : Value → Option (List Value)
  | .array items => some items
  | _ => none

def text? : Value → Option String
  | .string s => some s
  | _ => none

def number? : Value → Option Number
  | .number n => some n
  | _ => none

def get? (v : Value) (key : String) : Option Value := v.members?.bind (Members.find? key)

/-- A whole number from 0 to 2⁶⁴ - 1, written as an integer. -/
def natural? : Value → Option Nat
  | .number (.int n) => if 0 ≤ n ∧ n ≤ Text.Numeral.maxUnsigned then some n.toNat else none
  | _ => none

def ofNat (n : Nat) : Value := .number (.int n)

/-- A text, or `null` without one. -/
def ofText? (s : Option String) : Value := s.elim .null .string

end Value

end PeerRules.Json
