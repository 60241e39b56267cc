import PeerRules.Text.Blank

/-!
# Addresses of peers

A peer's address is a host, mostly with a number behind a colon. A host that has colons of its own
stands in brackets when a number follows.

* `host_bracket`: what stands in brackets is the host.
* `host_many`: an address with two colons and no bracket is a host.
-/
namespace PeerRules.Node.Address

/-- What stands in front of the first `mark`, and what stands behind it. -/
def splitOnce (mark : Char) : List Char → Option (List Char × List Char)
  | [] => none
  | c :: cs => if c = mark then some ([], cs) else (splitOnce mark cs).map fun (a, b) => (c :: a, b)

def hostOf (cs : List Char) : List Char :=
  match cs with
  | '[' :: rest =>
    match splitOnce ']' rest with
    | some (inside, _) => inside
    | none => rest
  | cs =>
    match splitOnce ':' cs with
    | some (front, behind) => if behind.contains ':' then cs else front
    | none => cs

/-- The host of an address (`ban_target`). -/
def host (address : String) : String := String.ofList (hostOf (Text.trimList address.toList))

theorem splitOnce_append {mark : Char} {a b : List Char} (h : mark ∉ a) :
    splitOnce mark (a ++ mark :: b) = some (a, b) := by
  induction a with
  | nil => simp [splitOnce]
  | cons c a ih =>
    have hc : c ≠ mark := fun e => h (e ▸ List.mem_cons_self)
    simp [splitOnce, hc, ih fun hm => h (List.mem_cons_of_mem _ hm)]

theorem splitOnce_of_not_mem {mark : Char} {a : List Char} (h : mark ∉ a) :
    splitOnce mark a = none := by
  induction a with
  | nil => rfl
  | cons c a ih =>
    have hc : c ≠ mark := fun e => h (e ▸ List.mem_cons_self)
    simp [splitOnce, hc, ih fun hm => h (List.mem_cons_of_mem _ hm)]

theorem host_bracket {inside : List Char} (behind : List Char) (h : ']' ∉ inside) :
    hostOf ('[' :: (inside ++ ']' :: behind)) = inside := by
  simp [hostOf, splitOnce_append h]

theorem host_many {front middle behind : List Char} (h : ':' ∉ front)
    (hb : (front ++ ':' :: (middle ++ ':' :: behind)).head? ≠ some '[') :
    hostOf (front ++ ':' :: (middle ++ ':' :: behind)) =
      front ++ ':' :: (middle ++ ':' :: behind) := by
  have hs := splitOnce_append (b := middle ++ ':' :: behind) h
  generalize hcs : front ++ ':' :: (middle ++ ':' :: behind) = cs at hs hb
  unfold hostOf
  split
  · simp at hb
  · rw [hs]
    simp

end PeerRules.Node.Address
