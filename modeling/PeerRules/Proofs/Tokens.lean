import Mathlib.Data.List.Nodup
import PeerRules.Lease.Party

/-!
# Tokens on the key server

What a command does to the server is one of a few things (`Changes`), and between commands the
server changes by itself: time passes, or a key is gone. A token comes under a key by one of these
only, by a claim where nothing is held.

* `Keys.changes_execute`: what a command does.
* `Keys.token?_of_answers`, `Keys.origin_of_answers`: where a token under a key comes from.
* `Keys.token?_of_lapses`: none comes by itself.
-/
namespace PeerRules.Lease

namespace Keys

variable {k l : Keys} {key other token t : String} {seconds : Nat} {c : Command} {x : Holding}

/-! ## What is held -/

/-- There is one holding at most of a key. -/
def Single (k : Keys) : Prop := (k.holdings.map (·.key)).Nodup

def Lapses (k l : Keys) : Prop := k.Passes l ∨ ∃ key, l = k.drop key

/-- The key server as a party whose keys can be gone at any moment. -/
def lapsing : Party Wire.Call.signature Keys := ⟨Answers, Lapses⟩

theorem mem_of_holding? (h : k.holding? key = some x) :
    x ∈ k.holdings ∧ x.key = key ∧ k.clock < x.endsAt := by
  have hx : x.key = key ∧ k.clock < x.endsAt := by simpa using List.find?_some h
  exact ⟨List.mem_of_find?_eq_some h, hx⟩

theorem holding?_eq_some_iff (hs : k.Single) :
    k.holding? key = some x ↔ x ∈ k.holdings ∧ x.key = key ∧ k.clock < x.endsAt := by
  refine ⟨mem_of_holding?, fun ⟨hx, hkey, halive⟩ => ?_⟩
  have hsome : (k.holding? key).isSome := List.find?_isSome.2 ⟨x, hx, by simp [hkey, halive]⟩
  obtain ⟨y, hy⟩ := Option.isSome_iff_exists.1 hsome
  obtain ⟨hmem, hykey, -⟩ := mem_of_holding? hy
  rw [hy, List.inj_on_of_nodup_map hs hmem hx (hykey.trans hkey.symm)]

theorem single_drop (hs : k.Single) (key : String) : (k.drop key).Single :=
  hs.sublist (List.filter_sublist.map _)

theorem single_put (hs : k.Single) (key token : String) (seconds : Nat) :
    (k.put key token seconds).Single := by
  refine List.nodup_cons.2 ⟨?_, single_drop hs key⟩
  simp [drop]

theorem mem_drop : x ∈ (k.drop key).holdings ↔ x ∈ k.holdings ∧ x.key ≠ key := by
  simp [drop]

theorem mem_put : x ∈ (k.put key token seconds).holdings ↔
    x = ⟨key, token, k.clock + 1000 * seconds⟩ ∨ (x ∈ k.holdings ∧ x.key ≠ key) := by
  rw [← mem_drop]
  exact List.mem_cons

theorem token?_eq_some_iff : k.token? key = some t ↔ ∃ x, k.holding? key = some x ∧ x.token = t :=
  Option.map_eq_some_iff

theorem token?_drop_self (k : Keys) (key : String) : (k.drop key).token? key ≠ some t := by
  intro h
  obtain ⟨x, hx, -⟩ := token?_eq_some_iff.1 h
  obtain ⟨hmem, hkey, -⟩ := mem_of_holding? hx
  exact (mem_drop.1 hmem).2 hkey

theorem holding?_drop_of_ne (k : Keys) (h : other ≠ key) :
    (k.drop key).holding? other = k.holding? other := by
  simp only [holding?, drop, List.find?_filter]
  congr 1
  funext x
  by_cases hx : x.key = other
  · simp [hx, h]
    rfl
  · simp [hx]

theorem holding?_put_of_ne (k : Keys) (h : other ≠ key) :
    (k.put key token seconds).holding? other = k.holding? other := by
  rw [← holding?_drop_of_ne k h]
  simp [holding?, put, Ne.symm h]
  rfl

theorem token?_put_self (k : Keys) (h : 0 < seconds) :
    (k.put key token seconds).token? key = some token := by
  simp [token?, holding?, put, h]

theorem eq_of_token?_put (h : (k.put key token seconds).token? key = some t) : t = token := by
  obtain ⟨x, hx, rfl⟩ := token?_eq_some_iff.1 h
  obtain ⟨hmem, hkey, -⟩ := mem_of_holding? hx
  rcases mem_put.1 hmem with rfl | ⟨-, hne⟩
  · rfl
  · exact absurd hkey hne

theorem token?_of_lapses (hs : k.Single) (h : k.Lapses l) (ht : l.token? key = some t) :
    k.token? key = some t := by
  obtain ⟨x, hx, rfl⟩ := token?_eq_some_iff.1 ht
  obtain ⟨hmem, hkey, halive⟩ := mem_of_holding? hx
  refine token?_eq_some_iff.2 ⟨x, (holding?_eq_some_iff hs).2 ?_, rfl⟩
  rcases h with ⟨ms, rfl⟩ | ⟨gone, rfl⟩
  · have hless : k.clock < x.endsAt := Nat.lt_of_le_of_lt (Nat.le_add_right _ ms) halive
    exact ⟨hmem, hkey, hless⟩
  · exact ⟨(mem_drop.1 hmem).1, hkey, halive⟩

/-! ## Commands -/

def Calls (c : Command) (s : Script) (key token : String) : Prop :=
  c.script? = some s ∧ ∀ k : Keys, ∃ effect, k.execute c = k.call s key token effect

theorem calls_renew (key token : String) (seconds : Nat) :
    Calls (.renew key token seconds) .renew key token := ⟨rfl, fun _ => ⟨_, rfl⟩⟩

theorem calls_release (key token : String) : Calls (.release key token) .release key token :=
  ⟨rfl, fun _ => ⟨_, rfl⟩⟩

/-- What a command does to the server: nothing, or one of four things. -/
inductive Changes (k : Keys) : Command → Keys → Prop where
  | still (c : Command) : Changes k c k
  | claimed {key : String} (token : String) (seconds : Nat) (h : k.token? key = none) :
      Changes k (.claim key token seconds) (k.put key token seconds)
  | renewed {key token : String} (seconds : Nat) (h : k.token? key = some token) :
      Changes k (.renew key token seconds) (k.put key token seconds)
  | released {key token : String} (h : k.token? key = some token) :
      Changes k (.release key token) (k.drop key)
  | loaded (script : Script) :
      Changes k (.load script) { k with known := script :: k.known }

theorem changes_execute (k : Keys) (c : Command) : Changes k c (k.execute c).2 := by
  cases c with
  | claim key token seconds =>
    simp only [execute]
    split
    · exact .still _
    · next h => exact .claimed token seconds h
  | renew key token seconds =>
    simp only [execute, call]
    split
    · split
      · next h => exact .renewed seconds h
      · exact .still _
    · exact .still _
  | release key token =>
    simp only [execute, call]
    split
    · split
      · next h => exact .released h
      · exact .still _
    · exact .still _
  | load script => exact .loaded script

theorem Changes.known_subset (h : Changes k c l) : k.known ⊆ l.known := by
  cases h with
  | loaded script => exact List.subset_cons_self _ _
  | still | claimed | renewed | released => exact List.Subset.refl _

theorem Changes.single (h : Changes k c l) (hs : k.Single) : l.Single := by
  cases h with
  | still => exact hs
  | claimed token seconds _ => exact single_put hs _ token seconds
  | renewed seconds _ => exact single_put hs _ _ seconds
  | released _ => exact single_drop hs _
  | loaded script => exact hs

/-- A token that is under a key was there before, or was claimed where nothing was. -/
theorem Changes.token? (h : Changes k c l) (ht : l.token? key = some t) :
    k.token? key = some t ∨ ∃ seconds, c = .claim key t seconds ∧ k.token? key = none := by
  cases h with
  | still => exact .inl ht
  | @claimed claimed token seconds hnone =>
    by_cases hkey : key = claimed
    · subst hkey
      obtain rfl := eq_of_token?_put ht
      exact .inr ⟨seconds, rfl, hnone⟩
    · rw [Keys.token?, holding?_put_of_ne k hkey] at ht
      exact .inl ht
  | @renewed renewed token seconds hheld =>
    by_cases hkey : key = renewed
    · subst hkey
      obtain rfl := eq_of_token?_put ht
      exact .inl hheld
    · rw [Keys.token?, holding?_put_of_ne k hkey] at ht
      exact .inl ht
  | @released released token hheld =>
    by_cases hkey : key = released
    · subst hkey
      exact absurd ht (token?_drop_self k key)
    · rw [Keys.token?, holding?_drop_of_ne k hkey] at ht
      exact .inl ht
  | loaded script => exact .inl ht

/-- What is held was held before under the same token, or was claimed where nothing was. -/
theorem Changes.origin (h : Changes k c l) (hx : x ∈ l.holdings) :
    (∃ y ∈ k.holdings, y.key = x.key ∧ y.token = x.token) ∨
      ∃ seconds, c = .claim x.key x.token seconds ∧ k.token? x.key = none := by
  cases h with
  | still => exact .inl ⟨x, hx, rfl, rfl⟩
  | @claimed claimed token seconds hnone =>
    rcases mem_put.1 hx with rfl | ⟨hmem, -⟩
    · exact .inr ⟨seconds, rfl, hnone⟩
    · exact .inl ⟨x, hmem, rfl, rfl⟩
  | @renewed renewed token seconds hheld =>
    rcases mem_put.1 hx with rfl | ⟨hmem, -⟩
    · obtain ⟨y, hy, rfl⟩ := token?_eq_some_iff.1 hheld
      obtain ⟨hmem, hkey, -⟩ := mem_of_holding? hy
      exact .inl ⟨y, hmem, hkey, rfl⟩
    · exact .inl ⟨x, hmem, rfl, rfl⟩
  | released _ => exact .inl ⟨x, (mem_drop.1 hx).1, rfl, rfl⟩
  | loaded script => exact .inl ⟨x, hx, rfl, rfl⟩

theorem Lapses.single (h : k.Lapses l) (hs : k.Single) : l.Single := by
  rcases h with ⟨ms, rfl⟩ | ⟨key, rfl⟩
  · exact hs
  · exact single_drop hs key

theorem Lapses.holdings_subset (h : k.Lapses l) : l.holdings ⊆ k.holdings := by
  rcases h with ⟨ms, rfl⟩ | ⟨key, rfl⟩
  · exact List.Subset.refl _
  · exact fun x hx => (mem_drop.1 hx).1

theorem Lapses.known_eq (h : k.Lapses l) : l.known = k.known := by
  rcases h with ⟨ms, rfl⟩ | ⟨key, rfl⟩ <;> rfl

/-! ## Exchanges -/

section Exchanges

variable {call : Wire.Call} {reply : call.Reply}

/-- An exchange is a command, or leaves the server as it is. -/
theorem changes_of_answers (h : Answers k call reply l) :
    (∃ c, call = .command c ∧ Changes k c l) ∨ l = k := by
  cases call with
  | command c =>
    obtain ⟨-, rfl⟩ := h
    exact .inl ⟨c, rfl, changes_execute k c⟩
  | post | postWithin | openKeys | openTables | ruleRows | entryRows | numbers | change | readText
  | log | freshId | now => exact .inr h

theorem known_of_answers (h : Answers k call reply l) : k.known ⊆ l.known := by
  rcases changes_of_answers h with ⟨c, -, hc⟩ | rfl
  · exact hc.known_subset
  · exact List.Subset.refl _

theorem single_of_answers (h : Answers k call reply l) (hs : k.Single) : l.Single := by
  rcases changes_of_answers h with ⟨c, -, hc⟩ | rfl
  · exact hc.single hs
  · exact hs

theorem token?_of_answers (h : Answers k call reply l) (ht : l.token? key = some t) :
    k.token? key = some t ∨
      ∃ seconds, call = .command (.claim key t seconds) ∧ k.token? key = none := by
  rcases changes_of_answers h with ⟨c, rfl, hc⟩ | rfl
  · rcases hc.token? ht with hbefore | ⟨seconds, rfl, hnone⟩
    · exact .inl hbefore
    · exact .inr ⟨seconds, rfl, hnone⟩
  · exact .inl ht

theorem origin_of_answers (h : Answers k call reply l) (hx : x ∈ l.holdings) :
    (∃ y ∈ k.holdings, y.key = x.key ∧ y.token = x.token) ∨
      ∃ seconds, call = .command (.claim x.key x.token seconds) ∧ k.token? x.key = none := by
  rcases changes_of_answers h with ⟨c, rfl, hc⟩ | rfl
  · rcases hc.origin hx with hbefore | ⟨seconds, rfl, hnone⟩
    · exact .inl hbefore
    · exact .inr ⟨seconds, rfl, hnone⟩
  · exact .inl ⟨x, hx, rfl, rfl⟩

end Exchanges

end Keys

end PeerRules.Lease
