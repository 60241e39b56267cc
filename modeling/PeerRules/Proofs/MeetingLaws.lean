import PeerRules.Condition.Matching

/-!
# Laws of meeting conditions

The conditions of a document are read as one conjunction: of its members, and of the members of the
operator objects among them. So an object may be taken apart, and what is added to it only narrows
down which peers meet it. Members are looked at through `find?`, of which `Sorted` objects have one
answer for every member.

* `find?_eq_some_iff`, `find?_union`: what the members of an object are, and those of two together.
* `MetBy.object_iff`, `MetBy.single_iff`: meeting an object, and an object with one member.
* `Spec.holds_object_iff`: an operator object is a conjunction of its comparisons.
* `meeting_laws`: the laws.
-/
namespace PeerRules

namespace Json.Members

/-! ## The members of objects -/

/-- The members of an object: in the order of keys, each key once. -/
def Sorted (members : Members) : Prop := members.Pairwise fun a b => a.1 < b.1

/-- No key is in both objects. -/
def Apart (as bs : Members) : Prop := ∀ key, find? key as = none ∨ find? key bs = none

def union (as bs : Members) : Members :=
  bs.foldl (fun members (key, value) => insert key value members) as

variable {members as bs : Members} {key : String} {value : Value}

theorem find?_eq_some_iff (hs : Sorted members) :
    find? key members = some value ↔ (key, value) ∈ members := by
  refine ⟨mem_of_find?, fun h => ?_⟩
  induction members with
  | nil => cases h
  | cons m rest ih =>
    obtain ⟨k, v⟩ := m
    obtain ⟨hk, hrest⟩ := List.pairwise_cons.1 hs
    rcases List.mem_cons.1 h with heq | h
    · cases heq
      simp [find?]
    · have hne : k ≠ key := String.ne_of_lt (hk _ h)
      simp [find?, hne, ih hrest h]

theorem apart_of_keys (h : ∀ a ∈ as, ∀ b ∈ bs, a.1 ≠ b.1) : Apart as bs := by
  intro key
  cases ha : find? key as with
  | none => exact .inl rfl
  | some v =>
    refine .inr (Option.eq_none_iff_forall_ne_some.2 fun w hb => ?_)
    exact h _ (mem_of_find? ha) _ (mem_of_find? hb) rfl

/-- What holds of every member can be said key by key. -/
theorem forall_mem_iff (hs : Sorted members) {P : String × Value → Prop} :
    (∀ m ∈ members, P m) ↔ ∀ key value, find? key members = some value → P (key, value) := by
  simp only [find?_eq_some_iff hs, Prod.forall]

theorem mem_of_mem_insert {m : String × Value} (h : m ∈ insert key value members) :
    m = (key, value) ∨ m ∈ members := by
  induction members with
  | nil => simpa [insert] using h
  | cons n rest ih =>
    obtain ⟨k, v⟩ := n
    unfold insert at h
    split at h
    · simpa using h
    · split at h
      · rcases List.mem_cons.1 h with h | h
        · exact .inl h
        · exact .inr (List.mem_cons_of_mem _ h)
      · rcases List.mem_cons.1 h with h | h
        · exact .inr (h ▸ List.mem_cons_self)
        · exact (ih h).imp_right (List.mem_cons_of_mem _)

theorem sorted_insert (hs : Sorted members) : Sorted (insert key value members) := by
  induction members with
  | nil => exact List.pairwise_singleton _ _
  | cons n rest ih =>
    obtain ⟨k, v⟩ := n
    obtain ⟨hk, hrest⟩ := List.pairwise_cons.1 hs
    unfold insert
    split
    · next hlt =>
      refine List.pairwise_cons.2 ⟨fun m hm => ?_, hs⟩
      rcases List.mem_cons.1 hm with rfl | hm
      · exact hlt
      · exact String.lt_trans hlt (hk m hm)
    · next hge =>
      split
      · next heq =>
        subst heq
        exact List.pairwise_cons.2 ⟨hk, hrest⟩
      · next hne =>
        refine List.pairwise_cons.2 ⟨fun m hm => ?_, ih hrest⟩
        rcases mem_of_mem_insert hm with rfl | hm
        · exact String.not_le.1 fun hle => hne (String.le_antisymm hle (String.not_lt.1 hge))
        · exact hk m hm

theorem sorted_union (hs : Sorted as) : Sorted (union as bs) := by
  induction bs generalizing as with
  | nil => exact hs
  | cons m bs ih => exact ih (sorted_insert hs)

/-- In a union the members of the second object go before those of the first. -/
theorem find?_union (hs : Sorted bs) :
    find? key (union as bs) = (find? key bs).or (find? key as) := by
  induction bs generalizing as with
  | nil => rfl
  | cons m bs ih =>
    obtain ⟨k, v⟩ := m
    obtain ⟨hk, hbs⟩ := List.pairwise_cons.1 hs
    change find? key (union (insert k v as) bs) = _
    rw [ih hbs]
    by_cases hkey : k = key
    · subst hkey
      have hnone : find? k bs = none := by
        cases hf : find? k bs with
        | none => rfl
        | some w => exact absurd (hk _ (mem_of_find? hf)) (String.lt_irrefl _)
      simp [find?, find?_insert_self, hnone]
    · simp [find?, find?_insert_of_ne hkey, hkey]

/-- What holds of every member of a union holds of every member of both objects, and the other way
round if they are apart. -/
theorem forall_mem_union_iff (ha : Sorted as) (hb : Sorted bs) (hapart : Apart as bs)
    {P : String × Value → Prop} :
    (∀ m ∈ union as bs, P m) ↔ (∀ m ∈ as, P m) ∧ ∀ m ∈ bs, P m := by
  rw [forall_mem_iff (sorted_union ha), forall_mem_iff ha, forall_mem_iff hb]
  simp only [find?_union hb]
  constructor
  · intro h
    refine ⟨fun key value hv => h key value ?_, fun key value hv => h key value ?_⟩
    · have hnone : find? key bs = none := (hapart key).resolve_left (by simp [hv])
      rw [hnone, hv]
      rfl
    · rw [hv]
      rfl
  · rintro ⟨h, h'⟩ key value hv
    rcases Option.or_eq_some_iff.1 hv with hv | ⟨-, hv⟩
    · exact h' key value hv
    · exact h key value hv

/-- What holds of every member still does when one with a key of its own is taken out. -/
theorem forall_mem_of_insert (hs : Sorted members) (hnew : find? key members = none)
    {P : String × Value → Prop} (h : ∀ m ∈ insert key value members, P m) :
    ∀ m ∈ members, P m := by
  rw [forall_mem_iff (sorted_insert hs)] at h
  rw [forall_mem_iff hs]
  intro k v hv
  have hne : key ≠ k := by
    rintro rfl
    rw [hnew] at hv
    cases hv
  exact h k v (by rw [find?_insert_of_ne hne, hv])

end Json.Members

open Json

/-! ## Meeting a document -/

namespace Condition

/-- An operator object asks for all of its comparisons. -/
theorem Spec.holds_object_iff {operators : Members} {found : Value} :
    (Spec.ofValue (.object operators)).holds found = true ↔
      ∀ m ∈ operators, (Comparison.ofMember m).holds found = true := by
  simp [Spec.ofValue, Spec.holds]

theorem Clause.holds_iff {p : Peer} {f : Clause} :
    f.holds p = true ↔ ∃ found, p.attributeAt f.path = some found ∧ f.spec.holds found = true := by
  simp [Clause.holds, Option.any_eq_true]

end Condition

namespace Conditions

open Condition

/-- Whether a peer meets the conditions that a document stands for, or why it stands for none. -/
def verdict (v : Value) (p : Peer) : Except Fault Bool := (ofValue v).map (·.meets p)

/-- A peer meets the conditions that a document stands for. -/
def MetBy (v : Value) (p : Peer) : Prop := verdict v p = .ok true

def single (path : String) (spec : Value) : Value := .object [(path, spec)]

def asking (o : Operator) (operand : Value) : Value := .object [(o.name, operand)]

variable {p : Peer} {path : String} {spec found : Value} {c d : Members}

theorem verdict_object (c : Members) (p : Peer) :
    verdict (.object c) p = .ok (c.all fun m => Clause.holds p ⟨m.1, Spec.ofValue m.2⟩) := by
  simp [verdict, ofValue, meets, Except.map, Function.comp_def]

/-- An object asks for all of its members. -/
theorem MetBy.object_iff :
    MetBy (.object c) p ↔ ∀ m ∈ c, Clause.holds p ⟨m.1, Spec.ofValue m.2⟩ = true := by
  rw [MetBy, verdict_object, Except.ok.injEq, List.all_eq_true]

theorem MetBy.single_iff : MetBy (single path spec) p ↔
    ∃ found, p.attributeAt path = some found ∧ (Spec.ofValue spec).holds found = true := by
  rw [single, MetBy.object_iff, List.forall_mem_singleton, Clause.holds_iff]

theorem MetBy.asking_iff {o : Operator} {operand : Value} :
    MetBy (single path (asking o operand)) p ↔
      ∃ found, p.attributeAt path = some found ∧ o.holds found operand = true := by
  have hasked : ∀ found, (Spec.ofValue (asking o operand)).holds found = o.holds found operand := by
    intro found
    simp [asking, Spec.ofValue, Spec.holds, Comparison.ofMember, Operator.ofName?_name,
      Comparison.holds]
  simp only [MetBy.single_iff, hasked]

/-- A value that is no object asks for what equality with it asks for. -/
theorem MetBy.scalar_iff (hv : spec.members? = Option.none) :
    MetBy (single path spec) p ↔ MetBy (single path (asking .eq spec)) p := by
  rw [MetBy.asking_iff, MetBy.single_iff]
  cases spec with
  | object members => cases hv
  | null | bool | number | string | array => rfl

/-- An operator object asks for all of its members, taken by themselves. -/
theorem MetBy.single_object_iff {operators : Members} (hfound : p.attributeAt path = some found) :
    MetBy (single path (.object operators)) p ↔
      ∀ m ∈ operators, (Comparison.ofMember m).holds found = true := by
  rw [MetBy.single_iff, hfound]
  simp [Spec.holds_object_iff]

/-- An attribute that is not there is as nothing that is asked for. -/
theorem not_metBy_of_absent (habsent : p.attributeAt path = Option.none)
    (hmem : (path, spec) ∈ c) : verdict (.object c) p = .ok false := by
  rw [verdict_object, Except.ok.injEq, List.all_eq_false]
  exact ⟨_, hmem, by simp [Clause.holds, habsent]⟩

theorem MetBy.union_iff (hc : c.Sorted) (hd : d.Sorted) (hapart : c.Apart d) :
    MetBy (.object (c.union d)) p ↔ MetBy (.object c) p ∧ MetBy (.object d) p := by
  simp only [MetBy.object_iff]
  exact Members.forall_mem_union_iff hc hd hapart

theorem MetBy.single_union_iff {o o' : Members} (ho : o.Sorted) (ho' : o'.Sorted)
    (hapart : o.Apart o') : MetBy (single path (.object (o.union o'))) p ↔
      MetBy (single path (.object o)) p ∧ MetBy (single path (.object o')) p := by
  cases hfound : p.attributeAt path with
  | none => simp [MetBy.single_iff, hfound]
  | some found =>
    simp only [MetBy.single_object_iff hfound]
    exact Members.forall_mem_union_iff ho ho' hapart

theorem MetBy.isIn_iff {items : List Value} :
    MetBy (single path (asking .isIn (.array items))) p ↔
      ∃ item ∈ items, MetBy (single path (asking .eq item)) p := by
  simp only [MetBy.asking_iff, Operator.holds, Value.items?, Option.getD_some, List.any_eq_true]
  constructor
  · rintro ⟨found, hfound, item, hitem, hequal⟩
    exact ⟨item, hitem, found, hfound, hequal⟩
  · rintro ⟨item, hitem, found, hfound, hequal⟩
    exact ⟨found, hfound, item, hitem, hequal⟩

theorem MetBy.neq_iff (hfound : p.attributeAt path = some found) :
    MetBy (single path (asking .neq spec)) p ↔ ¬MetBy (single path (asking .eq spec)) p := by
  simp [MetBy.asking_iff, hfound, Operator.holds]

theorem MetBy.of_insert (hc : c.Sorted) (hnew : c.find? path = Option.none)
    (h : MetBy (.object (c.insert path spec)) p) : MetBy (.object c) p := by
  rw [MetBy.object_iff] at h ⊢
  exact Members.forall_mem_of_insert hc hnew h

/-- An operator that is added to one of the operator objects. -/
theorem MetBy.of_insert_operator {o : Members} {name : String} {operand : Value} (hc : c.Sorted)
    (hpath : c.find? path = some (.object o)) (ho : o.Sorted)
    (hnew : o.find? name = Option.none)
    (h : MetBy (.object (c.insert path (.object (o.insert name operand)))) p) :
    MetBy (.object c) p := by
  rw [MetBy.object_iff, Members.forall_mem_iff (Members.sorted_insert hc)] at h
  rw [MetBy.object_iff, Members.forall_mem_iff hc]
  intro key value hvalue
  by_cases hkey : path = key
  · subst hkey
    obtain rfl : .object o = value := Option.some.inj (hpath.symm.trans hvalue)
    obtain ⟨found, hfound, hholds⟩ :=
      Clause.holds_iff.1 (h path _ (Members.find?_insert_self path _ c))
    refine Clause.holds_iff.2 ⟨found, hfound, Spec.holds_object_iff.2 ?_⟩
    exact Members.forall_mem_of_insert ho hnew (Spec.holds_object_iff.1 hholds)
  · exact h key value (by rw [Members.find?_insert_of_ne hkey, hvalue])

/-- **Laws of meeting conditions.** Every object stands for conditions, and so does `null`, which
stands for none. Two objects without a common key are met together exactly if both are met, and so
are two operator objects of one path. A value stands for equality with it, and membership of a list
for equality with one of its items. Of equality and inequality exactly one is met where the
attribute is there, and nothing is met where it is not. So neither a member nor an operator that is
added lets another peer through. -/
theorem meeting_laws (p : Peer) :
    (∀ c, ∃ b, verdict (.object c) p = .ok b) ∧
    (MetBy (.object []) p ∧ MetBy .null p) ∧
    (∀ c d : Members, c.Sorted → d.Sorted → c.Apart d →
      (MetBy (.object (c.union d)) p ↔ MetBy (.object c) p ∧ MetBy (.object d) p)) ∧
    (∀ (path : String) (o o' : Members), o.Sorted → o'.Sorted → o.Apart o' →
      (MetBy (single path (.object (o.union o'))) p ↔
        MetBy (single path (.object o)) p ∧ MetBy (single path (.object o')) p)) ∧
    (∀ path v, v.members? = Option.none →
      (MetBy (single path v) p ↔ MetBy (single path (asking .eq v)) p)) ∧
    (∀ path items, MetBy (single path (asking .isIn (.array items))) p ↔
      ∃ item ∈ items, MetBy (single path (asking .eq item)) p) ∧
    (∀ path v, (p.attributeAt path).isSome = true →
      (MetBy (single path (asking .neq v)) p ↔ ¬MetBy (single path (asking .eq v)) p)) ∧
    (∀ path, p.attributeAt path = Option.none →
      ∀ c spec, (path, spec) ∈ c → verdict (.object c) p = .ok false) ∧
    (∀ (c : Members) (path : String) (spec : Value), c.Sorted → c.find? path = Option.none →
      MetBy (.object (c.insert path spec)) p → MetBy (.object c) p) ∧
    ∀ (c o : Members) (path name : String) (operand : Value), c.Sorted →
      c.find? path = some (.object o) → o.Sorted → o.find? name = Option.none →
      MetBy (.object (c.insert path (.object (o.insert name operand)))) p →
      MetBy (.object c) p := by
  refine ⟨fun c => ⟨_, verdict_object c p⟩, ⟨rfl, rfl⟩, fun c d => MetBy.union_iff,
    fun path o o' => MetBy.single_union_iff, fun path v => MetBy.scalar_iff,
    fun path items => MetBy.isIn_iff, fun path v hsome => ?_,
    fun path habsent c spec => not_metBy_of_absent habsent,
    fun c path spec => MetBy.of_insert, fun c o path name operand => MetBy.of_insert_operator⟩
  obtain ⟨found, hfound⟩ := Option.isSome_iff_exists.1 hsome
  exact MetBy.neq_iff hfound

def placedPeer : Peer :=
  ⟨[("geo", .object [("country", .string "CN")]), ("subver", .string "/old:1/")]⟩

def agentAsked : Members := [("subver", .object [("startsWith", .string "/old")])]

def placeAsked : Members := [("geo.country", .string "CN")]

theorem meeting_laws_placed :
    agentAsked.Sorted ∧ placeAsked.Sorted ∧ agentAsked.Apart placeAsked ∧
      MetBy (.object (agentAsked.union placeAsked)) placedPeer ∧
      MetBy (single "subver" (.object (Members.union [("startsWith", .string "/old")]
        [("endsWith", .string "/")]))) placedPeer ∧
      MetBy (single "geo.country" (.string "CN")) placedPeer ∧
      MetBy (single "geo.country" (asking .isIn (.array [.null, .string "CN"]))) placedPeer ∧
      ¬MetBy (single "geo.country" (asking .neq (.string "CN"))) placedPeer ∧
      verdict (single "geo.city" (asking .neq .null)) placedPeer = .ok false ∧
      MetBy (.object (agentAsked.insert "geo.country" (.string "CN"))) placedPeer ∧
      MetBy (.object (agentAsked.insert "subver"
        (.object (Members.insert "endsWith" (.string "/") [("startsWith", .string "/old")]))))
          placedPeer ∧
      MetBy (.object agentAsked) placedPeer := by
  have hagent : agentAsked.Sorted := List.pairwise_singleton _ _
  have hplace : placeAsked.Sorted := List.pairwise_singleton _ _
  have hapart : agentAsked.Apart placeAsked := Members.apart_of_keys (by decide)
  have hstarts : Members.Sorted [("startsWith", .string "/old")] := List.pairwise_singleton _ _
  have hends : Members.Sorted [("endsWith", .string "/")] := List.pairwise_singleton _ _
  have hoperators : Members.Apart [("startsWith", .string "/old")] [("endsWith", .string "/")] :=
    Members.apart_of_keys (by decide)
  have hfielded : MetBy (.object (agentAsked.insert "geo.country" (.string "CN"))) placedPeer := rfl
  have hnarrowed : MetBy (.object (agentAsked.insert "subver"
      (.object (Members.insert "endsWith" (.string "/") [("startsWith", .string "/old")]))))
        placedPeer := rfl
  obtain ⟨-, -, hunion, hboth, hscalar, hisIn, hneq, habsent, hfield, hoperator⟩ :=
    meeting_laws placedPeer
  have hmet : MetBy (.object agentAsked) placedPeer :=
    hoperator _ _ _ _ _ hagent rfl hstarts rfl hnarrowed
  exact ⟨hagent, hplace, hapart, (hunion _ _ hagent hplace hapart).2 ⟨hmet, rfl⟩,
    (hboth "subver" _ _ hstarts hends hoperators).2 ⟨hfield _ _ _ hagent rfl hfielded, rfl⟩,
    (hscalar _ _ rfl).2 rfl, (hisIn _ _).2 ⟨.string "CN", by simp, rfl⟩,
    fun h => (hneq "geo.country" _ rfl).1 h rfl, habsent "geo.city" rfl _ _ List.mem_cons_self,
    hfielded, hnarrowed, hmet⟩

end Conditions

end PeerRules
