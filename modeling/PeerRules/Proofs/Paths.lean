import PeerRules.Proofs.Comparisons
import PeerRules.Proofs.StoredForms

/-!
# Paths

A dotted path is read twice. When a condition is written, every segment of its path must say
something; when a peer is looked at, every segment leads from an object to one of its members. An
empty segment leads nowhere, so a path that was accepted can be followed on some peer, whatever is
to be found at its end, and a path with an empty segment on none.

A path is followed from the front, one segment at a time, and it makes no difference where one
stops on the way: what is found at the end of two paths that are joined by a dot is found by the
second one in the object that the first one leads to.

* `Condition.segments_join`: a path that is joined of two has the segments of both.
* `Condition.broken_iff`: where the dots stand in a path with an empty segment.
* `Peer.attributeAt_join`: a joined path is followed in two steps.
* `Peer.joined_paths_followed`: what is found behind a joined path.
* `Peer.attributeAt_bearing`: a peer on which a path leads to a document that is given.
* `Conditions.accepted_paths_lead`: which paths can be followed, and so which conditions can be met.
-/
namespace PeerRules

open Json

/-! ## Segments -/

namespace Condition

open Rule.Submission

variable {separator c : Char} {cs front back : List Char} {path rest : String}

theorem splitAt_ne_nil (separator : Char) (cs : List Char) : splitAt separator cs ≠ [] := by
  rw [splitAt_eq_splitOn]
  exact List.splitOnP_ne_nil _ cs

theorem splitAt_cons_of_ne (h : c ≠ separator) :
    splitAt separator (c :: cs) = (splitAt separator cs).modifyHead (c :: ·) := by
  obtain ⟨s, ss, hs⟩ := List.exists_cons_of_ne_nil (splitAt_ne_nil separator cs)
  simp [splitAt, h, hs]

theorem splitAt_append (separator : Char) (front back : List Char) :
    splitAt separator (front ++ separator :: back) =
      splitAt separator front ++ splitAt separator back := by
  induction front with
  | nil => simp [splitAt]
  | cons c front ih =>
    by_cases hc : c = separator
    · simp [splitAt, hc, ih]
    · obtain ⟨s, ss, hs⟩ := List.exists_cons_of_ne_nil (splitAt_ne_nil separator front)
      rw [List.cons_append, splitAt_cons_of_ne hc, splitAt_cons_of_ne hc, ih, hs]
      rfl

theorem segments_ne_nil (path : String) : segments path ≠ [] :=
  fun h => splitAt_ne_nil '.' path.toList (List.map_eq_nil_iff.1 h)

/-- A path that is joined of two has the segments of both. -/
theorem segments_join (path rest : String) :
    segments (path ++ "." ++ rest) = segments path ++ segments rest := by
  have hjoined : (path ++ "." ++ rest).toList = path.toList ++ '.' :: rest.toList := by simp
  rw [segments, hjoined, splitAt_append, List.map_append]
  rfl

def Broken (path : String) : Prop := "" ∈ segments path

instance (path : String) : Decidable (Broken path) :=
  inferInstanceAs (Decidable ("" ∈ segments path))

theorem broken_join_iff : Broken (path ++ "." ++ rest) ↔ Broken path ∨ Broken rest := by
  rw [Broken, segments_join, List.mem_append]
  rfl

/-- The first piece is empty if nothing stands in front of the first separator. -/
theorem head?_splitAt_eq_nil_iff :
    (splitAt separator cs).head? = some [] ↔ cs = [] ∨ cs.head? = some separator := by
  cases cs with
  | nil => simp [splitAt]
  | cons c cs =>
    by_cases hc : c = separator
    · simp [splitAt, hc]
    · simp [splitAt_cons_of_ne hc, hc]

theorem nil_mem_splitAt_iff : [] ∈ splitAt separator cs ↔
    (cs = [] ∨ cs.head? = some separator) ∨ [] ∈ (splitAt separator cs).tail := by
  obtain ⟨s, ss, hs⟩ := List.exists_cons_of_ne_nil (splitAt_ne_nil separator cs)
  rw [← head?_splitAt_eq_nil_iff, hs, List.mem_cons, List.head?_cons, Option.some.injEq,
    List.tail_cons, @eq_comm _ s]

/-- Another piece is empty if its separator has nothing behind it, or a second one. -/
theorem nil_mem_tail_splitAt_iff : [] ∈ (splitAt separator cs).tail ↔
    cs.getLast? = some separator ∨ [separator, separator] <:+: cs := by
  induction cs with
  | nil => simp [splitAt]
  | cons c cs ih =>
    by_cases hc : c = separator
    · subst hc
      have htail : (splitAt c (c :: cs)).tail = splitAt c cs := by simp [splitAt]
      rw [htail, nil_mem_splitAt_iff, ih]
      cases cs with
      | nil => simp
      | cons d cs =>
        have hside : [c, c] <:+: c :: d :: cs ↔ d = c ∨ [c, c] <:+: d :: cs := by
          simp [List.infix_cons_iff, List.cons_prefix_cons, eq_comm]
        rw [hside, List.getLast?_cons_cons, List.head?_cons, Option.some.injEq]
        grind
    · rw [splitAt_cons_of_ne hc, List.tail_modifyHead, ih]
      cases cs <;> simp [List.infix_cons_iff, List.cons_prefix_cons, Ne.symm hc, hc]

/-- Where the dots stand in a path with an empty segment: nothing but the empty path, a dot in
front, a dot at the end, or two side by side. -/
theorem broken_iff : Broken path ↔ path = "" ∨ path.toList.head? = some '.' ∨
    path.toList.getLast? = some '.' ∨ ['.', '.'] <:+: path.toList := by
  have hmem : Broken path ↔ [] ∈ splitAt '.' path.toList := by
    simp [Broken, segments, String.ofList_eq_empty_iff]
  rw [hmem, nil_mem_splitAt_iff, nil_mem_tail_splitAt_iff, String.toList_eq_nil_iff, or_assoc]

theorem isPath_of_flaw? {spec : Spec} (h : Clause.flaw? ⟨path, spec⟩ = none) : IsPath path := by
  rw [isPath_iff]
  cases hblank : (segments path).any Text.allBlank with
  | false => rfl
  | true => simp [Clause.flaw?, hblank] at h

/-- A segment that says something is not empty. -/
theorem not_broken_of_isPath (h : IsPath path) : ¬Broken path := by
  intro hbroken
  have hblank : (segments path).any Text.allBlank = true := List.any_eq_true.2 ⟨"", hbroken, rfl⟩
  rw [(isPath_iff path).1 h] at hblank
  cases hblank

end Condition

open Condition Rule.Submission

/-! ## Followed in steps -/

namespace Peer

variable {ss : List String} {v : Value} {path rest : String} {p : Peer}

theorem resolve_of_empty (h : "" ∈ ss) (v : Value) : resolve ss v = none := by
  induction ss generalizing v with
  | nil => cases h
  | cons s ss ih =>
    rw [resolve]
    by_cases hs : s = ""
    · rw [if_pos hs]
    · have hrest : "" ∈ ss := (List.mem_cons.1 h).resolve_left (Ne.symm hs)
      rw [if_neg hs, Option.bind_eq_none_iff]
      exact fun w _ => ih hrest w

theorem resolve_of_no_object (hv : v.members? = none) (hss : ss ≠ []) : resolve ss v = none := by
  obtain ⟨s, ss, rfl⟩ := List.exists_cons_of_ne_nil hss
  simp [resolve, Value.get?, hv]

/-- What a path leads to from a document on, which must be an object. -/
theorem resolve_segments (rest : String) (v : Value) :
    resolve (segments rest) v = v.members?.bind fun m => (Peer.mk m).attributeAt rest := by
  cases v with
  | object m => rfl
  | null | bool | number | string | array =>
    exact resolve_of_no_object rfl (segments_ne_nil rest)

/-- A joined path is followed in two steps. -/
theorem attributeAt_join (p : Peer) (path rest : String) : p.attributeAt (path ++ "." ++ rest) =
    (p.attributeAt path).bind fun v => v.members?.bind fun m => (Peer.mk m).attributeAt rest := by
  rw [attributeAt, segments_join, resolve_append]
  exact congrArg _ (funext (resolve_segments rest))

theorem attributeAt_join_eq_some_iff {p : Peer} : p.attributeAt (path ++ "." ++ rest) = some v ↔
    ∃ m, p.attributeAt path = some (.object m) ∧ (Peer.mk m).attributeAt rest = some v := by
  rw [attributeAt_join, Option.bind_eq_some_iff]
  constructor
  · rintro ⟨w, hw, hv⟩
    obtain ⟨m, hm, hv⟩ := Option.bind_eq_some_iff.1 hv
    cases w with
    | object =>
      cases hm
      exact ⟨m, hw, hv⟩
    | null | bool | number | string | array => cases hm
  · rintro ⟨m, hm, hv⟩
    exact ⟨.object m, hm, hv⟩

theorem attributeAt_of_broken (h : Broken path) (p : Peer) : p.attributeAt path = none :=
  resolve_of_empty h p.snapshot

/-- **Paths that are joined.** Behind a joined path stands what the second path leads to in the
object that the first one leads to. So there is nothing behind it if either path has an empty
segment, or if what the first one leads to is no object. -/
theorem joined_paths_followed (p : Peer) (path rest : String) :
    (∀ v, p.attributeAt (path ++ "." ++ rest) = some v ↔
      ∃ m, p.attributeAt path = some (.object m) ∧ (Peer.mk m).attributeAt rest = some v) ∧
    (Broken path ∨ Broken rest → p.attributeAt (path ++ "." ++ rest) = none ∧
      ¬∃ m v, p.attributeAt path = some (.object m) ∧ (Peer.mk m).attributeAt rest = some v) ∧
    ∀ w, p.attributeAt path = some w → w.members? = none →
      p.attributeAt (path ++ "." ++ rest) = none ∧
        ¬∃ m v, p.attributeAt path = some (.object m) ∧
          (Peer.mk m).attributeAt rest = some v := by
  -- with nothing on one side, there is nothing on the other one
  have hnone : p.attributeAt (path ++ "." ++ rest) = none →
      ¬∃ m v, p.attributeAt path = some (.object m) ∧ (Peer.mk m).attributeAt rest = some v := by
    rintro habsent ⟨m, v, hm⟩
    cases habsent.symm.trans (attributeAt_join_eq_some_iff.2 ⟨m, hm⟩)
  refine ⟨fun v => attributeAt_join_eq_some_iff, fun hbroken => ?_, fun w hw hscalar => ?_⟩
  · have habsent := attributeAt_of_broken (broken_join_iff.2 hbroken) p
    exact ⟨habsent, hnone habsent⟩
  · have habsent : p.attributeAt (path ++ "." ++ rest) = none := by
      simp [attributeAt_join, hw, hscalar]
    exact ⟨habsent, hnone habsent⟩

def settledPeer : Peer :=
  ⟨[("geo", .object [("country", .object [("code", .string "CN")])]),
    ("services", .array [.string "NETWORK"])]⟩

theorem joined_paths_followed_settled :
    settledPeer.attributeAt ("geo.country" ++ "." ++ "code") = some (.string "CN") ∧
      Broken "geo." ∧ settledPeer.attributeAt ("geo." ++ "." ++ "country") = none ∧
      settledPeer.attributeAt "services" = some (.array [.string "NETWORK"]) ∧
      settledPeer.attributeAt ("services" ++ "." ++ "0") = none := by
  have hcountry : settledPeer.attributeAt "geo.country" =
      some (.object [("code", .string "CN")]) := rfl
  have hservices : settledPeer.attributeAt "services" = some (.array [.string "NETWORK"]) := rfl
  have hbroken : Broken "geo." := by decide +kernel
  exact ⟨((joined_paths_followed settledPeer "geo.country" "code").1 _).2 ⟨_, hcountry, rfl⟩,
    hbroken, ((joined_paths_followed settledPeer "geo." "country").2.1 (.inl hbroken)).1, hservices,
    ((joined_paths_followed settledPeer "services" "0").2.2 _ hservices rfl).1⟩

/-! ## Peers on which a path leads somewhere -/

/-- A document at the end of segments, each of which is the one member of its object. -/
def wrapped (ss : List String) (v : Value) : Value := ss.foldr (fun s w => .object [(s, w)]) v

theorem resolve_wrapped (h : "" ∉ ss) (v : Value) : resolve ss (wrapped ss v) = some v := by
  induction ss with
  | nil => rfl
  | cons s ss ih =>
    obtain ⟨hs, hss⟩ := not_or.1 (mt List.mem_cons.2 h)
    have hget : (wrapped (s :: ss) v).get? s = some (wrapped ss v) := by
      simp [wrapped, Value.get?, Value.members?, Members.find?]
    rw [resolve, if_neg (Ne.symm hs), hget]
    exact ih hss

theorem ordered_wrapped (ss : List String) (h : v.Ordered) : (wrapped ss v).Ordered := by
  induction ss with
  | nil => exact h
  | cons s ss ih =>
    exact .object (List.pairwise_singleton _ _) (List.forall_mem_singleton.2 ih)

/-- A peer with one attribute, in which a path leads to a document. -/
def bearing (path : String) (v : Value) : Peer := ⟨((wrapped (segments path) v).members?).getD []⟩

theorem snapshot_bearing (path : String) (v : Value) :
    (bearing path v).snapshot = wrapped (segments path) v := by
  obtain ⟨s, ss, hs⟩ := List.exists_cons_of_ne_nil (segments_ne_nil path)
  rw [bearing, hs]
  rfl

theorem attributeAt_bearing (h : ¬Broken path) (v : Value) :
    (bearing path v).attributeAt path = some v := by
  rw [attributeAt, snapshot_bearing]
  exact resolve_wrapped h v

end Peer

namespace Conditions

variable {path : String} {v : Value} {p : Peer}

theorem MetBy.asking_eq (h : p.attributeAt path = some v) : MetBy (single path (asking .eq v)) p :=
  MetBy.asking_iff.2 ⟨v, h, equal_equivalence.refl v⟩

/-- The condition that asks for one document is accepted with every path that is one. -/
theorem accepted_asking_eq (h : IsPath path) (v : Value) :
    ∃ c, ofValue (single path (asking .eq v)) = .ok c ∧ c.validate = .ok () := by
  refine (isConditions_iff _).1 (List.forall_mem_singleton.2 ⟨h, List.cons_ne_nil _ _, ?_⟩)
  exact List.forall_mem_singleton.2 (.inl List.mem_cons_self)

/-- What cannot be found fails the conditions that ask for it. -/
theorem not_meets_of_absent {c : Conditions} {f : Clause}
    (habsent : p.attributeAt f.path = Option.none) (hf : f ∈ c.clauses) : c.meets p = false := by
  refine Bool.eq_false_iff.2 fun hmeets => ?_
  obtain ⟨v, hv, -⟩ := Clause.holds_iff.1 ((meets_iff c p).1 hmeets f hf)
  cases habsent.symm.trans hv

/-- **Accepted paths lead somewhere, broken ones nowhere.** If a path is accepted in a condition
at all, then every document is what the path leads to on some peer, whose members are in order if
those of the document are; the condition that asks for just this document is accepted, and that
peer meets it, and it meets the shorter form of it, too, which there is unless the document is an
object. A path with an empty segment, wherever that stands, leads to nothing on any peer, and no
conditions are met in which it occurs. -/
theorem accepted_paths_lead (path : String) :
    ((∃ spec, Clause.flaw? ⟨path, spec⟩ = Option.none) → ∀ v, ∃ p : Peer,
      p.attributeAt path = some v ∧ (v.Ordered → p.snapshot.Ordered) ∧
      (∃ c, ofValue (single path (asking .eq v)) = .ok c ∧ c.validate = .ok ()) ∧
      MetBy (single path (asking .eq v)) p ∧
      (v.members? = Option.none → MetBy (single path v) p)) ∧
    ((path = "" ∨ path.toList.head? = some '.' ∨ path.toList.getLast? = some '.' ∨
        ['.', '.'] <:+: path.toList) →
      ∀ p : Peer, p.attributeAt path = Option.none ∧
        ∀ c : Conditions, (∃ f ∈ c.clauses, f.path = path) → c.meets p = false) := by
  constructor
  · rintro ⟨spec, hspec⟩ v
    have hpath := isPath_of_flaw? hspec
    have hfound := Peer.attributeAt_bearing (not_broken_of_isPath hpath) v
    have hmet := MetBy.asking_eq hfound
    refine ⟨Peer.bearing path v, hfound, fun hv => ?_, accepted_asking_eq hpath v, hmet,
      fun hscalar => (MetBy.scalar_iff hscalar).2 hmet⟩
    rw [Peer.snapshot_bearing]
    exact Peer.ordered_wrapped _ hv
  · intro hdots p
    have habsent := Peer.attributeAt_of_broken (broken_iff.2 hdots) p
    refine ⟨habsent, ?_⟩
    rintro c ⟨f, hf, rfl⟩
    exact not_meets_of_absent habsent hf

theorem accepted_paths_lead_country :
    (∃ spec, Clause.flaw? ⟨"geo.country", spec⟩ = Option.none) ∧
      (∃ p : Peer, p.attributeAt "geo.country" = some (.string "CN") ∧
        MetBy (single "geo.country" (.string "CN")) p) ∧
      ['.', '.'] <:+: "geo..country".toList ∧
      ∀ p : Peer, p.attributeAt "geo..country" = Option.none := by
  have haccepted : ∃ spec, Clause.flaw? ⟨"geo.country", spec⟩ = Option.none :=
    ⟨.equals .null, by decide +kernel⟩
  have hdots : ['.', '.'] <:+: "geo..country".toList := by decide +kernel
  obtain ⟨p, hfound, -, -, -, hmet⟩ :=
    (accepted_paths_lead "geo.country").1 haccepted (.string "CN")
  exact ⟨haccepted, ⟨p, hfound, hmet rfl⟩, hdots, fun p =>
    ((accepted_paths_lead "geo..country").2 (.inr (.inr (.inr hdots))) p).1⟩

end Conditions

end PeerRules
