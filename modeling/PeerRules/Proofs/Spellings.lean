import Mathlib.Data.Char
import PeerRules.Proofs.Places
import PeerRules.Proofs.Trimming
import PeerRules.Text.Utf8

/-!
# How identifiers are spelled

An identifier is read from texts of four forms, in upper and lower case, and written in one of them.
Reading looks at the size of a text first: no two forms have the same size, so what is accepted is
known form by form (`Spells`), whatever stands at the places where it is not looked for. Case is
dealt with once, for characters: a character is read as a digit if it is, in lower case, the one that
is written for it.

The written form keeps the order of the identifiers. The digits do, since the first one weighs most,
and the hyphens stand at the same places in every text.

* `hexDigit?_eq_some_iff`: the characters that are read as a digit.
* `ofDigits?_eq_some_iff`, `ungrouped?_eq_some_iff`: the texts that are read as digits and groups.
* `ofReference_eq_ok_iff`: the references that are accepted as an identifier.
* `bytes_lt_iff`, `encode_text_lt_iff`: the order of identifiers, by their bytes and their texts.
* `spelled_and_ordered`: all of this for the texts that people write.
-/
namespace PeerRules.RuleId

open Json.Reader

/-! ## Characters in lower case -/

section Characters

variable {c : Char} {cs : List Char} {d : Nat} {ds : List Nat}

/-- Characters by cases: those of ASCII are few enough to be looked at, the others have no case. -/
theorem forall_char {P : Char → Prop} (hascii : ∀ n < 128, P (Char.ofNat n))
    (hother : ∀ c : Char, 128 ≤ c.toNat → P c) (c : Char) : P c := by
  by_cases hc : c.toNat < 128
  · rw [← Char.ofNat_toNat c]
    exact hascii _ hc
  · exact hother c (Nat.le_of_not_lt hc)

theorem not_le_of_ascii {last : Char} (h : 128 ≤ c.toNat) (hlast : last.toNat < 128) : ¬c ≤ last :=
  fun hle => Nat.not_le.2 (Nat.lt_of_lt_of_le hlast h) hle

theorem toLower_of_ge (h : 128 ≤ c.toNat) : c.toLower = c :=
  dif_neg fun hupper => not_le_of_ascii h (by decide) hupper.2

theorem hexDigit?_of_ge (h : 128 ≤ c.toNat) : hexDigit? c = none := by
  have hnine := @not_le_of_ascii c '9' h (by decide)
  have hlower := @not_le_of_ascii c 'f' h (by decide)
  have hupper := @not_le_of_ascii c 'F' h (by decide)
  simp [hexDigit?, hnine, hlower, hupper]

theorem lt_of_hexDigit? (h : hexDigit? c = some d) : d < 16 := by
  have hbound : ∀ {first last : Char}, first ≤ c ∧ c ≤ last →
      c.toNat - first.toNat ≤ last.toNat - first.toNat := fun hc => Nat.sub_le_sub_right hc.2 _
  unfold hexDigit? at h
  split_ifs at h with hdigit hlower hupper
  · cases h
    exact Nat.lt_of_le_of_lt (hbound hdigit) (by decide)
  · cases h
    exact Nat.add_lt_add_right (Nat.lt_of_le_of_lt (hbound hlower) (by decide : _ < 6)) 10
  · cases h
    exact Nat.add_lt_add_right (Nat.lt_of_le_of_lt (hbound hupper) (by decide : _ < 6)) 10

/-- The characters that are read as a digit are those that are, in lower case, written for it. -/
theorem hexDigit?_eq_some_iff (c : Char) :
    hexDigit? c = some d ↔ d < 16 ∧ c.toLower = d.digitChar := by
  by_cases hd : d < 16
  · rw [and_iff_right hd]
    revert c
    refine forall_char (fun n hn => ?_) fun c hc => ?_
    · revert n d
      decide +kernel
    · have hdigit : d.digitChar.toNat < 128 := by
        revert d
        decide
      rw [hexDigit?_of_ge hc, toLower_of_ge hc]
      refine iff_of_false nofun ?_
      rintro rfl
      exact Nat.not_lt.2 hc hdigit
  · exact iff_of_false (fun h => hd (lt_of_hexDigit? h)) fun h => hd h.1

theorem mapM_hexDigit?_eq_some_iff : cs.mapM hexDigit? = some ds ↔
    (∀ d ∈ ds, d < 16) ∧ cs.map Char.toLower = ds.map Nat.digitChar := by
  induction cs generalizing ds with
  | nil => cases ds <;> simp
  | cons c cs ih =>
    have hcons : (c :: cs).mapM hexDigit? = some ds ↔
        ∃ d es, hexDigit? c = some d ∧ cs.mapM hexDigit? = some es ∧ ds = d :: es := by
      simp [List.mapM_cons, Option.bind_eq_some_iff, @eq_comm _ _ ds]
    rw [hcons]
    constructor
    · rintro ⟨d, es, hd, hes, rfl⟩
      obtain ⟨hlt, hchar⟩ := (hexDigit?_eq_some_iff c).1 hd
      obtain ⟨hlts, hchars⟩ := ih.1 hes
      exact ⟨List.forall_mem_cons.2 ⟨hlt, hlts⟩, List.cons_eq_cons.2 ⟨hchar, hchars⟩⟩
    · rintro ⟨hlts, hchars⟩
      cases ds with
      | nil => cases hchars
      | cons d es =>
        obtain ⟨hlt, hlts⟩ := List.forall_mem_cons.1 hlts
        obtain ⟨hchar, hchars⟩ := List.cons_eq_cons.1 hchars
        exact ⟨d, es, (hexDigit?_eq_some_iff c).2 ⟨hlt, hchar⟩, ih.2 ⟨hlts, hchars⟩, rfl⟩

theorem utf8Size_toLower (c : Char) : c.toLower.utf8Size = c.utf8Size := by
  revert c
  exact forall_char (by decide +kernel) fun c hc => by rw [toLower_of_ge hc]

theorem isBlank_toLower (c : Char) : Text.isBlank c.toLower = Text.isBlank c := by
  revert c
  exact forall_char (by decide +kernel) fun c hc => by rw [toLower_of_ge hc]

theorem toLower_eq_hyphen_iff (c : Char) : c.toLower = '-' ↔ c = '-' := by
  revert c
  exact forall_char (by decide +kernel) fun c hc => by rw [toLower_of_ge hc]

end Characters

/-! ## Digits -/

variable {id : RuleId} {cs ds front : List Char}

def nibbles (id : RuleId) : List Nat := hexDigits 32 id.number

theorem nibbles_lt (id : RuleId) : ∀ d ∈ id.nibbles, d < 16 := by
  rw [nibbles, hexDigits_eq_digitsIn]
  exact lt_of_mem_digitsIn (by decide)

theorem ofNat_nibbles (id : RuleId) : ofNat (ofHexDigits id.nibbles) = id := by
  obtain ⟨n, hn⟩ := id
  have hn' : n < 2 ^ 128 := hn
  have hsize : 16 ^ 32 = 2 ^ 128 := by decide
  rw [nibbles, ofHexDigits_hexDigits, hsize, Nat.mod_eq_of_lt hn']
  simp only [ofNat, RuleId.mk.injEq]
  exact Nat.mod_eq_of_lt hn

theorem nibbles_ofNat {ns : List Nat} (hlength : ns.length = 32) (h : ∀ d ∈ ns, d < 16) :
    (ofNat (ofHexDigits ns)).nibbles = ns := by
  have hlt : ofHexDigits ns < Nat.pow 2 128 := by
    have := ofHexDigits_lt h
    rwa [hlength] at this
  have hnumber : (ofNat (ofHexDigits ns)).number = ofHexDigits ns := Nat.mod_eq_of_lt hlt
  rw [nibbles, hnumber, ← hlength]
  exact hexDigits_ofHexDigits h

/-- Digits are read as an identifier if they are, in lower case, the ones that are written for it. -/
theorem ofDigits?_eq_some_iff : ofDigits? cs = some id ↔ cs.map Char.toLower = id.digits := by
  constructor
  · intro h
    unfold ofDigits? at h
    split_ifs at h with hlength
    obtain ⟨ns, hns, rfl⟩ := Option.map_eq_some_iff.1 h
    obtain ⟨hlt, hchars⟩ := mapM_hexDigit?_eq_some_iff.1 hns
    have hcount : ns.length = 32 := by
      rw [← hlength, ← List.length_map Char.toLower, hchars, List.length_map]
    rw [hchars]
    exact congrArg (List.map Nat.digitChar) (nibbles_ofNat hcount hlt).symm
  · intro h
    have hlength : cs.length = 32 := by
      rw [← List.length_map Char.toLower, h, digits_length]
    have hns : cs.mapM hexDigit? = some id.nibbles :=
      mapM_hexDigit?_eq_some_iff.2 ⟨id.nibbles_lt, h⟩
    rw [ofDigits?, if_pos hlength, hns, Option.map_some, ofNat_nibbles]

/-! ## Groups -/

/-- The list is made of parts, of which the first has 8 characters, the last 12, and every other one
has 4. -/
structure InGroups (ds a b c d e : List Char) : Prop where
  whole : ds = a ++ (b ++ (c ++ (d ++ e)))
  first : a.length = 8
  second : b.length = 4
  third : c.length = 4
  fourth : d.length = 4
  last : e.length = 12

theorem exists_inGroups (h : ds.length = 32) : ∃ a b c d e, InGroups ds a b c d e := by
  refine ⟨ds.take 8, (ds.drop 8).take 4, (ds.drop 12).take 4, (ds.drop 16).take 4, ds.drop 20, ?_,
    ?_, ?_, ?_, ?_, ?_⟩
  · have hdrop : ∀ i, (ds.drop i).take 4 ++ ds.drop (i + 4) = ds.drop i := fun i => by
      rw [← List.drop_drop, List.take_append_drop]
    rw [hdrop 16, hdrop 12, hdrop 8, List.take_append_drop]
  all_goals simp [h]

theorem InGroups.grouped_eq {a b c d e : List Char} (h : InGroups ds a b c d e) :
    grouped ds = a ++ '-' :: (b ++ '-' :: (c ++ '-' :: (d ++ '-' :: e))) := by
  obtain ⟨rfl, ha, hb, hc, hd, he⟩ := h
  simp [grouped, List.drop_append, List.drop_eq_nil_of_le, ha, hb, hc, hd]

theorem length_grouped (h : ds.length = 32) : (grouped ds).length = 36 := by
  obtain ⟨a, b, c, d, e, hg⟩ := exists_inGroups h
  simp [hg.grouped_eq, hg.first, hg.second, hg.third, hg.fourth, hg.last]

theorem map_grouped {f : Char → Char} (hf : f '-' = '-') (ds : List Char) :
    (grouped ds).map f = grouped (ds.map f) := by
  simp [grouped, List.map_take, List.map_drop, hf]

theorem ungrouped?_eq_some_iff (h : ds.length = 32) :
    ungrouped? cs = some ds ↔ cs = grouped ds := by
  constructor
  · intro hcs
    simp only [ungrouped?] at hcs
    split_ifs at hcs with heq
    rwa [Option.some.inj hcs] at heq
  · rintro rfl
    obtain ⟨a, b, c, d, e, hg⟩ := exists_inGroups h
    have hback : (grouped ds).take 8 ++ ((grouped ds).drop 9).take 4 ++
        ((grouped ds).drop 14).take 4 ++ ((grouped ds).drop 19).take 4 ++ (grouped ds).drop 24 =
          ds := by
      obtain ⟨rfl, ha, hb, hc, hd, he⟩ := id hg
      simp [hg.grouped_eq, List.drop_append, List.drop_eq_nil_of_le, ha, hb, hc,
        hd]
    simp only [ungrouped?, hback, if_true]

theorem exists_of_map_eq_hyphen {f : Char → Char} (hf : ∀ c, f c = '-' ↔ c = '-')
    {front back : List Char} (h : cs.map f = front ++ '-' :: back) :
    ∃ xs ys, cs = xs ++ '-' :: ys ∧ xs.map f = front ∧ ys.map f = back := by
  obtain ⟨xs, rest, rfl, hxs, hrest⟩ := List.map_eq_append_iff.1 h
  obtain ⟨x, ys, rfl, hx, hys⟩ := List.map_eq_cons_iff.1 hrest
  exact ⟨xs, ys, by rw [(hf x).1 hx], hxs, hys⟩

/-- Characters that are grouped digits, once each of them is replaced, were so before, if hyphens are
replaced by themselves and nothing else is by a hyphen. -/
theorem map_eq_grouped_iff {f : Char → Char} (hf : ∀ c, f c = '-' ↔ c = '-') (h : ds.length = 32) :
    cs.map f = grouped ds ↔ ∃ es, cs = grouped es ∧ es.map f = ds := by
  constructor
  · obtain ⟨a, b, c, d, e, hg⟩ := exists_inGroups h
    obtain ⟨rfl, ha, hb, hc, hd, he⟩ := id hg
    rw [hg.grouped_eq]
    intro hcs
    obtain ⟨a', cs₁, hcs₁, rfl, hrest₁⟩ := exists_of_map_eq_hyphen hf hcs
    obtain ⟨b', cs₂, hcs₂, rfl, hrest₂⟩ := exists_of_map_eq_hyphen hf hrest₁
    obtain ⟨c', cs₃, hcs₃, rfl, hrest₃⟩ := exists_of_map_eq_hyphen hf hrest₂
    obtain ⟨d', e', hcs₄, rfl, rfl⟩ := exists_of_map_eq_hyphen hf hrest₃
    rw [List.length_map] at ha hb hc hd he
    refine ⟨a' ++ (b' ++ (c' ++ (d' ++ e'))), ?_, by simp⟩
    rw [hcs₁, hcs₂, hcs₃, hcs₄]
    exact (InGroups.mk rfl ha hb hc hd he).grouped_eq.symm
  · rintro ⟨es, rfl, rfl⟩
    exact map_grouped ((hf '-').2 rfl) es

theorem filter_grouped (h : ds.length = 32) (hhyphen : '-' ∉ ds) :
    (grouped ds).filter (· ≠ '-') = ds := by
  obtain ⟨a, b, c, d, e, hg⟩ := exists_inGroups h
  have hkept : ds.filter (· ≠ '-') = ds :=
    List.filter_eq_self.2 fun x hx => decide_eq_true fun hx' => hhyphen (hx' ▸ hx)
  rw [hg.whole] at hkept
  rw [hg.grouped_eq, hg.whole, ← hkept]
  simp

/-- Hyphens at the same places leave digits in order. -/
theorem grouped_lt_grouped_iff {es : List Char} (hds : ds.length = 32) (hes : es.length = 32) :
    grouped ds < grouped es ↔ ds < es := by
  obtain ⟨a, b, c, d, e, hg⟩ := exists_inGroups hds
  obtain ⟨a', b', c', d', e', hg'⟩ := exists_inGroups hes
  have hfirst := hg.first.trans hg'.first.symm
  have hsecond := hg.second.trans hg'.second.symm
  have hthird := hg.third.trans hg'.third.symm
  have hfourth := hg.fourth.trans hg'.fourth.symm
  have hhyphen : ∀ xs ys : List Char, '-' :: xs < '-' :: ys ↔ xs < ys := fun xs ys => by
    simp
  rw [hg.grouped_eq, hg'.grouped_eq, hg.whole, hg'.whole]
  simp only [append_lt_append_iff hfirst, append_lt_append_iff hsecond, append_lt_append_iff hthird,
    append_lt_append_iff hfourth, hhyphen]

/-! ## Forms -/

theorem byteSize_append (cs ds : List Char) : byteSize (cs ++ ds) = byteSize cs + byteSize ds := by
  induction cs with
  | nil => simp [byteSize]
  | cons c cs ih => rw [List.cons_append, byteSize, byteSize, ih, Nat.add_assoc]

theorem byteSize_map_toLower (cs : List Char) : byteSize (cs.map Char.toLower) = byteSize cs := by
  induction cs with
  | nil => rfl
  | cons c cs ih => rw [List.map_cons, byteSize, byteSize, utf8Size_toLower, ih]

theorem byteSize_eq_length (h : ∀ c ∈ cs, c.utf8Size = 1) : byteSize cs = cs.length := by
  induction cs with
  | nil => rfl
  | cons c cs ih =>
    obtain ⟨hc, hcs⟩ := List.forall_mem_cons.1 h
    rw [byteSize, hc, ih hcs, List.length_cons, Nat.add_comm]

/-- What holds of the character of every digit holds of those of an identifier. -/
theorem forall_mem_digits {P : Char → Prop} (h : ∀ d < 16, P (Nat.digitChar d)) :
    ∀ c ∈ id.digits, P c := by
  intro c hc
  obtain ⟨d, hd, rfl⟩ := List.mem_map.1 hc
  exact h d (id.nibbles_lt d hd)

theorem forall_mem_grouped {P : Char → Prop} (hds : ∀ c ∈ ds, P c) (hhyphen : P '-') :
    ∀ c ∈ grouped ds, P c := by
  have htake : ∀ i count, ∀ c ∈ (ds.drop i).take count, P c := fun i count c hc =>
    hds c (List.mem_of_mem_drop (List.mem_of_mem_take hc))
  intro c hc
  simp only [grouped, List.mem_append, List.mem_cons] at hc
  rcases hc with (((hc | rfl | hc) | rfl | hc) | rfl | hc) | rfl | hc
  · exact hds c (List.mem_of_mem_take hc)
  · exact hhyphen
  · exact htake 8 4 c hc
  · exact hhyphen
  · exact htake 12 4 c hc
  · exact hhyphen
  · exact htake 16 4 c hc
  · exact hhyphen
  · exact hds c (List.mem_of_mem_drop hc)

/-- What holds of the characters of all digits and of the hyphen holds of a whole text. -/
theorem forall_mem_grouped_digits {P : Char → Prop} (hdigit : ∀ d < 16, P (Nat.digitChar d))
    (hhyphen : P '-') : ∀ c ∈ grouped id.digits, P c :=
  forall_mem_grouped (forall_mem_digits hdigit) hhyphen

theorem byteSize_of_digits (h : cs.map Char.toLower = id.digits) : byteSize cs = 32 := by
  rw [← byteSize_map_toLower, h, byteSize_eq_length (forall_mem_digits (by decide)), digits_length]

theorem byteSize_of_grouped (h : cs.map Char.toLower = grouped id.digits) : byteSize cs = 36 := by
  have hone : ∀ c ∈ grouped id.digits, c.utf8Size = 1 :=
    forall_mem_grouped_digits (by decide) (by decide)
  rw [← byteSize_map_toLower, h, byteSize_eq_length hone, length_grouped id.digits_length]

theorem byteSize_of_urn (h : front.map Char.toLower = urn) : byteSize front = 9 := by
  rw [← byteSize_map_toLower, h]
  rfl

theorem inBraces?_eq_some_iff : inBraces? cs = some ds ↔ cs = '\x7b' :: (ds ++ ['\x7d']) := by
  constructor
  · intro h
    unfold inBraces? at h
    split at h
    · next rest =>
      split_ifs at h with hlast
      obtain ⟨ys, rfl⟩ := List.getLast?_eq_some_iff.1 hlast
      rw [List.dropLast_concat] at h
      rw [Option.some.inj h]
    · cases h
  · rintro rfl
    simp [inBraces?]

theorem afterUrn?_eq_some_iff :
    afterUrn? cs = some ds ↔ ∃ front, front.map Char.toLower = urn ∧ cs = front ++ ds := by
  constructor
  · intro h
    unfold afterUrn? at h
    split_ifs at h with hfront
    exact ⟨cs.take 9, hfront, by rw [← Option.some.inj h, List.take_append_drop]⟩
  · rintro ⟨front, hfront, rfl⟩
    have hlength : front.length = 9 := by
      rw [← List.length_map Char.toLower, hfront]
      rfl
    have htake : (front ++ ds).take 9 = front := List.take_left' hlength
    have hdrop : (front ++ ds).drop 9 = ds := List.drop_left' hlength
    rw [afterUrn?, htake, hdrop, if_pos hfront]

theorem bind_ungrouped?_eq_some_iff :
    (ungrouped? cs).bind ofDigits? = some id ↔ cs.map Char.toLower = grouped id.digits := by
  rw [map_eq_grouped_iff toLower_eq_hyphen_iff id.digits_length, Option.bind_eq_some_iff]
  simp only [ofDigits?_eq_some_iff]
  refine exists_congr fun es => and_congr_left fun hes => ungrouped?_eq_some_iff ?_
  rw [← List.length_map Char.toLower, hes, digits_length]

/-- The texts of an identifier: digits in either case, bare or in groups, and the groups in braces
or behind the prefix of a name. -/
inductive Spells (id : RuleId) : List Char → Prop where
  | bare {cs : List Char} (digits : cs.map Char.toLower = id.digits) : Spells id cs
  | hyphenated {cs : List Char} (groups : cs.map Char.toLower = grouped id.digits) : Spells id cs
  | braced {cs : List Char} (groups : cs.map Char.toLower = grouped id.digits) :
    Spells id ('\x7b' :: (cs ++ ['\x7d']))
  | named {front cs : List Char} (name : front.map Char.toLower = urn)
    (groups : cs.map Char.toLower = grouped id.digits) : Spells id (front ++ cs)

/-- What is read as an identifier is what spells it. No two forms have the same size, so the size
tells which of them is met. -/
theorem ofForm?_eq_some_iff : ofForm? cs = some id ↔ Spells id cs := by
  constructor
  · intro h
    unfold ofForm? at h
    split_ifs at h with hsize
    · exact .bare (ofDigits?_eq_some_iff.1 h)
    · obtain ⟨ds, hds, hid⟩ := Option.bind_eq_some_iff.1 h
      obtain ⟨body, hbody, hes⟩ := Option.bind_eq_some_iff.1 hds
      have hgroups : body.map Char.toLower = grouped id.digits :=
        bind_ungrouped?_eq_some_iff.1 (Option.bind_eq_some_iff.2 ⟨ds, hes, hid⟩)
      unfold hyphenated? at hbody
      split_ifs at hbody with hhyphenated hbraced hnamed
      · cases hbody
        exact .hyphenated hgroups
      · rw [inBraces?_eq_some_iff.1 hbody]
        exact .braced hgroups
      · obtain ⟨front, hfront, rfl⟩ := afterUrn?_eq_some_iff.1 hbody
        exact .named hfront hgroups
  · intro h
    cases h with
    | bare hdigits =>
      rw [ofForm?, if_pos (byteSize_of_digits hdigits), ofDigits?_eq_some_iff.2 hdigits]
    | hyphenated hgroups =>
      have hsize := byteSize_of_grouped hgroups
      simp [ofForm?, hyphenated?, hsize, bind_ungrouped?_eq_some_iff.2 hgroups]
    | @braced cs hgroups =>
      have hsize : byteSize ('\x7b' :: (cs ++ ['\x7d'])) = 38 := by
        rw [byteSize, byteSize_append, byteSize_of_grouped hgroups]
        rfl
      have hinside := inBraces?_eq_some_iff.2 (Eq.refl ('\x7b' :: (cs ++ ['\x7d'])))
      simp [ofForm?, hyphenated?, hsize, hinside, bind_ungrouped?_eq_some_iff.2 hgroups]
    | @named front cs hfront hgroups =>
      have hsize : byteSize (front ++ cs) = 45 := by
        rw [byteSize_append, byteSize_of_urn hfront, byteSize_of_grouped hgroups]
      have hbehind := afterUrn?_eq_some_iff.2 ⟨front, hfront, Eq.refl (front ++ cs)⟩
      simp [ofForm?, hyphenated?, hsize, hbehind, bind_ungrouped?_eq_some_iff.2 hgroups]

/-! ## References -/

theorem isBlank_of_map_toLower (h : ∀ c ∈ cs.map Char.toLower, Text.isBlank c = false) :
    ∀ c ∈ cs, Text.isBlank c = false := fun c hc => by
  rw [← isBlank_toLower]
  exact h _ (List.mem_map_of_mem hc)

theorem Spells.isBlank_eq_false (h : Spells id cs) : ∀ c ∈ cs, Text.isBlank c = false := by
  have hdigits : ∀ c ∈ id.digits, Text.isBlank c = false := forall_mem_digits (by decide)
  have hgrouped : ∀ c ∈ grouped id.digits, Text.isBlank c = false :=
    forall_mem_grouped_digits (by decide) (by decide)
  cases h with
  | bare hcs => exact isBlank_of_map_toLower (hcs ▸ hdigits)
  | hyphenated hcs => exact isBlank_of_map_toLower (hcs ▸ hgrouped)
  | braced hcs =>
    have hinside := isBlank_of_map_toLower (hcs ▸ hgrouped)
    exact List.forall_mem_cons.2
      ⟨rfl, List.forall_mem_append.2 ⟨hinside, List.forall_mem_singleton.2 rfl⟩⟩
  | named hfront hcs =>
    have hnone : urn.any Text.isBlank = false := by decide
    have hurn : ∀ c ∈ urn, Text.isBlank c = false := fun c hc =>
      Bool.eq_false_iff.2 (List.any_eq_false.1 hnone c hc)
    exact List.forall_mem_append.2
      ⟨isBlank_of_map_toLower (hfront ▸ hurn), isBlank_of_map_toLower (hcs ▸ hgrouped)⟩

theorem ofReference_eq_ok_iff (s : String) :
    ofReference s = .ok id ↔ Spells id (Text.trimList s.toList) := by
  have htrim : (Text.trim s).toList = Text.trimList s.toList := String.toList_ofList
  rw [← ofForm?_eq_some_iff, ← htrim, ← ofText_eq_ok_iff, ofReference]
  cases ofText (Text.trim s) <;> simp

def spellings (id : RuleId) : List String :=
  [id.text, id.text.toUpper, "\x7b" ++ id.text ++ "\x7d", "urn:uuid:" ++ id.text,
    String.ofList (id.text.toList.filter (· ≠ '-'))]

theorem toList_text (id : RuleId) : id.text.toList = grouped id.digits := String.toList_ofList

theorem map_toLower_text (id : RuleId) : id.text.toList.map Char.toLower = grouped id.digits := by
  have hlower : ∀ c ∈ grouped id.digits, c.toLower = c :=
    forall_mem_grouped_digits (by decide) (by decide)
  rw [toList_text, List.map_congr_left hlower, List.map_id']

theorem spells_of_mem_spellings {t : String} (ht : t ∈ id.spellings) : Spells id t.toList := by
  have hdigits : ∀ c ∈ id.digits, c.toLower = c := forall_mem_digits (by decide)
  have hupper : ∀ c ∈ grouped id.digits, c.toUpper.toLower = c :=
    forall_mem_grouped_digits (by decide) (by decide)
  have hhyphen : ∀ c ∈ id.digits, c ≠ '-' := forall_mem_digits (by decide)
  simp only [spellings, List.mem_cons, List.not_mem_nil, or_false] at ht
  rcases ht with rfl | rfl | rfl | rfl | rfl
  · exact .hyphenated id.map_toLower_text
  · refine .hyphenated ?_
    rw [String.toUpper, String.toList_map, toList_text, List.map_map]
    exact (List.map_congr_left hupper).trans (List.map_id' _)
  · rw [String.toList_append, String.toList_append]
    exact .braced id.map_toLower_text
  · rw [String.toList_append]
    exact .named (by decide) id.map_toLower_text
  · refine .bare ?_
    rw [String.toList_ofList, toList_text, filter_grouped id.digits_length fun h => hhyphen _ h rfl,
      List.map_congr_left hdigits, List.map_id']

/-! ## Order -/

def bytes (id : RuleId) : List UInt8 := (digitsIn 256 16 id.number).map UInt8.ofNat

variable {other : RuleId}

theorem ofNat_order {m n : Nat} (hm : m < 256) (hn : n < 256) :
    (UInt8.ofNat m < UInt8.ofNat n ↔ m < n) ∧ (UInt8.ofNat m = UInt8.ofNat n ↔ m = n) := by
  refine ⟨UInt8.ofNat_lt_iff_lt hm hn, fun h => ?_, congrArg UInt8.ofNat⟩
  have hback := congrArg UInt8.toNat h
  rwa [UInt8.toNat_ofNat', UInt8.toNat_ofNat', Nat.mod_eq_of_lt hm, Nat.mod_eq_of_lt hn] at hback

theorem bytes_lt_iff : id.bytes < other.bytes ↔ id < other := by
  have hbound : ∀ {n}, ∀ d ∈ digitsIn 256 16 n, d < 256 := lt_of_mem_digitsIn (by decide)
  have hsize : Nat.pow 2 128 = 256 ^ 16 := by decide
  rw [bytes, bytes, map_lt_map_iff fun m hm n hn => ofNat_order (hbound m hm) (hbound n hn)]
  exact digitsIn_lt_iff (by decide) (hsize ▸ id.lt) (hsize ▸ other.lt)

theorem digits_lt_iff : id.digits < other.digits ↔ id < other := by
  have horder : ∀ m < 16, ∀ n < 16,
      (Nat.digitChar m < Nat.digitChar n ↔ m < n) ∧ (Nat.digitChar m = Nat.digitChar n ↔ m = n) := by
    decide
  have hsize : Nat.pow 2 128 = 16 ^ 32 := by decide
  have hmap : id.digits < other.digits ↔ id.nibbles < other.nibbles :=
    map_lt_map_iff fun m hm n hn => horder m (id.nibbles_lt m hm) n (other.nibbles_lt n hn)
  rw [hmap, nibbles, nibbles, hexDigits_eq_digitsIn, hexDigits_eq_digitsIn]
  exact digitsIn_lt_iff (by decide) (hsize ▸ id.lt) (hsize ▸ other.lt)

/-- Characters of one byte each are encoded by their numbers. -/
theorem encode_eq_map (h : ∀ c ∈ cs, c.utf8Size = 1) :
    Text.Utf8.encode cs = cs.map fun c => c.val.toUInt8 := by
  induction cs with
  | nil => rfl
  | cons c cs ih =>
    obtain ⟨hc, hcs⟩ := List.forall_mem_cons.1 h
    rw [Text.Utf8.encode, List.flatMap_cons, String.utf8EncodeChar_eq_singleton hc]
    exact congrArg (_ :: ·) (ih hcs)

/-- Characters of one byte each are in the order of those bytes. -/
theorem encode_lt_encode_iff (hcs : ∀ c ∈ cs, c.utf8Size = 1) (hds : ∀ c ∈ ds, c.utf8Size = 1) :
    Text.Utf8.encode cs < Text.Utf8.encode ds ↔ cs < ds := by
  have hbyte : ∀ {c : Char}, c.utf8Size = 1 → c.val.toUInt8.toNat = c.val.toNat := fun {c} hc => by
    have hle : c.val.toNat ≤ 127 := Char.utf8Size_eq_one_iff.1 hc
    rw [UInt32.toNat_toUInt8]
    exact Nat.mod_eq_of_lt (Nat.lt_of_le_of_lt hle (by decide))
  rw [encode_eq_map hcs, encode_eq_map hds]
  refine map_lt_map_iff fun c hc d hd => ⟨?_, ?_⟩
  · rw [UInt8.lt_iff_toNat_lt, hbyte (hcs c hc), hbyte (hds d hd)]
    rfl
  · rw [← UInt8.toNat_inj, hbyte (hcs c hc), hbyte (hds d hd), UInt32.toNat_inj, Char.val_inj]

theorem encode_text_lt_iff :
    Text.Utf8.encode id.text.toList < Text.Utf8.encode other.text.toList ↔ id < other := by
  have hone : ∀ id : RuleId, ∀ c ∈ grouped id.digits, c.utf8Size = 1 := fun id =>
    forall_mem_grouped_digits (by decide) (by decide)
  rw [toList_text, toList_text, encode_lt_encode_iff (hone id) (hone other),
    grouped_lt_grouped_iff id.digits_length other.digits_length, digits_lt_iff]

/-! ## Texts and identifiers -/

theorem length_text (id : RuleId) : id.text.length = 36 := by
  rw [← String.length_toList, toList_text, length_grouped id.digits_length]

/-- **An identifier is what its texts say, and has the place among others that its text has.** With
any blanks around it, each way of writing the identifier is read as it: the text, the text in upper
case, in braces, behind `urn:uuid:` and without hyphens. Whatever a reference is accepted as has a
text of 36 hyphens and lower-case digits, and this text is accepted as the same. And identifiers are
ordered as their texts are, byte by byte. -/
theorem spelled_and_ordered (id : RuleId) :
    (∀ front back : String, Text.allBlank front = true → Text.allBlank back = true →
      ∀ t ∈ id.spellings, ofReference (front ++ t ++ back) = .ok id) ∧
    (∀ s, ofReference s = .ok id → id.text.length = 36 ∧
      (∀ c ∈ id.text.toList, c ∈ "-0123456789abcdef".toList) ∧ ofReference id.text = .ok id) ∧
    ∀ other : RuleId, (id < other ↔ id.bytes < other.bytes) ∧
      (id < other ↔
        Text.Utf8.encode id.text.toList < Text.Utf8.encode other.text.toList) := by
  have hread : ∀ front back : String, Text.allBlank front = true → Text.allBlank back = true →
      ∀ t ∈ id.spellings, ofReference (front ++ t ++ back) = .ok id := by
    intro front back hfront hback t ht
    have hspells := spells_of_mem_spellings ht
    rw [ofReference_eq_ok_iff, String.toList_append, String.toList_append,
      Text.trimList_surrounded ((Rule.Submission.not_says_iff _).2 hfront)
        ((Rule.Submission.not_says_iff _).2 hback),
      Text.trimList_of_forall hspells.isBlank_eq_false]
    exact hspells
  refine ⟨hread, fun _ _ => ⟨id.length_text, ?_, ?_⟩, fun other =>
    ⟨bytes_lt_iff.symm, encode_text_lt_iff.symm⟩⟩
  · rw [toList_text]
    exact forall_mem_grouped_digits (by decide) (by decide)
  · simpa using hread "" "" rfl rfl id.text List.mem_cons_self

def ascending : RuleId := ofNat 0x0123456789abcdef0000000000000000

theorem spelled_and_ordered_ascending :
    (Text.allBlank " \u00a0" = true ∧ Text.allBlank "\n" = true ∧
      ofReference (" \u00a0" ++ "\x7b01234567-89ab-cdef-0000-000000000000\x7d" ++ "\n") =
        .ok ascending) ∧
    (ofReference "0123456789ABCDEF0000000000000000" = .ok ascending ∧
      ascending.text.length = 36 ∧
      ofReference "01234567-89ab-cdef-0000-000000000000" = .ok ascending) ∧
    Text.Utf8.encode ascending.text.toList <
      Text.Utf8.encode (ofNat (0x1 + 0x0123456789abcdef0000000000000000)).text.toList := by
  have hbraced : "\x7b01234567-89ab-cdef-0000-000000000000\x7d" ∈ ascending.spellings := by
    decide +kernel
  have htext : ascending.text = "01234567-89ab-cdef-0000-000000000000" := by
    decide +kernel
  have hread : ofReference "0123456789ABCDEF0000000000000000" = .ok ascending := by
    rfl
  obtain ⟨hspelled, haccepted, hordered⟩ := spelled_and_ordered ascending
  obtain ⟨hlength, -, hback⟩ := haccepted _ hread
  refine ⟨⟨by decide, by decide, hspelled _ _ (by decide) (by decide) _ hbraced⟩,
    ⟨hread, hlength, htext ▸ hback⟩, ((hordered _).2).1 ?_⟩
  decide

end PeerRules.RuleId
