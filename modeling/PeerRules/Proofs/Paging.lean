import PeerRules.Proofs.Histories

/-!
# Paging through the audit log

A reader asks for one page after another, each as many entries further on as a page has places, up
to the first page that is empty. While nobody appends an entry or takes one away, such a reader is
told every entry that matches once, and in the order of `NewestFirst`. The store sorts by moment
alone, so the entries of one moment stay as they were handed to the sorting: the last appended
first.

* `filter_mergeSort`: sorting leaves entries that tie in their order.
* `newestFirst_matching`: the order in which a store lists entries.
* `flatMap_windows`: windows side by side make up the list again.
* `reads_of_spared`: what is read while the entries stay as they are.
* `pages_complete`: reading page by page.
-/
namespace PeerRules.Store

open Plan

/-! ## The order of a listing -/

/-- Sorting leaves elements that are all alike for the order as they were. -/
theorem filter_mergeSort {α : Type} {le : α → α → Bool}
    (htrans : ∀ a b c, le a b = true → le b c = true → le a c = true)
    (htotal : ∀ a b, (le a b || le b a) = true) {p : α → Bool}
    (htied : ∀ a b, p a = true → p b = true → le a b = true) (as : List α) :
    (as.mergeSort le).filter p = as.filter p := by
  have hpairwise : (as.filter p).Pairwise fun a b => le a b = true :=
    List.pairwise_of_forall_mem_list fun a ha b hb =>
      htied a b (List.mem_filter.1 ha).2 (List.mem_filter.1 hb).2
  have hkept : (as.filter p).Sublist (as.mergeSort le) :=
    List.sublist_mergeSort htrans htotal hpairwise List.filter_sublist
  have hfiltered : (as.filter p).Sublist ((as.mergeSort le).filter p) := by
    simpa using hkept.filter p
  have hlength := ((List.mergeSort_perm as le).filter p).length_eq
  exact (hfiltered.eq_of_length hlength.symm).symm

def concerns (rule : Option RuleId) (e : Audit.Entry) : Bool := rule.all (e.ruleId = ·)

/-- The entries are listed without loss or repetition, none before a newer one, and those of one
moment with the last appended first. -/
structure NewestFirst (appended listed : List Audit.Entry) : Prop where
  perm : listed.Perm appended
  sorted : listed.Pairwise fun a b => b.triggeredAt ≤ a.triggeredAt
  tied : ∀ moment, listed.filter (·.triggeredAt = moment) =
    (appended.filter (·.triggeredAt = moment)).reverse

/-- The order by which a store sorts entries. -/
def noOlder (a b : Audit.Entry) : Bool := decide (b.triggeredAt ≤ a.triggeredAt)

theorem noOlder_trans (a b c : Audit.Entry) (hab : noOlder a b = true) (hbc : noOlder b c = true) :
    noOlder a c = true := by
  simp only [noOlder, decide_eq_true_eq] at *
  exact Int.le_trans hbc hab

theorem noOlder_total (a b : Audit.Entry) : (noOlder a b || noOlder b a) = true := by
  simp only [noOlder, Bool.or_eq_true, decide_eq_true_eq]
  exact Int.le_total _ _

theorem newestFirst_matching (s : Store) (q : Audit.Query) :
    NewestFirst (s.entries.filter (concerns q.ruleId)) (s.matching q) := by
  have hmatching : s.matching q =
      (s.entries.filter (concerns q.ruleId)).reverse.mergeSort noOlder := by
    rw [← List.filter_reverse]
    rfl
  rw [hmatching]
  refine ⟨?_, ?_, fun moment => ?_⟩
  · exact (List.mergeSort_perm _ _).trans (List.reverse_perm _)
  · refine (List.pairwise_mergeSort noOlder_trans noOlder_total _).imp fun h => ?_
    simpa [noOlder] using h
  · have htied : ∀ a b : Audit.Entry, decide (a.triggeredAt = moment) = true →
        decide (b.triggeredAt = moment) = true → noOlder a b = true := by
      intro a b ha hb
      simp only [decide_eq_true_eq] at ha hb
      simp only [noOlder, ha, hb, decide_eq_true_eq]
      exact Int.le_refl _
    rw [filter_mergeSort noOlder_trans noOlder_total htied, List.filter_reverse]

/-! ## Pages -/

/-- Windows of one size, side by side, make up the list again as far as they go. -/
theorem flatMap_windows {α : Type} (as : List α) (size n : Nat) :
    ((List.range n).flatMap fun k => (as.drop (k * size)).take size) = as.take (n * size) := by
  induction n with
  | zero => simp
  | succ n ih =>
    rw [List.range_succ, List.flatMap_append, ih, Nat.succ_mul, List.take_add]
    simp

theorem length_page (s : Store) (q : Audit.Query) :
    (s.page q).entries.length = min q.limit ((s.page q).total - q.offset) := by
  simp [page]

theorem total_page (s : Store) (q : Audit.Query) :
    (s.page q).total = (s.entries.filter (concerns q.ruleId)).length :=
  (newestFirst_matching s q).perm.length_eq

theorem page_congr {s t : Store} (h : t.entries = s.entries) (q : Audit.Query) :
    t.page q = s.page q := by
  unfold page matching
  rw [h]

/-- The places of a page, when a size is asked for, or none. -/
def places : Option Nat → Nat
  | none => 50
  | some 0 => 1
  | some size => if 500 < size then 500 else size

theorem places_of_bounds {size : Nat} (hpos : 1 ≤ size) (hmax : size ≤ 500) :
    places (some size) = size := by
  unfold places
  split <;> grind

theorem limit_eq_places (q : Audit.Query) : q.limit = places q.pageSize := by
  unfold Audit.Query.limit places
  simp only [Audit.Query.defaultLimit, Audit.Query.maxLimit]
  split <;> grind

theorem page_places (s : Store) (rule : Option RuleId) (size skip : Option Nat) :
    s.page ⟨rule, some (places size), skip⟩ = s.page ⟨rule, size, skip⟩ := by
  have hlimit := limit_eq_places ⟨rule, size, skip⟩
  have hbounds : places (some (places size)) = places size := by
    rw [← hlimit]
    exact places_of_bounds (Audit.Query.limit_pos _) (Audit.Query.limit_le _)
  unfold page
  rw [limit_eq_places, limit_eq_places, hbounds]
  rfl

def pageBehind (s : Store) (rule : Option RuleId) (size k : Nat) : Audit.Page :=
  s.page ⟨rule, some size, some (k * size)⟩

/-- The pages up to an empty one, put together, are all that the store lists. -/
theorem flatMap_pages {s : Store} {rule : Option RuleId} {size n : Nat} (hpos : 1 ≤ size)
    (hmax : size ≤ 500) (hlast : (s.pageBehind rule size n).entries = []) :
    ((List.range n).flatMap fun k => (s.pageBehind rule size k).entries) =
      s.matching ⟨rule, none, none⟩ := by
  have hwindow : ∀ k, (s.pageBehind rule size k).entries =
      ((s.matching ⟨rule, none, none⟩).drop (k * size)).take size := by
    intro k
    rw [pageBehind, page, limit_eq_places, places_of_bounds hpos hmax]
    rfl
  simp only [hwindow] at hlast ⊢
  rw [flatMap_windows]
  refine List.take_of_length_le ?_
  have hnone : min size ((s.matching ⟨rule, none, none⟩).length - n * size) = 0 := by
    rw [← List.length_drop, ← List.length_take, hlast, List.length_nil]
  omega

/-! ## Reading while the entries stay -/

/-- The deed appends no entry, and takes none of these away. -/
def Deed.Spares (entries : List Audit.Entry) (d : Deed) : Prop :=
  d.entry? = none ∧ ∀ e ∈ entries, d.deletes e.ruleId = false

theorem Does.entries_eq {s t : Store} {d : Deed} (h : Does s d t) (hd : d.Spares s.entries) :
    t.entries = s.entries := by
  obtain ⟨hnone, hkept⟩ := hd
  rw [h.logged, hnone, Option.toList_none, List.append_nil, List.filter_eq_self]
  intro e he
  simp [hkept e he]

/-- While the entries stay as they are, every page is the one that the store had at first. -/
theorem reads_of_spared {s t : Store} {fs : List (Exchange Call.signature)}
    (h : party.Serves s fs t) (hquiet : ∀ d ∈ deeds fs, d.Spares s.entries) {q : Audit.Query}
    {reply : Except Fault Audit.Page} (hq : ⟨.listEntries q, reply⟩ ∈ fs) :
    reply = .ok (s.page q) := by
  induction h with
  | nil s => cases hq
  | @cons s m t c r fs ha _ ih =>
    have hm : m.entries = s.entries := by
      rcases Answers.cases_deed ha with ⟨-, rfl⟩ | ⟨d, hsome, hdoes⟩
      · rfl
      · exact hdoes.entries_eq (hquiet d (by simp [deeds, hsome]))
    have hrest : ∀ d ∈ deeds fs, d.Spares m.entries := by
      intro d hd
      rw [hm]
      refine hquiet d ?_
      obtain ⟨e, he, hsome⟩ := List.mem_filterMap.1 hd
      exact List.mem_filterMap.2 ⟨e, List.mem_cons_of_mem _ he, hsome⟩
    rcases List.mem_cons.1 hq with heq | hq
    · cases heq
      exact ha.1
    · rw [ih hrest hq, page_congr hm]

/-- A reader's calls for one page after another, with the pages that are the replies. -/
def reading (rule : Option RuleId) (size : Nat) (pages : List Audit.Page) :
    List (Exchange Call.signature) :=
  pages.mapIdx fun k page => ⟨.listEntries ⟨rule, some size, some (k * size)⟩, .ok page⟩

theorem mem_reading {rule : Option RuleId} {size k : Nat} {pages : List Audit.Page}
    (hk : k < pages.length) :
    (⟨.listEntries ⟨rule, some size, some (k * size)⟩, .ok pages[k]⟩ : Exchange Call.signature) ∈
      reading rule size pages :=
  List.mem_mapIdx.2 ⟨k, hk, rfl⟩

/-- The entries that were appended about a rule, or about any rule, without those that went with
the rule they were about. -/
def surviving (rule : Option RuleId) (es : List (Exchange Call.signature)) : List Audit.Entry :=
  (standing (fun e => e.ruleId) Deed.entry? (deeds es)).filter (concerns rule)

/-- **Paging loses and repeats nothing.** While no entry is appended or taken away, the pages of a
size, one after another up to an empty one, are together the entries that match, the newest first.
Every page tells how many these are in all, and is as long as its size and what is left behind its
offset allow; without a size, or with one that is too small or too large, it is a page of 50, 1 or
500 places. -/
theorem pages_complete {s t : Store} {es fs : List (Exchange Call.signature)}
    (h : party.Serves empty es s) (hreads : party.Serves s fs t)
    (hquiet : ∀ d ∈ deeds fs, d.Spares s.entries) (rule : Option RuleId) :
    (∀ size pages last, 1 ≤ size → size ≤ 500 → (reading rule size (pages ++ [last])).Sublist fs →
      last.entries = [] → NewestFirst (surviving rule es) (pages.flatMap (·.entries))) ∧
    ∀ size skip reply, ⟨.listEntries ⟨rule, size, skip⟩, reply⟩ ∈ fs →
      s.Answers (.listEntries ⟨rule, some (places size), skip⟩) reply s ∧
      ∃ page, reply = .ok page ∧ page.total = (surviving rule es).length ∧
        page.entries.length = min (places size) (page.total - skip.getD 0) := by
  have hentries : surviving rule es = s.entries.filter (concerns rule) :=
    congrArg (List.filter (concerns rule)) (ledger_empty.serves h).logged.symm
  rw [hentries]
  refine ⟨fun size pages last hpos hmax hsub hlast => ?_, fun size skip reply hmem => ?_⟩
  · have hread : ∀ k (hk : k < (pages ++ [last]).length),
        (pages ++ [last])[k] = s.pageBehind rule size k := fun k hk =>
      Except.ok.inj (reads_of_spared hreads hquiet (hsub.subset (mem_reading hk)))
    have hend : last = s.pageBehind rule size pages.length := by
      simpa using hread pages.length (by simp)
    have hpages : pages = (List.range pages.length).map (s.pageBehind rule size) := by
      refine List.ext_getElem (by simp) fun k hk _ => ?_
      have hk' := hread k (by rw [List.length_append]; omega)
      rw [List.getElem_append_left hk] at hk'
      simpa using hk'
    rw [hpages, List.flatMap_map, flatMap_pages hpos hmax (hend ▸ hlast)]
    exact newestFirst_matching s ⟨rule, none, none⟩
  · have hreply := reads_of_spared hreads hquiet hmem
    refine ⟨⟨?_, rfl⟩, s.page ⟨rule, size, skip⟩, hreply, total_page s _, ?_⟩
    · rw [hreply, page_places]
    · rw [length_page, limit_eq_places]
      rfl

/-! ## Three pages -/

def stamped (n : Nat) (moment : Int) (serial : Nat) : Audit.Entry where
  toNewEntry := { entryAbout n with triggeredAt := ⟨moment⟩ }
  entryId := .ofNat serial

theorem noOlder_stamped (n m serial number : Nat) (a b : Int) :
    noOlder (stamped n a serial) (stamped m b number) = decide (b ≤ a) := rfl

def appending (e : Audit.Entry) : Exchange Call.signature := ⟨.append e.toNewEntry, .ok e⟩

/-- Two rules, and four entries: the newest was not appended last, and two are of one moment. -/
def fourAppended : List (Exchange Call.signature) :=
  [⟨.insertRule (numbered 1), .ok ((numbered 1).stamped ⟨1⟩ ⟨1⟩)⟩,
    ⟨.insertRule (numbered 2), .ok ((numbered 2).stamped ⟨2⟩ ⟨2⟩)⟩,
    appending (stamped 1 5 11), appending (stamped 2 9 12), appending (stamped 1 7 13),
    appending (stamped 1 5 14)]

def holdingFour : Store where
  rules := [(numbered 1).stamped ⟨1⟩ ⟨1⟩, (numbered 2).stamped ⟨2⟩ ⟨2⟩]
  entries := [stamped 1 5 11, stamped 2 9 12, stamped 1 7 13, stamped 1 5 14]

theorem matching_holdingFour (size skip : Option Nat) :
    holdingFour.matching ⟨some (.ofNat 1), size, skip⟩ =
      [stamped 1 7 13, stamped 1 5 14, stamped 1 5 11] := by
  have hasked : holdingFour.matching ⟨some (.ofNat 1), size, skip⟩ =
      [stamped 1 5 14, stamped 1 7 13, stamped 1 5 11].mergeSort noOlder := rfl
  rw [hasked]
  simp [List.mergeSort, List.MergeSort.Internal.splitInTwo, noOlder_stamped]

/-- The two pages of two places about the first rule that are not empty. -/
def twoPages : List Audit.Page :=
  [⟨[stamped 1 7 13, stamped 1 5 14], 3⟩, ⟨[stamped 1 5 11], 3⟩]

/-- They are read, up to an empty one, while the first rule is updated. -/
def readThrough : List (Exchange Call.signature) :=
  [⟨.listEntries ⟨some (.ofNat 1), some 2, some 0⟩, .ok ⟨[stamped 1 7 13, stamped 1 5 14], 3⟩⟩,
    ⟨.updateRule (numbered 1), .ok ((numbered 1).stamped ⟨1⟩ ⟨3⟩)⟩,
    ⟨.listEntries ⟨some (.ofNat 1), some 2, some 2⟩, .ok ⟨[stamped 1 5 11], 3⟩⟩,
    ⟨.listEntries ⟨some (.ofNat 1), some 2, some 4⟩, .ok ⟨[], 3⟩⟩]

theorem pages_complete_readThrough :
    ∃ t, party.Serves empty fourAppended holdingFour ∧ party.Serves holdingFour readThrough t ∧
      (∀ d ∈ deeds readThrough, d.Spares holdingFour.entries) ∧
      (reading (some (.ofNat 1)) 2 (twoPages ++ [⟨[], 3⟩])).Sublist readThrough ∧
      NewestFirst (surviving (some (.ofNat 1)) fourAppended)
        [stamped 1 7 13, stamped 1 5 14, stamped 1 5 11] ∧
      (surviving (some (.ofNat 1)) fourAppended).length = 3 := by
  have happended : party.Serves empty fourAppended holdingFour :=
    .cons ⟨⟨1⟩, rfl⟩ (.cons ⟨⟨2⟩, rfl⟩ (.cons ⟨.ofNat 11, rfl⟩ (.cons ⟨.ofNat 12, rfl⟩
      (.cons ⟨.ofNat 13, rfl⟩ (.cons ⟨.ofNat 14, rfl⟩ (.nil _))))))
  have hpage : ∀ (t : Store) (skip : Option Nat), t.entries = holdingFour.entries →
      t.page ⟨some (.ofNat 1), some 2, skip⟩ =
        ⟨([stamped 1 7 13, stamped 1 5 14, stamped 1 5 11].drop (skip.getD 0)).take 2, 3⟩ := by
    intro t skip ht
    rw [page_congr ht, page, matching_holdingFour]
    rfl
  obtain ⟨t, hread⟩ : ∃ t, party.Serves holdingFour readThrough t :=
    ⟨_, .cons ⟨congrArg Except.ok (hpage _ (some 0) rfl).symm, rfl⟩ (.cons ⟨⟨3⟩, rfl⟩
      (.cons ⟨congrArg Except.ok (hpage _ (some 2) rfl).symm, rfl⟩
        (.cons ⟨congrArg Except.ok (hpage _ (some 4) rfl).symm, rfl⟩ (.nil _))))⟩
  have hquiet : ∀ d ∈ deeds readThrough, d.Spares holdingFour.entries := by
    intro d hd
    obtain rfl : .updated ((numbered 1).stamped ⟨1⟩ ⟨3⟩) = d := by
      simpa [deeds, readThrough, deed?] using hd
    exact ⟨rfl, fun _ _ => rfl⟩
  have hsub : (reading (some (.ofNat 1)) 2 (twoPages ++ [⟨[], 3⟩])).Sublist readThrough :=
    .cons_cons _ (.cons _ (.refl _))
  obtain ⟨hpages, hsizes⟩ := pages_complete happended hread hquiet (some (.ofNat 1))
  obtain ⟨-, page, hreply, htotal, -⟩ :=
    hsizes (some 2) (some 4) (.ok ⟨[], 3⟩) (by simp [readThrough])
  obtain rfl := Except.ok.inj hreply
  exact ⟨t, happended, hread, hquiet, hsub, hpages 2 twoPages _ (by decide) (by decide) hsub rfl,
    htotal.symm⟩

end PeerRules.Store
