import Mathlib.Data.List.TakeWhile
import PeerRules.Proofs.Persistence

/-!
# What trimming leaves

Trimming takes blanks off both ends of a text, however many there are, and never a character that is
not blank. So blanks around a text change nothing, and whatever stands behind a character that is
not blank, that character stays with all that is in front of it.

* `trimList_surrounded`: blanks around a text.
* `trimList_append_mark`: a text that goes on behind a mark.
* `mem_trimList`: what is not blank is kept.
-/
namespace PeerRules.Text

open Rule.Submission

variable {cs front back : List Char} {c mark : Char}

theorem trimList_append_blank (h : ¬ Says back) : trimList (cs ++ back) = trimList cs := by
  have hblank : ∀ c ∈ back, isBlank c = true := List.all_eq_true.1 ((not_says_iff back).1 h)
  unfold trimList
  rw [List.dropWhile_append]
  split
  · next hempty =>
    rw [List.dropWhile_eq_nil_iff.2 hblank, List.isEmpty_iff.1 hempty]
  · rw [List.reverse_append, List.dropWhile_append_of_pos (by simpa using hblank)]

/-- Blanks around a text change nothing. -/
theorem trimList_surrounded (hfront : ¬ Says front) (hback : ¬ Says back) :
    trimList (front ++ cs ++ back) = trimList cs := by
  rw [trimList_append_blank hback, trimList_blank_append front cs ((not_says_iff front).1 hfront)]

theorem beginsWithText_append (h : BeginsWithText cs) (ds : List Char) :
    BeginsWithText (cs ++ ds) := by
  obtain ⟨c, hc, hb⟩ := h
  exact ⟨c, by simp [List.head?_append, hc], hb⟩

/-- Of what stands behind a mark, something is kept from its beginning. -/
theorem trimList_append_mark (hfirst : BeginsWithText (front ++ [mark]))
    (hmark : isBlank mark = false) (behind : List Char) :
    ∃ kept, kept <+: behind ∧ trimList (front ++ mark :: behind) = front ++ mark :: kept := by
  have hbegins : BeginsWithText (front ++ mark :: behind) := by
    rw [List.append_cons]
    exact beginsWithText_append hfirst behind
  refine ⟨(behind.reverse.dropWhile isBlank).reverse, ?_, ?_⟩
  · rw [← List.reverse_suffix, List.reverse_reverse]
    exact List.dropWhile_suffix _
  · rw [trimList, Rule.dropWhile_of_beginsWithText hbegins, List.reverse_append,
      List.reverse_cons, List.append_assoc, List.dropWhile_append]
    split
    · next hempty => simp [List.isEmpty_iff.1 hempty, hmark]
    · simp

/-- A text without blanks is left as it is. -/
theorem trimList_of_forall (h : ∀ c ∈ cs, isBlank c = false) : trimList cs = cs := by
  have hdrop : ∀ ds : List Char, (∀ c ∈ ds, isBlank c = false) → ds.dropWhile isBlank = ds := by
    intro ds hds
    exact List.dropWhile_eq_self_iff.2 fun hl => by simp [hds]
  rw [trimList, hdrop cs h, hdrop cs.reverse fun c hc => h c (List.mem_reverse.1 hc),
    List.reverse_reverse]

/-- What is not blank is kept. -/
theorem mem_trimList (hc : c ∈ cs) (hb : isBlank c = false) : c ∈ trimList cs := by
  obtain ⟨front, back, hcs, hfront, hback, -⟩ := trimList_parts ⟨c, hc, hb⟩
  rw [hcs, List.mem_append, List.mem_append] at hc
  rcases hc with (hc | hc) | hc
  · exact absurd ⟨c, hc, hb⟩ hfront
  · exact hc
  · exact absurd ⟨c, hc, hb⟩ hback

end PeerRules.Text
