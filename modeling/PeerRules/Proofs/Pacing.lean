import PeerRules.Proofs.Dismissal

/-!
# The pace of a job

A job begins its ticks when its timer is due, one after another. However long a tick takes, the next
one waits for its end, and then for a deadline that the timer has not had yet. So the ticks of a job
are never early, and those that were missed are not made up for.

* `Timer.Beyond.fire`, `Timer.Beyond.fire_late`: a deadline that is noticed moves the timer on.
* `Paced.begins`: no tick of a job is early.
* `exists_finish`: between two ticks of a job there is the end of the first.
* `Paced.two_ticks`: the second of two ticks leaves out what the first has missed.
* `paced`: when a job begins its ticks, how many by when, and what becomes of those it missed.
-/
namespace PeerRules

namespace Timer

variable {made p k m now : Nat} {t : Timer}

/-- The timer keeps the rhythm that began when it was made, and skips what it missed; its deadline
lies behind the first `k` of that rhythm. -/
structure Beyond (made p k : Nat) (t : Timer) : Prop where
  policy : t.policy = .skip
  period : t.period = p
  deadline : ∃ m, k < m ∧ t.deadline = made + m * p

theorem Beyond.le (h : Beyond made p k t) : made + (k + 1) * p ≤ t.deadline := by
  obtain ⟨m, hm, hd⟩ := h.deadline
  rw [hd]
  exact Nat.add_le_add_left (Nat.mul_le_mul_right _ hm) _

/-- A deadline that is noticed lies behind the next one. -/
theorem Beyond.fire (h : Beyond made p k t) (hp : 0 < p) (hdue : t.deadline ≤ now) :
    Beyond made p (k + 1) (t.fire now) := by
  obtain ⟨m, hm, hd⟩ := h.deadline
  obtain ⟨i, hi, hf⟩ := fire_skip_grid h.policy hdue (h.period ▸ hp)
  refine ⟨by rw [policy_fire, h.policy], by rw [period_fire, h.period], m + i, by omega, ?_⟩
  rw [hf, hd, h.period, Nat.add_mul, Nat.add_assoc]

theorem now_lt_fire_add_grace (hp : 0 < t.period) (hs : t.policy = .skip) :
    now < (t.fire now).deadline + graceMs := by
  by_cases hlate : t.deadline + graceMs < now
  · exact Nat.lt_add_right _ (now_lt_fire_skip hp hs hlate)
  · have hf : (t.fire now).deadline = t.deadline + t.period := by
      rw [Timer.fire, if_pos (Nat.le_of_not_lt hlate)]
    omega

/-- What was missed by more than a moment lies behind, too. -/
theorem Beyond.fire_late (h : Beyond made p k t) (hp : 0 < p) (hdue : t.deadline ≤ now)
    (hlate : made + m * p + graceMs < now) : Beyond made p m (t.fire now) := by
  obtain ⟨hpolicy, hperiod, i, -, hd⟩ := h.fire hp hdue
  have hnext : now < (t.fire now).deadline + graceMs :=
    now_lt_fire_add_grace (h.period ▸ hp) h.policy
  have hlt : m * p < i * p := by omega
  exact ⟨hpolicy, hperiod, i, Nat.lt_of_mul_lt_mul_right hlt, hd⟩

/-- A timer that falls due as soon as it is made is, once that was noticed, a timer that starts with
a whole period, perhaps a little later. -/
theorem exists_start_of_first (hp : 0 < p) (hdue : made ≤ now) :
    ∃ later, made ≤ later ∧ (Timer.mk .skip p made).fire now = .start .skip p later ∧
      Beyond made p 0 (.start .skip p later) := by
  obtain ⟨i, hi, hf⟩ := fire_skip_grid (t := ⟨.skip, p, made⟩) rfl hdue hp
  have hd : made + (i - 1) * p + p = made + i * p := by
    rw [Nat.add_assoc, ← Nat.succ_mul, Nat.succ_eq_add_one, Nat.sub_add_cancel hi]
  refine ⟨made + (i - 1) * p, Nat.le_add_right _ _, ?_, rfl, rfl, i, hi, hd⟩
  rw [fire_eq, hf, Timer.start, hd]

end Timer

namespace Scheduler

variable {T : Type} {t : T} {s u v : Scheduler T} {m : Move} {ms : List Move} {n k made p : Nat}

/-- When a move begins a tick of a job. -/
def Move.begins? (n : Nat) : Move → Option Nat
  | .begin serial now => if serial = n then some now else none
  | _ => none

def begins (n : Nat) (ms : List Move) : List Nat := ms.filterMap (Move.begins? n)

theorem begins?_eq_some_iff {b : Nat} : m.begins? n = some b ↔ m = .begin n b := by
  cases m with
  | «begin» serial now =>
    by_cases hn : serial = n <;> simp [Move.begins?, hn]
  | start | stop | finish | quit => simp [Move.begins?]

/-! ## One job -/

/-- A job that was started, and what is known of it while it has not ended. -/
def Has (n : Nat) (known : Job T → Prop) (s : Scheduler T) : Prop :=
  n < s.started ∧ ∀ j, s.job? n = some j → known j

/-- A job begins a tick when its timer is due and it is inside none. -/
theorem Has.begin {known : Job T → Prop} {now : Nat} (h : Has n known s)
    (hm : s.move? t (.begin n now) = some u) :
    ∃ j, known j ∧ j.inTick = none ∧ j.timer.deadline ≤ now ∧
      Has n (· = { j with timer := j.timer.fire now, inTick := some t }) u := by
  obtain ⟨hn, hc⟩ := change_of_move hm h.1
  have hj := h.2
  unfold Has
  generalize s.job? n = b at hc hj
  generalize u.job? n = b' at hc
  cases hc with
  | same hne => exact absurd rfl (hne now)
  | told hd => cases hd
  | @began j _ hidle hdue =>
    refine ⟨j, hj j rfl, hidle, by simpa [Timer.isDue] using hdue, hn, fun i hi => ?_⟩
    exact (Option.some.inj hi).symm

/-- What is known of a job stays known, unless it begins a tick. -/
theorem Has.move {known : Job T → Prop} (h : Has n known s) (hm : s.move? t m = some u)
    (hq : m.begins? n = none) (htold : ∀ j, known j → known { j with told := true })
    (hfinish : ∀ j tick, m = .finish n tick → known j → known { j with inTick := none }) :
    Has n known u := by
  obtain ⟨hn, hc⟩ := change_of_move hm h.1
  have hj := h.2
  refine ⟨hn, ?_⟩
  generalize s.job? n = b at hc hj
  generalize u.job? n = b' at hc
  cases hc with
  | same => exact hj
  | @told j =>
    intro i hi
    cases hi
    exact htold j (hj j rfl)
  | began => simp [Move.begins?] at hq
  | @finished j tick =>
    intro i hi
    cases hi
    exact hfinish j tick rfl (hj j rfl)
  | ended => nofun

/-- The job's timer keeps the rhythm, with the first `k` deadlines behind. -/
abbrev Paced (made p k n : Nat) (s : Scheduler T) : Prop :=
  Has n (fun j => j.timer.Beyond made p k) s

/-- A tick that begins is not early, and has its deadline behind; nothing else moves the timer. -/
theorem Paced.move (h : Paced made p k n s) (hp : 0 < p) (hm : s.move? t m = some u) :
    (m.begins? n = none ∧ Paced made p k n u) ∨ ∃ b, m = .begin n b ∧
      made + (k + 1) * p ≤ b ∧ Paced made p (k + 1) n u := by
  cases hb : m.begins? n with
  | none => exact .inl ⟨rfl, Has.move h hm hb (fun _ hj => hj) fun _ _ _ hj => hj⟩
  | some b =>
    obtain rfl := begins?_eq_some_iff.1 hb
    obtain ⟨j, hj, -, hdue, hn, hu⟩ := h.begin hm
    refine .inr ⟨b, rfl, Nat.le_trans hj.le hdue, hn, fun i hi => ?_⟩
    rw [hu i hi]
    exact hj.fire hp hdue

/-- **No tick is early.** Whatever else happens, the ticks that a job begins come one after another,
a period apart at least. -/
theorem Paced.begins (h : Paced made p k n s) (hp : 0 < p) (hv : s.after? t ms = some v) :
    Paced made p (k + (begins n ms).length) n v ∧
      ∀ i b, (Scheduler.begins n ms)[i]? = some b → made + (k + i + 1) * p ≤ b := by
  -- over the moves: each that begins a tick leaves one more deadline behind
  induction ms generalizing s k with
  | nil =>
    cases hv
    exact ⟨h, nofun⟩
  | cons m ms ih =>
    obtain ⟨u, hm, hrest⟩ := Option.bind_eq_some_iff.1 hv
    rcases h.move hp hm with ⟨hb, hu⟩ | ⟨b, rfl, hle, hu⟩
    · rw [Scheduler.begins, List.filterMap_cons_none hb]
      exact ih hu hrest
    · obtain ⟨hafter, hlater⟩ := ih hu hrest
      have hcons : Scheduler.begins n (.begin n b :: ms) = b :: Scheduler.begins n ms :=
        List.filterMap_cons_some (begins?_eq_some_iff.2 rfl)
      rw [hcons, List.length_cons]
      refine ⟨by rwa [Nat.add_assoc, Nat.add_comm 1] at hafter, fun i b' hi => ?_⟩
      cases i with
      | zero =>
        cases hi
        exact hle
      | succ i =>
        have hle' := hlater i b' hi
        rwa [Nat.add_assoc k 1, Nat.add_comm 1] at hle'

/-- **Ticks of a job do not overlap.** A job that is inside a tick begins another only when that has
ended. -/
theorem exists_finish {between after : List Move} {b : Nat}
    (h : Has n (fun j => j.inTick.isSome) s)
    (hv : s.after? t (between ++ .begin n b :: after) = some v) :
    ∃ tick, .finish n tick ∈ between := by
  have hnone : ∀ {s u : Scheduler T} {b : Nat}, Has n (fun j => j.inTick.isSome) s →
      s.move? t (.begin n b) ≠ some u := by
    intro s u b h hm
    obtain ⟨j, hj, hidle, -⟩ := h.begin hm
    rw [hidle] at hj
    cases hj
  induction between generalizing s with
  | nil =>
    obtain ⟨u, hm, -⟩ := Option.bind_eq_some_iff.1 hv
    exact absurd hm (hnone h)
  | cons m between ih =>
    obtain ⟨u, hm, hv⟩ := Option.bind_eq_some_iff.1 hv
    by_cases hfinish : ∃ tick, m = .finish n tick
    · obtain ⟨tick, rfl⟩ := hfinish
      exact ⟨tick, List.mem_cons_self⟩
    · cases hb : m.begins? n with
      | some b =>
        obtain rfl := begins?_eq_some_iff.1 hb
        exact absurd hm (hnone h)
      | none =>
        have hu : Has n (fun j => j.inTick.isSome) u :=
          h.move hm hb (fun _ hj => hj) fun _ tick he _ => absurd ⟨tick, he⟩ hfinish
        obtain ⟨tick, htick⟩ := ih hu hv
        exact ⟨tick, List.mem_cons_of_mem _ htick⟩

/-- **Missed ticks are dropped.** Of two ticks of a job, the second begins when the first has ended,
and not before the deadline behind all those that the first missed by more than a moment. -/
theorem Paced.two_ticks {between after : List Move} {b b' : Nat} (h : Paced made p k n s)
    (hp : 0 < p)
    (hv : s.after? t (.begin n b :: (between ++ .begin n b' :: after)) = some v) :
    (∃ tick, .finish n tick ∈ between) ∧
      ∀ m, made + m * p + Timer.graceMs < b → made + (m + 1) * p ≤ b' := by
  obtain ⟨u, hu, hrest⟩ := Option.bind_eq_some_iff.1 hv
  obtain ⟨j, hj, -, hdue, hn, hown⟩ := h.begin hu
  refine ⟨exists_finish ⟨hn, fun i hi => ?_⟩ hrest, fun m hm => ?_⟩
  · rw [hown i hi]
    rfl
  · -- the first `m` deadlines lie behind, though not all of them had a tick
    have hlate : Paced made p m n u := by
      refine ⟨hn, fun i hi => ?_⟩
      rw [hown i hi]
      exact hj.fire_late hp hdue hm
    have hmem : b' ∈ Scheduler.begins n (between ++ .begin n b' :: after) :=
      List.mem_filterMap.2 ⟨_, List.mem_append_right _ List.mem_cons_self,
        begins?_eq_some_iff.2 rfl⟩
    obtain ⟨i, hi⟩ := List.getElem?_of_mem hmem
    have hle := (hlate.begins hp hrest).2 i b' hi
    have hmul : (m + 1) * p ≤ (m + i + 1) * p := Nat.mul_le_mul_right _ (by omega)
    omega

/-! ## A job from its start on -/

theorem Kept.after? (h : Kept s) (hs : s.after? t ms = some u) : Kept u := by
  induction ms generalizing s with
  | nil =>
    cases hs
    exact h
  | cons m ms ih =>
    obtain ⟨v, hm, hrest⟩ := Option.bind_eq_some_iff.1 hs
    exact ih (h.move hm) hrest

theorem exists_start (hp : 0 < p) (s : Scheduler T) (now : Nat) :
    ∃ u events, s.start now p = .ok (u, events) := by
  simp [start, Nat.ne_of_gt hp]

/-- The job that a start makes. -/
theorem job?_new {now : Nat} {events : List Log.Event} (h : Kept s)
    (hs : s.start now p = .ok (u, events)) : s.started < u.started ∧
      u.job? s.started = some ⟨s.started, .start .skip p now, false, none⟩ := by
  obtain ⟨hstarted, -, hjobs⟩ := job?_start hs
  have hnone : s.dismiss.job? s.started = none := by
    rw [job?_dismiss, h.fresh _ (Nat.le_refl _)]
    split <;> rfl
  have hnew := hjobs s.started
  rw [hnone, if_pos rfl] at hnew
  exact ⟨by omega, hnew⟩

/-- Of moments that come a period apart at least, there are no more than periods. -/
theorem length_filter_le_div {bs : List Nat} {called limit : Nat} (hp : 0 < p)
    (h : ∀ i b, bs[i]? = some b → called + (i + 1) * p ≤ b) :
    (bs.filter (· ≤ limit)).length ≤ (limit - called) / p := by
  have hlt : limit - called < ((limit - called) / p + 1) * p :=
    (Nat.div_lt_iff_lt_mul hp).1 (Nat.lt_succ_self _)
  generalize (limit - called) / p = q at hlt ⊢
  have hlate : (bs.drop q).filter (· ≤ limit) = [] := by
    refine List.filter_eq_nil_iff.2 fun b hb => ?_
    obtain ⟨i, hi⟩ := List.getElem?_of_mem hb
    rw [List.getElem?_drop] at hi
    have hle := h _ _ hi
    have hmul : (q + 1) * p ≤ (q + i + 1) * p := Nat.mul_le_mul_right _ (by omega)
    simp only [decide_eq_true_eq]
    omega
  calc (bs.filter (· ≤ limit)).length
      = ((bs.take q).filter (· ≤ limit) ++ (bs.drop q).filter (· ≤ limit)).length := by
        rw [← List.filter_append, List.take_append_drop]
    _ = ((bs.take q).filter (· ≤ limit)).length := by rw [hlate, List.append_nil]
    _ ≤ (bs.take q).length := List.length_filter_le _ _
    _ ≤ q := List.length_take_le _ _

/-- **The pace of a job.** A start is called; the job's timer is made then or later, falls due at
once, and that is noticed then or later and makes no tick. From there on, whatever moves are made
and however long ticks take, the first tick does not begin before one interval has passed since the
call, the next not before two, and so on, so by any time the job has begun no more ticks than
intervals have passed. Between two of its ticks there is the end of the first. A deadline that was
missed by more than a moment when a tick begins has no tick of its own later on: the next waits for
the deadline behind it. -/
theorem paced {ls : List Move} {called looked : Nat} (hp : 0 < p)
    (hs : idle.after? t ls = some s) (hmade : called ≤ made) (hlooked : made ≤ looked) :
    ∃ now u events, made ≤ now ∧ (Timer.mk .skip p made).fire looked = .start .skip p now ∧
      s.start now p = .ok (u, events) ∧ u.current = some ⟨s.started, p⟩ ∧
      ∀ ms v, u.after? t ms = some v →
        (∀ k b, (begins s.started ms)[k]? = some b → called + (k + 1) * p ≤ b) ∧
        (∀ limit, ((begins s.started ms).filter (· ≤ limit)).length ≤ (limit - called) / p) ∧
        ∀ before between after b b',
          ms = before ++ .begin s.started b :: (between ++ .begin s.started b' :: after) →
          (∃ tick, .finish s.started tick ∈ between) ∧
          ∀ m, made + m * p + Timer.graceMs < b → made + (m + 1) * p ≤ b' := by
  obtain ⟨now, hnow, hfire, hbeyond⟩ := Timer.exists_start_of_first hp hlooked
  obtain ⟨u, events, hstart⟩ := exists_start hp s now
  obtain ⟨hlt, hjob⟩ := job?_new (kept_idle.after? hs) hstart
  have hpaced : Paced made p 0 s.started u := by
    refine ⟨hlt, fun j hj => ?_⟩
    obtain rfl := Option.some.inj (hjob.symm.trans hj)
    exact hbeyond
  refine ⟨now, u, events, hnow, hfire, hstart, (job?_start hstart).2.1, fun ms v hv => ?_⟩
  have hbegins : ∀ k b, (begins s.started ms)[k]? = some b → called + (k + 1) * p ≤ b := by
    intro k b hb
    have hle := (hpaced.begins hp hv).2 k b hb
    rw [Nat.zero_add] at hle
    exact Nat.le_trans (Nat.add_le_add_right hmade _) hle
  refine ⟨hbegins, fun _ => length_filter_le_div hp hbegins, ?_⟩
  rintro before between after b b' rfl
  rw [after?_append] at hv
  obtain ⟨x, hx, hv⟩ := Option.bind_eq_some_iff.1 hv
  exact (hpaced.begins hp hx).1.two_ticks hp hv

/-! ### A tick that takes too long -/

/-- A timer of 10 is made at 1 and noticed at 2; the tick that begins at 12 ends at 38, and the
deadlines at 21 and 31 are missed. -/
def overrun : List Move := [.begin 0 12, .finish 0 none, .begin 0 38, .finish 0 none, .begin 0 42]

def startedAtOne : Scheduler Unit := ⟨[⟨0, ⟨.skip, 10, 11⟩, false, none⟩], some ⟨0, 10⟩, none, 1⟩

theorem paced_overrun :
    (Timer.mk .skip 10 1).fire 2 = .start .skip 10 1 ∧
      idle.start 1 10 = .ok (startedAtOne, [.schedulerStarted 10]) ∧
      (startedAtOne.after? () overrun).isSome ∧ begins 0 overrun = [12, 38, 42] ∧
      ((begins 0 overrun).filter (· ≤ 38)).length ≤ 38 / 10 ∧
      1 + (3 + 1) * 10 ≤ 42 := by
  have hidle : (idle : Scheduler Unit).after? () [] = some idle := rfl
  have hmade : 0 ≤ 1 := Nat.zero_le 1
  have hlooked : 1 ≤ 2 := Nat.le_succ 1
  have hp : 0 < 10 := by decide
  obtain ⟨now, u, events, -, hfire, hstart, -, hpaced⟩ := paced hp hidle hmade hlooked
  have hnow : now = 1 := Nat.add_right_cancel (congrArg Timer.deadline hfire).symm
  subst hnow
  obtain ⟨rfl, rfl⟩ : startedAtOne = u ∧ [.schedulerStarted 10] = events :=
    Prod.mk.inj (Except.ok.inj hstart)
  obtain ⟨-, hcount, hdropped⟩ := hpaced overrun _ rfl
  exact ⟨hfire, hstart, rfl, rfl, hcount 38,
    (hdropped [.begin 0 12, .finish 0 none] [.finish 0 none] [] 38 42 rfl).2 3 (by decide)⟩

end Scheduler

end PeerRules
