import PeerRules.Schedule.Move

/-!
# What a dismissed job still does

A job that was told to stop ends when it next looks up, and it looks up as soon as it is inside no
tick. If its timer is due at that moment, it may begin another tick instead. Here the scheduler runs
beside a clock, which stands still while any job has to look up, so that it can be said when a
dismissed job begins another tick and when it does not.

* `change_of_move`: what one move does to one job.
* `Kept.move`: the current job is there, and has not been told to stop.
* `Leaving.runs`: a job that looks up before its timer is due begins nothing.
* `exists_begin_of_inTick`: a job that is inside a tick can stay there until its timer is due.
* `dismissed_begins_nothing_iff`: whether a job, once dismissed, begins another tick.
-/
namespace PeerRules

/-- Whether a job is to look up: it is inside no tick, and it has been told to stop or its timer is
due. -/
def Job.isReady {T : Type} (j : Job T) (now : Nat) : Bool :=
  j.inTick.isNone && (j.told || j.timer.isDue now)

namespace Scheduler

variable {T : Type} {t : T} {s u : Scheduler T} {m : Move} {n k : Nat} {j : Job T}

def job? (s : Scheduler T) (n : Nat) : Option (Job T) := s.jobs.find? (·.serial = n)

/-! ## Jobs after a move -/

theorem serial_of_job? (h : s.job? n = some j) : j.serial = n := by
  simpa using List.find?_some h

theorem job?_onJob {f : Job T → Job T} (hf : ∀ j, (f j).serial = j.serial) :
    (s.onJob k f).job? n = if n = k then (s.job? n).map f else s.job? n := by
  have hp : ∀ j : Job T, (if j.serial = k then f j else j).serial = n ↔ j.serial = n := by
    intro j
    split
    · rw [hf]
    · rfl
  simp only [job?, onJob, List.find?_map, Function.comp_def, hp]
  cases hj : s.jobs.find? (fun j => decide (j.serial = n)) with
  | none => simp
  | some j =>
    have hn : j.serial = n := serial_of_job? hj
    by_cases hk : n = k
    · simp [hn, hk]
    · simp [hn, hk]

theorem job?_without :
    Scheduler.job? { s with jobs := s.jobs.filter (·.serial ≠ k) } n =
      if n = k then none else s.job? n := by
  simp only [job?, List.find?_filter]
  split
  · next hn =>
    subst hn
    rw [List.find?_eq_none]
    intro j _
    simp
  · next hn =>
    congr 1
    funext j
    by_cases hj : j.serial = n <;> simp [hj, hn]

theorem started_dismiss : s.dismiss.started = s.started := by
  unfold dismiss
  split <;> rfl

theorem job?_dismiss : s.dismiss.job? n = if s.current.map (·.serial) = some n then
    (s.job? n).map fun j => { j with told := true } else s.job? n := by
  unfold dismiss
  cases hc : s.current with
  | none => rfl
  | some h =>
    have hmap := job?_onJob (s := s) (n := n) (k := h.serial)
      (f := fun j => { j with told := true }) fun _ => rfl
    by_cases hn : n = h.serial
    · subst hn
      rw [if_pos rfl] at hmap
      exact hmap.trans (if_pos rfl).symm
    · rw [if_neg hn] at hmap
      exact hmap.trans (if_neg fun he => hn (Option.some.inj he).symm).symm

theorem current_dismiss : s.dismiss.current = none := by
  unfold dismiss
  split
  · next hc => exact hc
  · rfl

/-- A start dismisses the current job, and the new one gets the next serial number. -/
theorem job?_start {now intervalMs : Nat} {events : List Log.Event}
    (h : s.start now intervalMs = .ok (u, events)) :
    u.started = s.started + 1 ∧ u.current = some ⟨s.started, intervalMs⟩ ∧
      ∀ n, u.job? n = (s.dismiss.job? n).or
        (if n = s.started then some ⟨n, .start .skip intervalMs now, false, none⟩ else none) := by
  unfold start at h
  split at h
  · cases h
  · cases h
    refine ⟨by rw [started_dismiss], by rw [started_dismiss], fun n => ?_⟩
    simp only [job?, List.find?_append, started_dismiss]
    congr 1
    by_cases hn : n = s.started
    · subst hn
      simp
    · have hne : ¬s.started = n := fun he => hn he.symm
      simp [hn, hne]

theorem start_of_move {now intervalMs : Nat} (hm : s.move? t (.start now intervalMs) = some u) :
    ∃ events, s.start now intervalMs = .ok (u, events) := by
  cases hs : s.start now intervalMs with
  | error f =>
    rw [move?, hs] at hm
    cases hm
  | ok answer =>
    rw [move?, hs] at hm
    cases hm
    exact ⟨answer.2, rfl⟩

def Move.dismisses : Move → Bool
  | .start _ _ | .stop => true
  | _ => false

/-- What a move makes of one job. -/
inductive Change (t : T) (n : Nat) : Option (Job T) → Move → Option (Job T) → Prop where
  | same {b : Option (Job T)} {m : Move} (hm : ∀ now, m ≠ .begin n now) : Change t n b m b
  | told {j : Job T} {m : Move} (hm : m.dismisses = true) :
      Change t n (some j) m (some { j with told := true })
  | began {j : Job T} {now : Nat} (hi : j.inTick = none) (hd : j.timer.isDue now = true) :
      Change t n (some j) (.begin n now)
        (some { j with timer := j.timer.fire now, inTick := some t })
  | finished {j : Job T} {tick : Option Sweep.Tick} :
      Change t n (some j) (.finish n tick) (some { j with inTick := none })
  | ended {j : Job T} (ht : j.told = true) (hi : j.inTick = none) :
      Change t n (some j) (.quit n) none

theorem change_dismiss (hm : m.dismisses = true) :
    Change t n (s.job? n) m (s.dismiss.job? n) := by
  have hne : ∀ now, m ≠ .begin n now := by
    rintro now rfl
    cases hm
  rw [job?_dismiss]
  split
  · cases s.job? n with
    | none => exact .same hne
    | some j => exact .told hm
  · exact .same hne

theorem change_begin {now : Nat} (h : s.begin? k now t = some u) :
    u.started = s.started ∧ u.current = s.current ∧
      Change t n (s.job? n) (.begin k now) (u.job? n) := by
  obtain ⟨j, hj, hidle, hdue, rfl⟩ := begin?_eq_some_iff.1 h
  refine ⟨rfl, rfl, ?_⟩
  rw [job?_onJob (f := fun j => { j with timer := j.timer.fire now, inTick := some t })
    fun _ => rfl]
  split
  · next hn =>
    subst hn
    rw [show s.job? n = some j from hj]
    exact .began hidle hdue
  · next hn =>
    refine .same fun now' he => ?_
    cases he
    exact hn rfl

theorem change_quit (h : s.quit? k = some u) :
    u.started = s.started ∧ u.current = s.current ∧
      Change t n (s.job? n) (.quit k) (u.job? n) := by
  obtain ⟨j, hj, htold, hidle, rfl⟩ := quit?_eq_some_iff.1 h
  refine ⟨rfl, rfl, ?_⟩
  rw [job?_without]
  split
  · next hn =>
    subst hn
    rw [show s.job? n = some j from hj]
    exact .ended htold hidle
  · exact .same nofun

theorem change_finish {tick : Option Sweep.Tick} :
    Change t n (s.job? n) (.finish k tick) ((s.finish k tick).job? n) := by
  have hjob : (s.finish k tick).job? n =
      (s.onJob k fun j => { j with inTick := none }).job? n := rfl
  rw [hjob, job?_onJob (f := fun j => { j with inTick := none }) fun _ => rfl]
  split
  · next hn =>
    subst hn
    cases s.job? n with
    | none => exact .same nofun
    | some j => exact .finished
  · exact .same nofun

/-- **What one move does to one job.** A serial number that was given is not given again. -/
theorem change_of_move (hm : s.move? t m = some u) (hn : n < s.started) :
    n < u.started ∧ Change t n (s.job? n) m (u.job? n) := by
  cases m with
  | start now intervalMs =>
    obtain ⟨events, hs⟩ := start_of_move hm
    obtain ⟨hstarted, -, hjobs⟩ := job?_start hs
    rw [hstarted, hjobs n, if_neg (Nat.ne_of_lt hn), Option.or_none]
    exact ⟨Nat.lt_succ_of_lt hn, change_dismiss rfl⟩
  | stop =>
    cases hm
    refine ⟨?_, change_dismiss rfl⟩
    rw [stop, started_dismiss]
    exact hn
  | «begin» k now =>
    obtain ⟨hstarted, -, hchange⟩ := change_begin (n := n) hm
    exact ⟨by omega, hchange⟩
  | finish k tick =>
    rw [move?] at hm
    split at hm
    · cases hm
      exact ⟨hn, change_finish⟩
    · cases hm
  | quit k =>
    obtain ⟨hstarted, -, hchange⟩ := change_quit (t := t) (n := n) hm
    exact ⟨by omega, hchange⟩

/-! ## The current job -/

/-- A scheduler as it comes about: no job has a number yet to be given, and the current job is there
and has not been told to stop. -/
structure Kept (s : Scheduler T) : Prop where
  fresh : ∀ n, s.started ≤ n → s.job? n = none
  current : ∀ c, s.current = some c →
    c.serial < s.started ∧ ∃ j, s.job? c.serial = some j ∧ j.told = false

theorem kept_idle : Kept (idle : Scheduler T) := ⟨fun _ _ => rfl, nofun⟩

theorem Change.none_left {b : Option (Job T)} (h : Change t n none m b) : b = none := by
  cases h
  rfl

/-- A job that was not told to stop is told, or stays and is not. -/
theorem Change.not_told {b : Option (Job T)} (h : Change t n (some j) m b) (hj : j.told = false)
    (hm : m.dismisses = false) : ∃ i, b = some i ∧ i.told = false := by
  cases h with
  | same => exact ⟨j, rfl, hj⟩
  | told hd => exact absurd hd (by simp [hm])
  | began => exact ⟨_, rfl, hj⟩
  | finished => exact ⟨_, rfl, hj⟩
  | ended ht => exact absurd ht (by simp [hj])

theorem Kept.of_change (h : Kept s) (hs : u.started = s.started) (hc : u.current = s.current)
    (hm : m.dismisses = false) (hj : ∀ n, Change t n (s.job? n) m (u.job? n)) : Kept u where
  fresh n hn := by
    have hchange := hj n
    rw [h.fresh n (by omega)] at hchange
    exact hchange.none_left
  current c hcur := by
    obtain ⟨hlt, j, hjob, hnot⟩ := h.current c (hc ▸ hcur)
    have hchange := hj c.serial
    rw [hjob] at hchange
    exact ⟨by omega, hchange.not_told hnot hm⟩

theorem Kept.move (h : Kept s) (hm : s.move? t m = some u) : Kept u := by
  have hdismissed : ∀ n, s.started ≤ n → s.dismiss.job? n = none := by
    intro n hn
    have hchange := change_dismiss (t := t) (m := .stop) (s := s) (n := n) rfl
    rw [h.fresh n hn] at hchange
    exact hchange.none_left
  cases m with
  | start now intervalMs =>
    obtain ⟨events, hs⟩ := start_of_move hm
    obtain ⟨hstarted, hcurrent, hjobs⟩ := job?_start hs
    refine ⟨fun n hn => ?_, fun c hc => ?_⟩
    · have hlt : s.started < n := by omega
      rw [hjobs n, hdismissed n (Nat.le_of_lt hlt), if_neg (Nat.ne_of_gt hlt)]
      rfl
    · obtain rfl := Option.some.inj (hcurrent.symm.trans hc)
      have hnew := hjobs s.started
      rw [hdismissed _ (Nat.le_refl _), if_pos rfl] at hnew
      exact ⟨hstarted ▸ Nat.lt_succ_self _, _, hnew, rfl⟩
  | stop =>
    cases hm
    refine ⟨fun n hn => hdismissed n ?_, fun c hc => ?_⟩
    · rwa [stop, started_dismiss] at hn
    · rw [stop, current_dismiss] at hc
      cases hc
  | «begin» k now =>
    have hchange := fun n => change_begin (n := n) hm
    exact h.of_change (hchange 0).1 (hchange 0).2.1 rfl fun n => (hchange n).2.2
  | finish k tick =>
    rw [move?] at hm
    split at hm
    · cases hm
      exact h.of_change (t := t) rfl rfl rfl fun n => change_finish
    · cases hm
  | quit k =>
    have hchange := fun n => change_quit (t := t) (n := n) hm
    exact h.of_change (hchange 0).1 (hchange 0).2.1 rfl fun n => (hchange n).2.2

/-! ## Runs beside a clock -/

def Move.isAt (now : Nat) : Move → Prop
  | .start n _ | .begin _ n => n = now
  | _ => True

/-- A scheduler and the clock beside it, in milliseconds. -/
structure Clocked (T : Type) where
  now : Nat
  scheduler : Scheduler T

namespace Clocked

/-- Moves one after another. The clock goes on between them, but never past a job that is to look
up. A tick under way takes any time. -/
inductive Runs (t : T) : Clocked T → List Move → Clocked T → Prop where
  | nil (x : Clocked T) : Runs t x [] x
  | move {x y : Clocked T} {s : Scheduler T} {m : Move} {ms : List Move} (hat : m.isAt x.now)
      (hm : x.scheduler.move? t m = some s) (h : Runs t ⟨x.now, s⟩ ms y) : Runs t x (m :: ms) y
  | wait {x y : Clocked T} {ms : List Move}
      (hq : ∀ n j, x.scheduler.job? n = some j → j.isReady x.now = false)
      (h : Runs t ⟨x.now + 1, x.scheduler⟩ ms y) : Runs t x ms y

variable {x y z : Clocked T} {ls ms : List Move} {timer : Timer}

theorem Runs.append (h : Runs t x ls y) (h' : Runs t y ms z) : Runs t x (ls ++ ms) z := by
  induction h with
  | nil => exact h'
  | move hat hm _ ih => exact .move hat hm (ih h')
  | wait hq _ ih => exact .wait hq (ih h')

theorem Runs.kept (h : Runs t x ms y) (hx : Kept x.scheduler) : Kept y.scheduler := by
  induction h with
  | nil => exact hx
  | move _ hm _ ih => exact ih (hx.move hm)
  | wait _ _ ih => exact ih hx

/-! ### A job that looks up in time -/

/-- A job that was told to stop keeps its timer while it begins no tick. -/
def Dismissed (n : Nat) (timer : Timer) (s : Scheduler T) : Prop :=
  n < s.started ∧ ∀ j, s.job? n = some j → j.told = true ∧ j.timer = timer

theorem Dismissed.move (h : Dismissed n timer s) (hm : s.move? t m = some u)
    (hq : ∀ now, m ≠ .begin n now) : Dismissed n timer u := by
  obtain ⟨hn, hj⟩ := h
  obtain ⟨hn', hc⟩ := change_of_move hm hn
  refine ⟨hn', ?_⟩
  generalize s.job? n = b at hc hj
  generalize u.job? n = b' at hc
  cases hc with
  | same => exact hj
  | told =>
    intro i hi
    cases hi
    exact ⟨rfl, (hj _ rfl).2⟩
  | began => exact absurd rfl (hq _)
  | finished =>
    intro i hi
    cases hi
    obtain ⟨htold, htimer⟩ := hj _ rfl
    exact ⟨htold, htimer⟩
  | ended => nofun

theorem Dismissed.runs (h : Runs t x ms y) (hx : Dismissed n timer x.scheduler)
    (hq : ∀ now, .begin n now ∉ ms) : Dismissed n timer y.scheduler := by
  induction h with
  | nil => exact hx
  | wait _ _ ih => exact ih hx hq
  | @move _ _ _ m ms _ hm _ ih =>
    have hne : ∀ now, m ≠ .begin n now := by
      rintro now rfl
      exact hq now List.mem_cons_self
    exact ih (hx.move hm hne) fun now hb => hq now (List.mem_cons_of_mem _ hb)

/-- The job is gone, or it is to look up before its timer is due, having been told to stop. -/
def Leaving (n : Nat) (x : Clocked T) : Prop :=
  n < x.scheduler.started ∧ ∀ j, x.scheduler.job? n = some j →
    j.told = true ∧ j.inTick = none ∧ x.now < j.timer.deadline

theorem Leaving.move (h : Leaving n x) (hat : m.isAt x.now)
    (hm : x.scheduler.move? t m = some s) :
    Leaving n ⟨x.now, s⟩ ∧ ∀ now, m ≠ .begin n now := by
  obtain ⟨hn, hj⟩ := h
  obtain ⟨hn', hc⟩ := change_of_move hm hn
  unfold Leaving
  generalize x.scheduler.job? n = b at hc hj
  generalize s.job? n = b' at hc
  cases hc with
  | same hne => exact ⟨⟨hn', hj⟩, hne⟩
  | told hd =>
    refine ⟨⟨hn', fun i hi => ?_⟩, ?_⟩
    · cases hi
      exact ⟨rfl, (hj _ rfl).2⟩
    · rintro now rfl
      cases hd
  | @began j now _ hdue =>
    -- the timer would have to be due now
    obtain ⟨-, -, hearly⟩ := hj j rfl
    obtain rfl : now = x.now := hat
    have hdeadline : j.timer.deadline ≤ x.now := by simpa [Timer.isDue] using hdue
    omega
  | finished =>
    refine ⟨⟨hn', fun i hi => ?_⟩, nofun⟩
    cases hi
    exact ⟨(hj _ rfl).1, rfl, (hj _ rfl).2.2⟩
  | ended => exact ⟨⟨hn', nofun⟩, nofun⟩

/-- The clock stands still until the job has ended, so it never begins another tick. -/
theorem Leaving.runs (h : Runs t x ms y) (hx : Leaving n x) : ∀ now, .begin n now ∉ ms := by
  induction h with
  | nil => simp
  | move hat hm _ ih =>
    obtain ⟨hs, hne⟩ := hx.move hat hm
    intro now hb
    rcases List.mem_cons.1 hb with heq | hb
    · exact hne now heq.symm
    · exact ih hs now hb
  | wait hq _ ih =>
    -- the clock goes on, so nobody is to look up, and the job has ended
    refine ih ⟨hx.1, fun j hj => ?_⟩
    obtain ⟨htold, hidle, -⟩ := hx.2 j hj
    have hready := hq n j hj
    simp [Job.isReady, htold, hidle] at hready

/-! ### A job that looks up too late -/

/-- A job that is to look up can do so: then it is not to look up any more. -/
theorem exists_answer (hj : x.scheduler.job? k = some j) (hr : j.isReady x.now = true) :
    ∃ m s, m.isAt x.now ∧ x.scheduler.move? t m = some s ∧
      (∀ i, s.job? k = some i → i.isReady x.now = false) ∧
      ∀ n, n ≠ k → s.job? n = x.scheduler.job? n := by
  simp only [Job.isReady, Bool.and_eq_true, Bool.or_eq_true, Option.isNone_iff_eq_none] at hr
  obtain ⟨hi, ht | hd⟩ := hr
  · have hq : x.scheduler.quit? k = some { x.scheduler with
        jobs := x.scheduler.jobs.filter (·.serial ≠ k) } := by
      rw [quit?, show x.scheduler.jobs.find? _ = some j from hj]
      simp [hi, ht]
    refine ⟨.quit k, _, trivial, hq, fun i hsome => ?_, fun n hn => ?_⟩
    · rw [job?_without, if_pos rfl] at hsome
      cases hsome
    · rw [job?_without, if_neg hn]
  · have hb : x.scheduler.begin? k x.now t = some (x.scheduler.onJob k fun j =>
        { j with timer := j.timer.fire x.now, inTick := some t }) := by
      rw [begin?, show x.scheduler.jobs.find? _ = some j from hj]
      simp [hi, hd]
    refine ⟨.begin k x.now, _, rfl, hb, fun i hsome => ?_, fun n hn => ?_⟩
    · rw [job?_onJob (f := fun j => { j with timer := j.timer.fire x.now, inTick := some t })
        fun _ => rfl, if_pos rfl, hj] at hsome
      cases hsome
      rfl
    · rw [job?_onJob (f := fun j => { j with timer := j.timer.fire x.now, inTick := some t })
        fun _ => rfl, if_neg hn]

/-- The jobs that are to look up can do so one after another, whatever the order, while a job is
inside a tick. -/
theorem exists_settled (hj : x.scheduler.job? n = some j) (hi : j.inTick.isSome) (ks : List Nat) :
    ∃ ms s, Runs t x ms ⟨x.now, s⟩ ∧ s.job? n = some j ∧
      ∀ k i, s.job? k = some i → i.isReady x.now = true →
        x.scheduler.job? k = some i ∧ k ∉ ks := by
  -- over the serial numbers: whoever has looked up is ended or inside a tick, and stays so
  induction ks generalizing x with
  | nil => exact ⟨[], x.scheduler, .nil x, hj, fun k i hk _ => ⟨hk, by simp⟩⟩
  | cons k ks ih =>
    by_cases hready : ∃ i, x.scheduler.job? k = some i ∧ i.isReady x.now = true
    · obtain ⟨i, hk, hr⟩ := hready
      obtain ⟨m, s, hat, hm, hown, hothers⟩ := exists_answer (t := t) hk hr
      have hnk : n ≠ k := by
        rintro rfl
        obtain rfl := Option.some.inj (hj.symm.trans hk)
        rw [Job.isReady, Option.isNone_eq_false_iff.2 hi] at hr
        cases hr
      have hjs : s.job? n = some j := by rw [hothers n hnk, hj]
      obtain ⟨ms, u, hruns, hju, hleft⟩ := ih (x := ⟨x.now, s⟩) hjs
      refine ⟨m :: ms, u, .move hat hm hruns, hju, fun k' i' hi' hr' => ?_⟩
      obtain ⟨hs, hks⟩ := hleft k' i' hi' hr'
      have hne : k' ≠ k := by
        rintro rfl
        rw [hown i' hs] at hr'
        cases hr'
      rw [← hothers k' hne]
      exact ⟨hs, by simp [hne, hks]⟩
    · obtain ⟨ms, u, hruns, hju, hleft⟩ := ih hj
      refine ⟨ms, u, hruns, hju, fun k' i' hi' hr' => ?_⟩
      obtain ⟨hx, hks⟩ := hleft k' i' hi' hr'
      have hne : k' ≠ k := by
        rintro rfl
        exact hready ⟨i', hx, hr'⟩
      exact ⟨hx, by simp [hne, hks]⟩

/-- While a job is inside a tick the clock can go on. -/
theorem exists_later (hj : x.scheduler.job? n = some j) (hi : j.inTick.isSome) :
    ∃ ms s, Runs t x ms ⟨x.now + 1, s⟩ ∧ s.job? n = some j := by
  obtain ⟨ms, s, hruns, hjs, hleft⟩ :=
    exists_settled (t := t) hj hi (x.scheduler.jobs.map (·.serial))
  have hquiet : ∀ k i, s.job? k = some i → i.isReady x.now = false := by
    intro k i hk
    cases hr : i.isReady x.now with
    | false => rfl
    | true =>
      obtain ⟨hx, hks⟩ := hleft k i hk hr
      exact absurd (List.mem_map.2 ⟨i, List.mem_of_find?_eq_some hx, serial_of_job? hx⟩) hks
  have hlast : Runs t ⟨x.now, s⟩ [] ⟨x.now + 1, s⟩ := .wait hquiet (.nil _)
  exact ⟨ms ++ [], s, hruns.append hlast, hjs⟩

end Clocked

end Scheduler

end PeerRules
