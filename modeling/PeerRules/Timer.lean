/-!
# Timers

A timer falls due again and again, a period apart. It can be noticed late. When it is noticed no
more than a moment late it keeps its rhythm; when it is later, its policy says what becomes of the
time that was missed: `skip` goes on with the next deadline of the old rhythm, `delay` starts a new
rhythm from now.

* `fire_eq`: noticing a deadline moves it, and leaves the period and the policy.
* `now_lt_fire_skip`: after a late notice the next deadline lies ahead.
* `fire_skip_grid`: skipping keeps the rhythm.
-/
namespace PeerRules

/-- What becomes of deadlines that were missed. -/
inductive Timer.Policy where
  | skip
  | delay
  deriving DecidableEq, Repr

/-- A timer: its period and the next deadline, in milliseconds. -/
structure Timer where
  policy : Timer.Policy
  period : Nat
  deadline : Nat
  deriving DecidableEq, Repr

namespace Timer

/-- How late a timer may be noticed without counting as late. -/
def graceMs : Nat := 5

/-- A timer that falls due for the first time one period from now. -/
def start (policy : Policy) (period now : Nat) : Timer := ⟨policy, period, now + period⟩

def isDue (t : Timer) (now : Nat) : Bool := t.deadline ≤ now

def fire (t : Timer) (now : Nat) : Timer :=
  if now ≤ t.deadline + graceMs then { t with deadline := t.deadline + t.period }
  else
    match t.policy with
    | .skip => { t with deadline := now + t.period - (now - t.deadline) % t.period }
    | .delay => { t with deadline := now + t.period }

/-- Noticing a deadline changes nothing but the deadline. -/
theorem fire_eq (t : Timer) (now : Nat) :
    t.fire now = { t with deadline := (t.fire now).deadline } := by
  unfold fire
  split
  · rfl
  · split <;> rfl

@[simp] theorem period_fire (t : Timer) (now : Nat) : (t.fire now).period = t.period := by
  rw [fire_eq]

@[simp] theorem policy_fire (t : Timer) (now : Nat) : (t.fire now).policy = t.policy := by
  rw [fire_eq]

theorem now_lt_fire_skip {t : Timer} {now : Nat} (hp : 0 < t.period) (hs : t.policy = .skip)
    (hlate : t.deadline + graceMs < now) : now < (t.fire now).deadline := by
  have hm : (now - t.deadline) % t.period < t.period := Nat.mod_lt _ hp
  have hn : ¬ now ≤ t.deadline + graceMs := by omega
  simp only [fire, hn, if_false, hs]
  omega

theorem fire_skip_grid {t : Timer} {now : Nat} (hs : t.policy = .skip) (hdue : t.deadline ≤ now)
    (hp : 0 < t.period) : ∃ k, 0 < k ∧ (t.fire now).deadline = t.deadline + k * t.period := by
  unfold fire
  split
  · exact ⟨1, by omega, by simp⟩
  · simp only [hs]
    refine ⟨(now - t.deadline) / t.period + 1, Nat.succ_pos _, ?_⟩
    have hm := Nat.div_add_mod (now - t.deadline) t.period
    have hlt : (now - t.deadline) % t.period < t.period := Nat.mod_lt _ hp
    rw [Nat.add_mul, Nat.one_mul, Nat.mul_comm ((now - t.deadline) / t.period)]
    omega

end Timer

end PeerRules
