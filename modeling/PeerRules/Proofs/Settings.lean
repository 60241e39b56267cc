import PeerRules.Proofs.Numerals
import PeerRules.Proofs.Trimming
import PeerRules.Schedule
import PeerRules.Worker.Process

/-!
# Which settings are accepted

Four settings of a worker are numbers, and they alone decide whether its settings are accepted. Each
may be missing or blank, and is then the number that stands for it; else it must be a numeral of a
positive number of 64 bits, with blanks around it or not. What is accepted is checked again later,
where leases are asked for and where the timer is started; those checks find nothing.

* `unsigned?_eq_ok_iff`: which texts are read as unsigned numbers.
* `Config.positive_eq_ok_iff`: one setting that is a number, without the reader.
* `Config.ofLookup_isOk_iff`, `Config.ofLookup_failsAsInvalid`: all settings.
* `Config.settings_accepted`: what is accepted, what it is taken for, and that it will do.
-/
namespace PeerRules

namespace Text.Numeral

variable {cs ds front back : List Char} {n : Nat}

/-- The characters denote the natural number: digits, behind a plus or not. -/
inductive Counts : List Char → Nat → Prop where
  | plain {ds : List Char} (h : IsDigits ds) : Counts ds (value ds)
  | plus {ds : List Char} (h : IsDigits ds) : Counts ('+' :: ds) (value ds)

theorem counts_plus_iff : Counts ('+' :: ds) n ↔ IsDigits ds ∧ value ds = n := by
  constructor
  · intro h
    cases h with
    | plain h => exact absurd (h.digits '+' List.mem_cons_self) (by decide)
    | plus h => exact ⟨h, rfl⟩
  · rintro ⟨h, rfl⟩
    exact .plus h

theorem counts_plain_iff (hplus : ∀ ds, cs ≠ '+' :: ds) :
    Counts cs n ↔ IsDigits cs ∧ value cs = n := by
  constructor
  · intro h
    cases h with
    | plain h => exact ⟨h, rfl⟩
    | plus => exact absurd rfl (hplus _)
  · rintro ⟨h, rfl⟩
    exact .plain h

/-- **Unsigned numbers.** A text is read as a number of 64 bits just if it denotes that number. -/
theorem unsigned?_eq_ok_iff : unsigned? cs = .ok n ↔ Counts cs n ∧ n < UInt64.size := by
  have hsize : n < UInt64.size ↔ n ≤ maxUnsigned := Nat.lt_succ_iff
  rw [hsize]
  unfold unsigned?
  split
  · refine iff_of_false (by simp) ?_
    rintro ⟨⟨hnil⟩, -⟩
    exact hnil.nonempty rfl
  · rw [digits_eq_ok_iff, counts_plus_iff, and_assoc]
  · next hplus => rw [digits_eq_ok_iff, counts_plain_iff hplus, and_assoc]

theorem Counts.exists_mem (h : Counts cs n) : ∃ c, c ∈ cs := by
  cases h with
  | plain h => exact List.exists_mem_of_ne_nil _ h.nonempty
  | plus => exact ⟨'+', List.mem_cons_self⟩

/-- There is no blank in a numeral. -/
theorem Counts.not_blank (h : Counts cs n) : ∀ c ∈ cs, isBlank c = false := by
  intro c hc
  cases h with
  | plain h => exact isBlank_of_isDigit (h.digits c hc)
  | plus h =>
    rcases List.mem_cons.1 hc with rfl | hc
    · decide
    · exact isBlank_of_isDigit (h.digits c hc)

end Text.Numeral

namespace Worker

open Rule.Submission Text.Numeral

namespace Config

variable {env : Lookup}

/-! ## One setting that is a number -/

section OneSetting

variable {name : String} {default m n : Nat}

/-- What a setting that is a number comes to: what stands for it when it is missing or blank, and
else the positive number of 64 bits that its numeral denotes, with blanks around it or not. -/
inductive Gives (default : Nat) : Option String → Nat → Prop where
  | missing : Gives default none default
  | blank {s : String} (h : ¬ Says s.toList) : Gives default (some s) default
  | numeral {s : String} {front numeral back : List Char} {n : Nat}
      (hs : s.toList = front ++ numeral ++ back) (hfront : ¬ Says front) (hback : ¬ Says back)
      (hcounts : Counts numeral n) (hpos : 1 ≤ n) (hfits : n < UInt64.size) :
      Gives default (some s) n

theorem setting_of_missing (h : env name = none) : setting env name = none := by
  rw [setting, h]
  rfl

theorem setting_of_blank {s : String} (h : env name = some s) (hblank : ¬ Says s.toList) :
    setting env name = none := by
  have hall : Text.allBlank s = true := (not_says_iff _).1 hblank
  rw [setting, h, Option.bind_some, Text.trimmed?, hall]
  rfl

theorem setting_of_said {s : String} (h : env name = some s) (hsaid : Says s.toList) :
    setting env name = some (Text.trim s) := by
  rw [setting, h, Option.bind_some, Text.trimmed?, (says_iff s).1 hsaid]
  rfl

theorem requirePositive_eq_ok_iff : requirePositive name m = .ok n ↔ m = n ∧ 0 < n := by
  unfold requirePositive
  split
  · next hzero =>
    refine iff_of_false (by simp) fun h => ?_
    omega
  · next hne =>
    rw [Except.ok.injEq]
    exact ⟨fun h => ⟨h, by omega⟩, And.left⟩

theorem positive_of_unsaid (hdefault : 0 < default) (h : setting env name = none) :
    positive env name default = .ok n ↔ n = default := by
  have hnatural : natural env name default = .ok default := by rw [natural, h]
  rw [positive, hnatural]
  change requirePositive name default = .ok n ↔ _
  rw [requirePositive_eq_ok_iff]
  exact ⟨fun h => h.1.symm, fun h => ⟨h.symm, h ▸ hdefault⟩⟩

theorem positive_of_said {t : String} (h : setting env name = some t) :
    positive env name default = .ok n ↔ Counts t.toList n ∧ 1 ≤ n ∧ n < UInt64.size := by
  have hnatural : natural env name default = .ok n ↔ unsigned? t.toList = .ok n := by
    rw [natural, h]
    dsimp only
    cases unsigned? t.toList <;> simp
  change (natural env name default >>= requirePositive name) = .ok n ↔ _
  simp only [bind_eq_ok_iff, requirePositive_eq_ok_iff]
  constructor
  · rintro ⟨_, hm, rfl, hpos⟩
    obtain ⟨hcounts, hfits⟩ := unsigned?_eq_ok_iff.1 (hnatural.1 hm)
    exact ⟨hcounts, hpos, hfits⟩
  · rintro ⟨hcounts, hpos, hfits⟩
    exact ⟨n, hnatural.2 (unsigned?_eq_ok_iff.2 ⟨hcounts, hfits⟩), rfl, hpos⟩

/-- **A setting that is a number** is accepted just if it gives one, and as that one. -/
theorem positive_eq_ok_iff (hdefault : 0 < default) :
    positive env name default = .ok n ↔ Gives default (env name) n := by
  cases henv : env name with
  | none =>
    rw [positive_of_unsaid hdefault (setting_of_missing henv)]
    constructor
    · rintro rfl
      exact .missing
    · rintro ⟨⟩
      rfl
  | some s =>
    by_cases hsaid : Says s.toList
    · obtain ⟨front, back, hparts, hfront, hback, -⟩ := trimList_parts hsaid
      have htrim : (Text.trim s).toList = Text.trimList s.toList := String.toList_ofList
      rw [positive_of_said (setting_of_said henv hsaid), htrim]
      constructor
      · rintro ⟨hcounts, hpos, hfits⟩
        exact .numeral hparts hfront hback hcounts hpos hfits
      · intro h
        cases h with
        | blank h => exact absurd hsaid h
        | numeral hs hfront hback hcounts hpos hfits =>
          rw [hs, Text.trimList_surrounded hfront hback,
            Text.trimList_of_forall hcounts.not_blank]
          exact ⟨hcounts, hpos, hfits⟩
    · rw [positive_of_unsaid hdefault (setting_of_blank henv hsaid)]
      constructor
      · rintro rfl
        exact .blank hsaid
      · intro h
        cases h with
        | blank => rfl
        | numeral hs hfront hback hcounts =>
          -- A numeral says something, and so does a text that has it inside.
          obtain ⟨c, hc⟩ := hcounts.exists_mem
          exact absurd ⟨c, by simp [hs, hc], hcounts.not_blank c hc⟩ hsaid

theorem positive_failsAsInvalid (env : Lookup) (name : String) (default : Nat) :
    FailsAsInvalid (positive env name default) := by
  refine .bind ?_ fun n => ?_
  · unfold natural
    split
    · exact .ok _
    · split
      · exact .ok _
      · exact .validation _
  · unfold requirePositive
    split
    · exact .validation _
    · exact .ok _

end OneSetting

/-! ## All settings -/

inductive Measure where
  | ruleInterval
  | dispatchTimeout
  | rpcTimeout
  | lease

namespace Measure

def name : Measure → String
  | .ruleInterval => "RULE_INTERVAL_MS"
  | .dispatchTimeout => "DISPATCH_TIMEOUT_MS"
  | .rpcTimeout => "RPC_TIMEOUT_MS"
  | .lease => "RULE_LOCK_LEASE_SECONDS"

def default : Measure → Nat
  | .ruleInterval => 300000
  | .dispatchTimeout => 10000
  | .rpcTimeout => 15000
  | .lease => 600

def of (c : Config) : Measure → Nat
  | .ruleInterval => c.ruleIntervalMs
  | .dispatchTimeout => c.dispatchTimeoutMs
  | .rpcTimeout => c.rpcTimeoutMs
  | .lease => c.leaseSeconds

theorem default_pos (m : Measure) : 0 < m.default := by
  cases m <;> decide

end Measure

variable {fallbackId : String} {c : Config}

def Usable (env : Lookup) (m : Measure) : Prop := ∃ n, Gives m.default (env m.name) n

theorem ofLookup_measures (h : ofLookup env fallbackId = .ok c) (m : Measure) :
    positive env m.name m.default = .ok (m.of c) := by
  simp only [ofLookup, bind_eq_ok_iff, pure, Except.pure, Except.ok.injEq] at h
  obtain ⟨_, hinterval, _, hdispatch, _, hrpc, _, hlease, rfl⟩ := h
  cases m with
  | ruleInterval => exact hinterval
  | dispatchTimeout => exact hdispatch
  | rpcTimeout => exact hrpc
  | lease => exact hlease

theorem gives_of_ofLookup (h : ofLookup env fallbackId = .ok c) (m : Measure) :
    Gives m.default (env m.name) (m.of c) :=
  (positive_eq_ok_iff m.default_pos).1 (ofLookup_measures h m)

/-- **Settings are accepted** just if those that are numbers can be taken for such. -/
theorem ofLookup_isOk_iff : (∃ c, ofLookup env fallbackId = .ok c) ↔ ∀ m, Usable env m := by
  constructor
  · rintro ⟨c, h⟩ m
    exact ⟨_, gives_of_ofLookup h m⟩
  · intro h
    have hok : ∀ m : Measure, ∃ n, positive env m.name m.default = .ok n := fun m =>
      (h m).imp fun n hn => (positive_eq_ok_iff m.default_pos).2 hn
    obtain ⟨interval, hinterval⟩ := hok .ruleInterval
    obtain ⟨dispatch, hdispatch⟩ := hok .dispatchTimeout
    obtain ⟨rpc, hrpc⟩ := hok .rpcTimeout
    obtain ⟨lease, hlease⟩ := hok .lease
    simp only [ofLookup, bind_eq_ok_iff, pure, Except.pure, Except.ok.injEq]
    exact ⟨_, interval, hinterval, dispatch, hdispatch, rpc, hrpc, lease, hlease, rfl⟩

theorem ofLookup_failsAsInvalid (env : Lookup) (fallbackId : String) :
    FailsAsInvalid (ofLookup env fallbackId) :=
  .bind (positive_failsAsInvalid _ _ _) fun _ => .bind (positive_failsAsInvalid _ _ _) fun _ =>
    .bind (positive_failsAsInvalid _ _ _) fun _ => .bind (positive_failsAsInvalid _ _ _) fun _ =>
      .ok _

/-! ## What is checked later -/

/-- A worker has a name, if it has one when none is given to it. -/
theorem says_workerId (hfallback : Text.allBlank fallbackId = false)
    (h : ofLookup env fallbackId = .ok c) : Text.allBlank c.workerId = false := by
  simp only [ofLookup, bind_eq_ok_iff, pure, Except.pure, Except.ok.injEq] at h
  obtain ⟨-, -, -, -, -, -, -, -, rfl⟩ := h
  change Text.allBlank ((setting env "WORKER_ID").getD fallbackId) = false
  cases hid : setting env "WORKER_ID" with
  | none => exact hfallback
  | some t =>
    obtain ⟨s, -, hs⟩ := Option.bind_eq_some_iff.1 hid
    have htrimmed := Rule.trimmed?_trimmed? hs
    unfold Text.trimmed? at htrimmed
    split at htrimmed
    · cases htrimmed
    · next hblank => simpa using hblank

/-- What is checked later about the settings: the terms on which leases are asked for, and the
interval of the timer. All that can still be wrong is the address of the key server. -/
structure Suffices (c : Config) : Prop where
  terms : ∀ keyFront, ∃ terms, Lease.Settings.make keyFront c.workerId c.leaseSeconds = .ok terms
  leases : ∀ f, c.leases = .error f →
    ∃ url r, c.redisUrl = some url ∧ Lease.Server.ofText url = .error r ∧ f = badKeyServer r
  starts : ∀ {T : Type} (s : Scheduler T) (now : Nat), ∃ started,
    s.start now c.ruleIntervalMs = .ok started

theorem suffices_of_ofLookup (hfallback : Text.allBlank fallbackId = false)
    (h : ofLookup env fallbackId = .ok c) : c.Suffices := by
  have hid := says_workerId hfallback h
  have hlease : 0 < c.leaseSeconds := pos_of_positive (ofLookup_measures h .lease)
  have hinterval : 0 < c.ruleIntervalMs := pos_of_positive (ofLookup_measures h .ruleInterval)
  have hterms : ∀ keyFront,
      Lease.Settings.make keyFront c.workerId c.leaseSeconds =
        .ok ⟨keyFront, c.workerId, c.leaseSeconds⟩ := by
    intro keyFront
    simp [Lease.Settings.make, hid, Nat.ne_of_gt hlease]
  refine ⟨fun keyFront => ⟨_, hterms keyFront⟩, fun f hf => ?_, fun s now => ?_⟩
  · unfold leases at hf
    split at hf
    · cases hf
    · next url hurl =>
      split at hf
      · next r hr =>
        cases hf
        exact ⟨url, r, hurl, hr, rfl⟩
      · rw [hterms] at hf
        cases hf
  · rw [Scheduler.start, if_neg (Nat.ne_of_gt hinterval)]
    exact ⟨_, rfl⟩

/-- **The settings of a worker.** Whatever is set, and whatever number the process has: the settings
are accepted just if each of those that are numbers can be taken for one, and else refused as
invalid. What is accepted has the numbers that the settings give, and nothing that is checked later
refuses it. -/
theorem settings_accepted (env : Lookup) (process : String) :
    ((∃ c, ofLookup env ("worker-" ++ process) = .ok c) ↔ ∀ m, Usable env m) ∧
    ((¬ ∀ m, Usable env m) →
      ∃ text, ofLookup env ("worker-" ++ process) = .error (.validation text)) ∧
    ∀ c, ofLookup env ("worker-" ++ process) = .ok c →
      (∀ m : Measure, Gives m.default (env m.name) (m.of c)) ∧ c.Suffices := by
  have hfallback : Text.allBlank ("worker-" ++ process) = false :=
    (says_iff _).1 ⟨'w', by simp, by decide⟩
  refine ⟨ofLookup_isOk_iff, fun h => ?_, fun c hc =>
    ⟨gives_of_ofLookup hc, suffices_of_ofLookup hfallback hc⟩⟩
  cases hresult : ofLookup env ("worker-" ++ process) with
  | ok c => exact absurd (ofLookup_isOk_iff.1 ⟨c, hresult⟩) h
  | error f =>
    have hkind := ofLookup_failsAsInvalid env ("worker-" ++ process) f hresult
    obtain ⟨kind, text⟩ := f
    cases hkind
    exact ⟨text, rfl⟩

/-! ### A lease of a minute, and one that is too long -/

def leaseSettings (lease : String) : Lookup
  | "RULE_LOCK_LEASE_SECONDS" => some lease
  | "RULE_INTERVAL_MS" => some " \t"
  | _ => none

theorem positive_leaseSettings :
    positive (leaseSettings " +0060\n") "RULE_LOCK_LEASE_SECONDS" 600 = .ok 60 := by
  decide +kernel

theorem usable_leaseSettings : ∀ m, Usable (leaseSettings " +0060\n") m
  | .ruleInterval => ⟨_, .blank ((not_says_iff _).2 (by decide +kernel))⟩
  | .dispatchTimeout => ⟨_, .missing⟩
  | .rpcTimeout => ⟨_, .missing⟩
  | .lease => ⟨60, (positive_eq_ok_iff (by decide)).1 positive_leaseSettings⟩

theorem settings_accepted_minute :
    (∃ c, ofLookup (leaseSettings " +0060\n") ("worker-" ++ "7") = .ok c ∧ c.leaseSeconds = 60 ∧
      c.Suffices) ∧
    (¬ ∀ m, Usable (leaseSettings "18446744073709551616") m) ∧
    ∃ text, ofLookup (leaseSettings "18446744073709551616") ("worker-" ++ "7") =
      .error (.validation text) := by
  obtain ⟨haccepted, -, hall⟩ := settings_accepted (leaseSettings " +0060\n") "7"
  obtain ⟨hlong, hrefused, -⟩ := settings_accepted (leaseSettings "18446744073709551616") "7"
  obtain ⟨c, hc⟩ := haccepted.2 usable_leaseSettings
  have hlease : c.leaseSeconds = 60 :=
    Except.ok.inj ((ofLookup_measures hc .lease).symm.trans positive_leaseSettings)
  have hunusable : ¬ ∀ m, Usable (leaseSettings "18446744073709551616") m := by
    intro h
    obtain ⟨c, hc⟩ := hlong.2 h
    have hmeasure := ofLookup_measures hc .lease
    have herror : positive (leaseSettings "18446744073709551616") "RULE_LOCK_LEASE_SECONDS" 600 =
        .error (.validation ("invalid RULE_LOCK_LEASE_SECONDS value '18446744073709551616': " ++
          "number too large to fit in target type")) := by
      decide +kernel
    cases hmeasure.symm.trans herror
  exact ⟨⟨c, hc, hlease, (hall c hc).2⟩, hunusable, hrefused hunusable⟩

end Config

end Worker

end PeerRules
