import PeerRules.Proofs.Settings

/-!
# The interval of renewals

A lease is to be renewed three times in its life. Its seconds are first taken for milliseconds, in
64 bits, and these are then parted by three. But every positive number of 64 bits is accepted as the
seconds of a lease, so the milliseconds need not fit: then they wrap round, and the interval is that
of a shorter lease. It is some time all the same, and three of it are no longer than the lease.

* `Config.exists_lease`: any positive number of 64 bits can be the seconds of a lease.
* `Config.renewIntervalMs_eq`: the interval as a remainder.
* `Config.renewals_of_accepted`: which accepted leases have milliseconds that fit, and what the
  interval of the others is.
-/
namespace PeerRules.Worker.Config

open Rule.Submission Text.Numeral

variable {env : Lookup} {fallbackId : String} {c : Config} {n : Nat}

/-! ## Leases that are accepted -/

theorem leaseSeconds_eq_iff (h : ofLookup env fallbackId = .ok c) :
    c.leaseSeconds = n ↔ Gives 600 (env "RULE_LOCK_LEASE_SECONDS") n := by
  have hmeasure : positive env "RULE_LOCK_LEASE_SECONDS" 600 = .ok c.leaseSeconds :=
    ofLookup_measures h .lease
  rw [← positive_eq_ok_iff (by decide), hmeasure, Except.ok.injEq]

theorem leaseSeconds_bounds (h : ofLookup env fallbackId = .ok c) :
    1 ≤ c.leaseSeconds ∧ c.leaseSeconds < UInt64.size := by
  have hgives : Gives 600 (env "RULE_LOCK_LEASE_SECONDS") c.leaseSeconds :=
    (leaseSeconds_eq_iff h).1 rfl
  generalize c.leaseSeconds = seconds, env "RULE_LOCK_LEASE_SECONDS" = given at hgives ⊢
  cases hgives with
  | missing => decide
  | blank => decide
  | numeral _ _ _ _ hpos hfits => exact ⟨hpos, hfits⟩

/-- The numeral of a number, without blanks, gives that number. -/
theorem gives_digits (default : Nat) (hpos : 1 ≤ n) (hfits : n < UInt64.size) :
    Gives default (some (String.ofList (Nat.toDigits 10 n))) n := by
  have hcounts : Counts (Nat.toDigits 10 n) (value (Nat.toDigits 10 n)) :=
    .plain (Json.Number.isDigits_toDigits n)
  have hvalue : value (Nat.toDigits 10 n) = n := Nat.ofDigitChars_ten_toDigits
  rw [hvalue] at hcounts
  have hnothing : ¬ Says [] := by simp [Says]
  have hparts : (String.ofList (Nat.toDigits 10 n)).toList = [] ++ Nat.toDigits 10 n ++ [] := by
    simp
  exact .numeral hparts hnothing hnothing hcounts hpos hfits

/-- Every positive number of 64 bits can be the seconds of a lease. -/
theorem exists_lease (fallbackId : String) (hpos : 1 ≤ n) (hfits : n < UInt64.size) :
    ∃ c, ofLookup (leaseSettings (String.ofList (Nat.toDigits 10 n))) fallbackId = .ok c ∧
      c.leaseSeconds = n := by
  have husable : ∀ m, Usable (leaseSettings (String.ofList (Nat.toDigits 10 n))) m
    | .ruleInterval => ⟨_, .blank ((not_says_iff _).2 (by decide +kernel))⟩
    | .dispatchTimeout => ⟨_, .missing⟩
    | .rpcTimeout => ⟨_, .missing⟩
    | .lease => ⟨n, gives_digits _ hpos hfits⟩
  obtain ⟨c, hc⟩ := ofLookup_isOk_iff.2 husable
  exact ⟨c, hc, (leaseSeconds_eq_iff hc).2 (gives_digits _ hpos hfits)⟩

/-! ## Milliseconds in 64 bits -/

theorem size_eq : UInt64.size = 18446744073709551616 := rfl

theorem renewIntervalMs_eq (hfits : c.leaseSeconds < UInt64.size) :
    c.renewIntervalMs = max 1 (c.leaseSeconds * 1000 % UInt64.size / 3) := by
  have hseconds : (UInt64.ofNat c.leaseSeconds).toNat = c.leaseSeconds :=
    UInt64.toNat_ofNat_of_lt' hfits
  have hproduct : (UInt64.ofNat c.leaseSeconds * 1000).toNat =
      c.leaseSeconds * 1000 % UInt64.size := by
    rw [UInt64.toNat_mul, hseconds]
    rfl
  rw [renewIntervalMs, UInt64.toNat_div, hproduct]
  rfl

/-- A third of what is left of a number is a third of the number just if all of it is left: what
does not fit leaves the number smaller by `UInt64.size` at least. -/
theorem wrapped_third_eq_iff (hn : 3 ≤ n) :
    max 1 (n % UInt64.size / 3) = n / 3 ↔ n < UInt64.size := by
  rw [size_eq]
  constructor
  · intro h
    by_contra hlarge
    omega
  · intro h
    rw [Nat.mod_eq_of_lt h]
    omega

/-- **Renewals of an accepted lease.** The interval is some time, and three of it are no longer than
the lease, so that it is shorter than the lease. The milliseconds of the lease fit just if there are
no more seconds than `18446744073709551`, and just then the interval is a third of them; else it is
a third of what is left of them in 64 bits. -/
theorem renewals_of_accepted (h : ofLookup env fallbackId = .ok c) :
    (1 ≤ c.renewIntervalMs ∧ 3 * c.renewIntervalMs ≤ 1000 * c.leaseSeconds ∧
      c.renewIntervalMs < 1000 * c.leaseSeconds) ∧
    (c.leaseSeconds * 1000 < UInt64.size ↔ c.leaseSeconds ≤ 18446744073709551) ∧
    (c.renewIntervalMs = c.leaseSeconds * 1000 / 3 ↔ c.leaseSeconds * 1000 < UInt64.size) ∧
    (UInt64.size ≤ c.leaseSeconds * 1000 →
      c.renewIntervalMs = max 1 (c.leaseSeconds * 1000 % UInt64.size / 3)) := by
  obtain ⟨hpos, hfits⟩ := leaseSeconds_bounds h
  rw [renewIntervalMs_eq hfits]
  have hwraps := wrapped_third_eq_iff (n := c.leaseSeconds * 1000) (by omega)
  have hleft := Nat.mod_le (c.leaseSeconds * 1000) UInt64.size
  generalize c.leaseSeconds * 1000 % UInt64.size = left at hwraps hleft ⊢
  have hsize := size_eq
  exact ⟨by omega, by omega, hwraps, fun _ => rfl⟩

/-! ### A minute, and the shortest lease with milliseconds that do not fit -/

theorem renewals_of_accepted_minute :
    ∃ c, ofLookup (leaseSettings " +0060\n") "worker-7" = .ok c ∧ c.renewIntervalMs = 20000 := by
  obtain ⟨c, hc⟩ : ∃ c, ofLookup (leaseSettings " +0060\n") "worker-7" = .ok c :=
    ofLookup_isOk_iff.2 usable_leaseSettings
  have hlease : c.leaseSeconds = 60 :=
    (leaseSeconds_eq_iff hc).2 ((positive_eq_ok_iff (by decide)).1 positive_leaseSettings)
  obtain ⟨-, -, hthird, -⟩ := renewals_of_accepted hc
  rw [hlease] at hthird
  exact ⟨c, hc, hthird.2 (by decide)⟩

/-- The milliseconds of an accepted lease need not fit: a lease of more than five hundred million
years is renewed every 128 milliseconds. -/
theorem renewals_wrapped :
    ∃ c, ofLookup (leaseSettings "18446744073709552") "worker-7" = .ok c ∧
      c.leaseSeconds = 18446744073709552 ∧ UInt64.size ≤ c.leaseSeconds * 1000 ∧
      c.renewIntervalMs = 128 := by
  obtain ⟨c, hc, hlease⟩ :=
    exists_lease (n := 18446744073709552) "worker-7" (by decide) (by decide)
  have htext : String.ofList (Nat.toDigits 10 18446744073709552) = "18446744073709552" := by
    decide +kernel
  rw [htext] at hc
  have hsize := size_eq
  refine ⟨c, hc, hlease, by omega, ?_⟩
  rw [renewIntervalMs_eq (by omega), hlease]
  rfl

end PeerRules.Worker.Config
