import Courier.Cache.Stats
import Courier.Proofs.Retry.Backoff

/-!
# Mean load — the mean time of a load, to the nanosecond

The mean time of a load is worked out in two ways.  While the loads are counted in thirty-two bits,
seconds and nanoseconds are divided apart, and what is left over of the seconds is carried into the
nanoseconds (`Duration.divide?_eq`).  From then on all nanoseconds are divided at once, and the
quotient is cut to sixty-four bits (`Duration.divideWide?_eq`).  Neither way ever overflows, divides
by zero or cuts anything off where it is taken, and on a long stretch below the change from one to
the other both give the same, which is the quotient rounded down (`CacheStats.mean_exact`).
-/

namespace Courier

namespace Duration

variable {d : Duration} {bits n k : Nat}

/-- A duration is the share of some loads of another, rounded down to the nanosecond. -/
def IsShare (share total : Duration) (k : Nat) : Prop :=
  share.nanos * k ≤ total.nanos ∧ total.nanos < (share.nanos + 1) * k

theorem isShare_div (d : Duration) (hk : 0 < k) : IsShare ⟨d.nanos / k⟩ d k :=
  ⟨Nat.div_mul_le_self d.nanos k, Nat.lt_mul_of_div_lt (Nat.lt_succ_self _) hk⟩

/-! ## Parts of a duration -/

theorem nanos_eq (d : Duration) : d.nanos = d.seconds * perSecond + d.fraction :=
  (Nat.div_add_mod' d.nanos perSecond).symm

theorem fraction_lt (d : Duration) : d.fraction < perSecond :=
  Nat.mod_lt _ (by decide)

/-- The seconds of a duration have sixty-four bits. -/
theorem Fits.seconds_lt (h : d.Fits) : d.seconds < Nat.pow 2 64 := by
  have hlt : d.nanos < Nat.pow 2 64 * perSecond := Nat.lt_of_le_pred (by decide) h
  exact (Nat.div_lt_iff_lt_mul (by decide)).mpr hlt

theorem fit_of_lt (h : n < Nat.pow 2 bits) : fit bits n = some n :=
  if_pos h

/-- Less than a second's worth of nanoseconds carries nothing over. -/
theorem ofParts?_eq {seconds nanos : Nat} (hs : seconds < Nat.pow 2 64) (hn : nanos < perSecond) :
    ofParts? seconds nanos = some ⟨seconds * perSecond + nanos⟩ := by
  rw [ofParts?, Nat.div_eq_of_lt hn, Nat.add_zero, fit_of_lt hs, Nat.mod_eq_of_lt hn]
  rfl

/-! ## The two ways to divide -/

/-- The nanoseconds of a quotient: those of the nanoseconds, and those of what is left over. -/
theorem fraction_div (f r : Nat) (hk : 0 < k) :
    f / k + (r * perSecond + f % k) / k = (r * perSecond + f) / k := by
  have hsplit : r * perSecond + f = r * perSecond + f % k + k * (f / k) := by
    rw [Nat.add_assoc, Nat.mod_add_div]
  rw [hsplit, Nat.add_mul_div_left _ _ hk, Nat.add_comm]

/-- The seconds of a quotient and its nanoseconds. -/
theorem nanos_div (d : Duration) (hk : 0 < k) :
    d.seconds / k * perSecond + (d.seconds % k * perSecond + d.fraction) / k = d.nanos / k := by
  have hsplit : d.nanos
      = d.seconds % k * perSecond + d.fraction + k * (d.seconds / k * perSecond) := by
    calc d.nanos = (d.seconds % k + k * (d.seconds / k)) * perSecond + d.fraction := by
          rw [Nat.mod_add_div]
          exact d.nanos_eq
      _ = d.seconds % k * perSecond + d.fraction + k * (d.seconds / k * perSecond) := by
          rw [Nat.add_mul, Nat.mul_assoc, Nat.add_right_comm]
  rw [hsplit, Nat.add_mul_div_left _ _ hk, Nat.add_comm]

/-- **DIVIDING BY PARTS** gives the quotient, for every number of thirty-two bits but zero. -/
theorem divide?_eq (h : d.Fits) (hk : 0 < k) (hbits : k < Nat.pow 2 32) :
    d.divide? k = some ⟨d.nanos / k⟩ := by
  have hleft : d.seconds % k < k := Nat.mod_lt _ hk
  have hrest : d.fraction % k < k := Nat.mod_lt _ hk
  have hfraction := d.fraction_lt
  -- what is left over is less than a second for each load, so it fits, and so does its quotient
  have hshare : (d.seconds % k * perSecond + d.fraction) / k < perSecond := by
    refine (Nat.div_lt_iff_lt_mul hk).mpr ?_
    calc d.seconds % k * perSecond + d.fraction
        < d.seconds % k * perSecond + perSecond := Nat.add_lt_add_left hfraction _
      _ = (d.seconds % k + 1) * perSecond := (Nat.succ_mul _ _).symm
      _ ≤ k * perSecond := Nat.mul_le_mul_right _ hleft
      _ = perSecond * k := Nat.mul_comm _ _
  have hcarried : d.seconds % k * perSecond + d.fraction % k < Nat.pow 2 64 := by
    have hmul : d.seconds % k * perSecond ≤ Nat.pow 2 32 * perSecond :=
      Nat.mul_le_mul_right _ (by omega)
    have hroom : Nat.pow 2 32 * perSecond + Nat.pow 2 32 ≤ Nat.pow 2 64 := by decide
    omega
  have hsum := fraction_div d.fraction (d.seconds % k) hk
  have hword : perSecond ≤ Nat.pow 2 32 := by decide
  have hnarrow : (d.seconds % k * perSecond + d.fraction % k) / k < Nat.pow 2 32 :=
    calc (d.seconds % k * perSecond + d.fraction % k) / k
        ≤ d.fraction / k + (d.seconds % k * perSecond + d.fraction % k) / k := Nat.le_add_left _ _
      _ < perSecond := hsum ▸ hshare
      _ ≤ Nat.pow 2 32 := hword
  have hquotient : d.seconds / k < Nat.pow 2 64 :=
    Nat.lt_of_le_of_lt (Nat.div_le_self _ _) h.seconds_lt
  rw [divide?, if_neg hk.ne', fit_of_lt (by omega), Option.bind_some, fit_of_lt hcarried,
    Option.bind_some, Nat.mod_eq_of_lt hnarrow, hsum, fit_of_lt (by omega), Option.bind_some,
    ofParts?_eq hquotient hshare, nanos_div d hk]

theorem wide?_eq (h : d.Fits) : d.wide? = some d.nanos := by
  have hmax : Duration.max.nanos < Nat.pow 2 128 := by decide
  have hnanos := d.nanos_eq
  have hle : d.nanos ≤ Duration.max.nanos := h
  rw [wide?, fit_of_lt (by omega), Option.bind_some, ← hnanos, fit_of_lt (by omega)]

/-- The quotient by a thousand million or more has sixty-four bits. -/
theorem Fits.div_lt (h : d.Fits) (hk : perSecond ≤ k) : d.nanos / k < Nat.pow 2 64 := by
  have hlt : d.nanos < Nat.pow 2 64 * perSecond := Nat.lt_of_le_pred (by decide) h
  have hpos : 0 < k := Nat.lt_of_lt_of_le (by decide) hk
  exact (Nat.div_lt_iff_lt_mul hpos).mpr
    (Nat.lt_of_lt_of_le hlt (Nat.mul_le_mul_left (Nat.pow 2 64) hk))

/-- **DIVIDING AT ONCE** gives the quotient, and cuts nothing off, from a thousand million on. -/
theorem divideWide?_eq (h : d.Fits) (hk : perSecond ≤ k) :
    d.divideWide? k = some ⟨d.nanos / k⟩ := by
  have hpos : 0 < k := Nat.lt_of_lt_of_le (by decide) hk
  have hcut : Nat.min (d.nanos / k) (Nat.pow 2 64 - 1) = d.nanos / k :=
    Nat.min_eq_left (Nat.le_pred_of_lt (h.div_lt hk))
  rw [divideWide?, if_neg hpos.ne', wide?_eq h, Option.map_some, hcut]

end Duration

namespace CacheStats

open Duration

variable {s : CacheStats}

/-- The mean time is the quotient, whichever way it is worked out. -/
theorem loadPenalty?_eq (h : s.loadTime.Fits) (hloads : s.loads ≠ 0) :
    s.loadPenalty? = some ⟨s.loadTime.nanos / s.loads⟩ := by
  by_cases hbits : s.loads < Nat.pow 2 32
  · rw [loadPenalty?, if_pos hbits, if_neg hloads]
    exact divide?_eq h (Nat.pos_of_ne_zero hloads) hbits
  · have hsecond : perSecond ≤ Nat.pow 2 32 := by decide
    rw [loadPenalty?, if_neg hbits]
    exact divideWide?_eq h (hsecond.trans (Nat.le_of_not_lt hbits))

/-- **THE MEAN TIME OF A LOAD IS EXACT.**  There always is one.  It is no time before any load has
    ended, and after that the time of all loads divided by their number, rounded down.  By parts the
    time can be divided by every number of thirty-two bits, and as a whole by every number from a
    thousand million on, without being cut; where both ways are open they agree. -/
theorem mean_exact (s : CacheStats) (h : s.loadTime.Fits) :
    s.loads = min (s.successes + s.failures) maxCount ∧
      (s.loads = 0 → s.loadPenalty? = some .zero) ∧
      (s.loads ≠ 0 → ∃ mean, s.loadPenalty? = some mean ∧ mean.IsShare s.loadTime s.loads) ∧
      (∀ k, 0 < k → k < Nat.pow 2 32 →
        ∃ mean, s.loadTime.divide? k = some mean ∧ mean.IsShare s.loadTime k) ∧
      (∀ k, perSecond ≤ k → s.loadTime.nanos / k < Nat.pow 2 64 ∧
        ∃ mean, s.loadTime.divideWide? k = some mean ∧ mean.IsShare s.loadTime k) ∧
      ∀ k, perSecond ≤ k → k < Nat.pow 2 32 →
        s.loadTime.divide? k = s.loadTime.divideWide? k := by
  have hpos : ∀ k, perSecond ≤ k → 0 < k := fun k hk => Nat.lt_of_lt_of_le (by decide) hk
  refine ⟨rfl, ?_, ?_, ?_, ?_, ?_⟩
  · intro hzero
    rw [loadPenalty?, hzero]
    rfl
  · intro hloads
    exact ⟨_, loadPenalty?_eq h hloads, isShare_div _ (Nat.pos_of_ne_zero hloads)⟩
  · intro k hk hbits
    exact ⟨_, divide?_eq h hk hbits, isShare_div _ hk⟩
  · intro k hk
    exact ⟨h.div_lt hk, _, divideWide?_eq h hk, isShare_div _ (hpos k hk)⟩
  · intro k hk hbits
    rw [divide?_eq h (hpos k hk) hbits, divideWide?_eq h hk]

/-- Four thousand million loads that took the longest time there is: the last number of loads whose
    time is divided by parts, and the first whose time is divided as a whole. -/
theorem mean_exact_around_change :
    let busy : CacheStats := { CacheStats.zero with
      successes := Nat.pow 2 32, loadTime := Duration.max }
    busy.loadTime.Fits ∧ busy.loads = Nat.pow 2 32 ∧
      (∃ mean, busy.loadPenalty? = some mean ∧ mean.IsShare busy.loadTime busy.loads) ∧
      ∃ mean, busy.loadTime.divide? (Nat.pow 2 32 - 1) = some mean ∧
        mean.IsShare busy.loadTime (Nat.pow 2 32 - 1) := by
  intro busy
  have hfits : busy.loadTime.Fits := Nat.le_refl _
  obtain ⟨hloads, -, hmean, hparts, -, -⟩ := mean_exact busy hfits
  exact ⟨hfits, by decide, hmean (by decide), hparts _ (by decide) (by decide)⟩

end CacheStats

end Courier
