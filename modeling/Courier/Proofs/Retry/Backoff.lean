import Courier.Retry.Strategy
import Mathlib.Algebra.Order.Ring.Nat

/-!
# Backoff — how long the exponential strategy waits

The exponential strategy is meant to wait the initial delay before the first retry, and twice as
long before each one after it, up to a limit (`Strategy.meant`).  What it multiplies with has
thirty-two bits and stops at the greatest number of them, so that after the thirty-second retry the
factor grows no more (`Strategy.factor_of_ge`).  Up to there the delay is the one that is meant.
Behind it everything hangs on whether the limit can be reached with the greatest factor
(`Strategy.Reachable`): if it can, the delay is as meant for ever, and if not, it stands still below
the limit (`Strategy.backoff_exact`).
-/

namespace Courier

attribute [ext] Duration

/-- A duration whose seconds are counted with sixty-four bits. -/
def Duration.Fits (d : Duration) : Prop :=
  d.nanos ≤ Duration.max.nanos

instance (d : Duration) : Decidable d.Fits :=
  inferInstanceAs (Decidable (d.nanos ≤ Duration.max.nanos))

namespace Strategy

/-! ## The factor -/

variable {m n : Nat}

theorem factor_of_le (h : n ≤ 32) : factor n = 2 ^ (n - 1) := by
  have hlt : n - 1 < 32 := by omega
  rw [factor, if_pos hlt]
  rfl

theorem factor_of_ge (h : 33 ≤ n) : factor n = maxFactor := by
  have hge : ¬ n - 1 < 32 := by omega
  rw [factor, if_neg hge]

/-- The factor is the power that is meant, or the greatest number where that is less. -/
theorem factor_eq_min (n : Nat) : factor n = min (2 ^ (n - 1)) maxFactor := by
  rcases Nat.lt_or_ge 32 n with h | h
  · have hpow : 2 ^ 32 ≤ 2 ^ (n - 1) := Nat.pow_le_pow_right (by decide) (by omega)
    have hmax : maxFactor ≤ 2 ^ 32 := by decide
    rw [factor_of_ge h, Nat.min_eq_right (hmax.trans hpow)]
  · have hpow : 2 ^ (n - 1) ≤ 2 ^ 31 := Nat.pow_le_pow_right (by decide) (by omega)
    have hmax : 2 ^ 31 ≤ maxFactor := by decide
    rw [factor_of_le h, Nat.min_eq_left (hpow.trans hmax)]

theorem factor_mono (h : m ≤ n) : factor m ≤ factor n := by
  have hpow : 2 ^ (m - 1) ≤ 2 ^ (n - 1) := Nat.pow_le_pow_right (by decide) (by omega)
  rw [factor_eq_min, factor_eq_min]
  omega

/-- The factor doubles as long as it fits. -/
theorem factor_succ (h : 1 ≤ n) (hn : n < 32) : factor (n + 1) = 2 * factor n := by
  rw [factor_of_le (by omega), factor_of_le (by omega), ← Nat.pow_succ']
  congr 1
  omega

/-- Twice a factor is more than the greatest, once it cannot double any more. -/
theorem lt_two_factor (h : 32 ≤ n) : maxFactor < 2 * factor n :=
  calc maxFactor < 2 * factor 32 := by decide
    _ ≤ 2 * factor n := Nat.mul_le_mul_left 2 (factor_mono h)

/-! ## The delay -/

/-- The delay that is meant before a retry: the initial one, doubled with every retry after the
    first, and no longer than the limit. -/
def meant (initial limit : Duration) (attempt : Nat) : Duration :=
  ⟨min (initial.nanos * 2 ^ (attempt - 1)) limit.nanos⟩

/-- The strategy can do what is meant for ever: there is nothing to double, or the greatest factor
    takes the initial delay up to the limit. -/
def Reachable (initial limit : Duration) : Prop :=
  initial.nanos = 0 ∨ limit.nanos ≤ initial.nanos * maxFactor

instance (initial limit : Duration) : Decidable (Reachable initial limit) :=
  inferInstanceAs (Decidable (initial.nanos = 0 ∨ limit.nanos ≤ initial.nanos * maxFactor))

variable {initial limit : Duration}

/-- No duration that fits is cut by the multiplication in front of the limit. -/
theorem delay_exponential (h : limit.Fits) (share n : Nat) :
    (exponential initial limit false).delay share n
      = ⟨min (initial.nanos * factor n) limit.nanos⟩ := by
  have hcut : min (min (initial.nanos * factor n) Duration.max.nanos) limit.nanos
      = min (initial.nanos * factor n) limit.nanos := by
    rw [Nat.min_assoc, Nat.min_eq_right (a := Duration.max.nanos) h]
  exact congrArg Duration.mk hcut

/-- **WHERE THE DELAY IS THE ONE THAT IS MEANT.** -/
theorem delay_eq_meant_iff (h : limit.Fits) (share : Nat) :
    (exponential initial limit false).delay share n = meant initial limit n
      ↔ n ≤ 32 ∨ Reachable initial limit := by
  rw [delay_exponential h, meant, Duration.mk.injEq, Reachable]
  rcases Nat.lt_or_ge 32 n with hn | hn
  · -- the factor stands, and the power that is meant is more
    have hpow : maxFactor < 2 ^ (n - 1) :=
      Nat.lt_of_lt_of_le (by decide : maxFactor < 2 ^ 32)
        (Nat.pow_le_pow_right (by decide) (by omega))
    rw [factor_of_ge hn]
    rcases Nat.eq_zero_or_pos initial.nanos with hzero | hpos
    · simp [hzero]
    · have hmul := Nat.mul_lt_mul_of_pos_left hpow hpos
      omega
  · simp [factor_of_le hn, hn]

/-- **WHERE THE NEXT DELAY IS TWICE AS LONG**, up to the limit. -/
theorem delay_succ_iff (hn : 1 ≤ n) :
    min (initial.nanos * factor (n + 1)) limit.nanos
        = min (2 * min (initial.nanos * factor n) limit.nanos) limit.nanos
      ↔ n < 32 ∨ Reachable initial limit := by
  rw [Reachable]
  rcases Nat.lt_or_ge n 32 with hlt | hge
  · have hdouble : initial.nanos * factor (n + 1) = 2 * (initial.nanos * factor n) := by
      rw [factor_succ hn hlt, Nat.mul_left_comm]
    omega
  · rw [factor_of_ge (by omega : 33 ≤ n + 1)]
    rcases Nat.eq_zero_or_pos initial.nanos with hzero | hpos
    · simp [hzero]
    · have hmul := Nat.mul_lt_mul_of_pos_left (lt_two_factor hge) hpos
      rw [Nat.mul_left_comm] at hmul
      omega

/-- **WHERE THE DELAY REACHES THE LIMIT** and stays there: the greatest factor decides. -/
theorem delay_reaches_iff :
    (∃ first, ∀ n, first ≤ n → min (initial.nanos * factor n) limit.nanos = limit.nanos)
      ↔ limit.nanos ≤ initial.nanos * maxFactor := by
  constructor
  · rintro ⟨first, hstays⟩
    have hlate := hstays (first + 33) (by omega)
    rw [factor_of_ge (by omega)] at hlate
    omega
  · intro hreach
    refine ⟨33, fun n hn => ?_⟩
    rw [factor_of_ge hn, Nat.min_eq_right hreach]

/-- **THE EXPONENTIAL STRATEGY WITHOUT JITTER**, for any retry. -/
structure BacksOff (initial limit : Duration) (share : Nat) : Prop where
  /-- The delay is the initial one times a power of two that stops at the greatest number of
  thirty-two bits, and no longer than the limit. -/
  value : ∀ n, 1 ≤ n → (exponential initial limit false).delay share n
    = ⟨min (initial.nanos * min (2 ^ (n - 1)) maxFactor) limit.nanos⟩
  fits : ∀ n, 1 ≤ n → ((exponential initial limit false).delay share n).Fits
  /-- It is the delay that is meant for thirty-two retries, and behind these where the limit is
  within reach, and there alone. -/
  asMeant : ∀ n, 1 ≤ n → ((exponential initial limit false).delay share n = meant initial limit n
    ↔ n ≤ 32 ∨ Reachable initial limit)
  neverShorter : ∀ m n, m ≤ n → ((exponential initial limit false).delay share m).nanos
    ≤ ((exponential initial limit false).delay share n).nanos
  /-- Each is twice the one before, up to the limit, in the same cases. -/
  doubles : ∀ n, 1 ≤ n → (((exponential initial limit false).delay share (n + 1)).nanos
      = min (2 * ((exponential initial limit false).delay share n).nanos) limit.nanos
    ↔ n < 32 ∨ Reachable initial limit)
  /-- It comes to the limit and stays there just where the greatest factor takes it so far. -/
  arrives : (∃ first, ∀ n, first ≤ n → (exponential initial limit false).delay share n = limit)
    ↔ limit.nanos ≤ initial.nanos * maxFactor

/-- **THE DELAYS ARE EXACT** up to the factor that stops: for any initial delay and any limit. -/
theorem backoff_exact (initial limit : Duration) (h : limit.Fits) (share : Nat) :
    BacksOff initial limit share where
  value n _ := by
    rw [delay_exponential h, factor_eq_min]
  fits n _ := by
    rw [delay_exponential h]
    exact (Nat.min_le_right _ _).trans h
  asMeant n _ := delay_eq_meant_iff h share
  neverShorter m n hmn := by
    have hmul := Nat.mul_le_mul_left initial.nanos (factor_mono hmn)
    rw [delay_exponential h, delay_exponential h]
    exact min_le_min_right limit.nanos hmul
  doubles n hn := by
    rw [delay_exponential h, delay_exponential h]
    exact delay_succ_iff hn
  arrives := by
    simp only [delay_exponential h, Duration.ext_iff]
    exact delay_reaches_iff

/-- A second, doubled without end: the greatest duration is out of reach. -/
theorem backoff_exact_of_second :
    Duration.max.Fits ∧ BacksOff (.ofMillis 1000) .max 0 ∧ ¬ Reachable (.ofMillis 1000) .max ∧
      (exponential (.ofMillis 1000) .max false).delay 0 40 = .ofMillis 4294967295000 := by
  have hfits : Duration.max.Fits := Nat.le_refl _
  have hback := backoff_exact (.ofMillis 1000) .max hfits 0
  refine ⟨hfits, hback, by decide, ?_⟩
  rw [hback.value 40 (by decide)]
  decide +kernel

/-- **A FACTOR THAT STOPS FALLS SHORT.**  A nanosecond is to be doubled up to five seconds.  Before
    the thirty-third retry the delay is a nanosecond less than is meant, and it grows no more, so
    that the limit is never reached. -/
theorem backoff_falls_short :
    (exponential ⟨1⟩ ⟨5000000000⟩ false).delay 0 33 = ⟨4294967295⟩ ∧
      meant ⟨1⟩ ⟨5000000000⟩ 33 = ⟨4294967296⟩ ∧
      meant ⟨1⟩ ⟨5000000000⟩ 34 = ⟨5000000000⟩ ∧
      ∀ n, 33 ≤ n → (exponential ⟨1⟩ ⟨5000000000⟩ false).delay 0 n = ⟨4294967295⟩ := by
  have hfits : Duration.Fits ⟨5000000000⟩ := by decide
  have hrests : ∀ n, 33 ≤ n →
      (exponential ⟨1⟩ ⟨5000000000⟩ false).delay 0 n = ⟨4294967295⟩ := by
    intro n hn
    rw [delay_exponential hfits, factor_of_ge hn]
    decide
  exact ⟨hrests 33 (Nat.le_refl _), by simp [meant], by simp [meant], hrests⟩

end Strategy

end Courier
