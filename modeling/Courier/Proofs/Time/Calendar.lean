import Courier.Time

/-!
# Calendar — the days of the Gregorian calendar

The calendar has leap years and months of different lengths, and the days up to a date from 1970 on
are those of the years before it, those of its year's earlier months, and those of its month before
it (`Calendar.dayNumber`).  `Calendar.dateOf` does not count: it starts its years in March and
divides.  Both agree on every day from 1970-01-01 on (`dateOf_spec`).
-/

namespace Courier.Calendar

/-! ## Years and months -/

/-- Whether a year has a leap day. -/
def isLeap (year : Nat) : Bool :=
  year % 4 = 0 && (year % 100 ≠ 0 || year % 400 = 0)

/-- The days of a year. -/
def yearLength (year : Nat) : Nat :=
  if isLeap year then 366 else 365

/-- The days of a month, counted from one, in a year with a leap day or without. -/
def monthLength (leap : Bool) (month : Nat) : Nat :=
  match month with
  | 2 => if leap then 29 else 28
  | 4 | 6 | 9 | 11 => 30
  | _ => 31

theorem monthLength_le (leap : Bool) (month : Nat) : monthLength leap month ≤ 31 := by
  unfold monthLength
  cases leap <;> split <;> decide

/-- The days of the first years from 1970 on. -/
def daysOfYears : Nat → Nat
  | 0 => 0
  | n + 1 => daysOfYears n + yearLength (1970 + n)

/-- The days of the first months of a year. -/
def daysOfMonths (leap : Bool) : Nat → Nat
  | 0 => 0
  | n + 1 => daysOfMonths leap n + monthLength leap (n + 1)

/-- The days from 1970-01-01 to a date. -/
def dayNumber (year month day : Nat) : Nat :=
  daysOfYears (year - 1970) + daysOfMonths (isLeap year) (month - 1) + (day - 1)

/-- There is such a date, and it is not before 1970-01-01. -/
structure IsDate (year month day : Nat) : Prop where
  since : 1970 ≤ year
  inYear : 1 ≤ month ∧ month ≤ 12
  inMonth : 1 ≤ day ∧ day ≤ monthLength (isLeap year) month

instance (year month day : Nat) : Decidable (IsDate year month day) :=
  decidable_of_iff (1970 ≤ year ∧ (1 ≤ month ∧ month ≤ 12) ∧
      1 ≤ day ∧ day ≤ monthLength (isLeap year) month)
    ⟨fun h => ⟨h.1, h.2.1, h.2.2⟩, fun h => ⟨h.since, h.inYear, h.inMonth⟩⟩

/-! ## Counting leap days -/

/-- The leap days up to the end of a year. -/
def leapDays (year : Nat) : Nat :=
  year / 4 - year / 100 + year / 400

theorem leapDays_succ (year : Nat) :
    leapDays (year + 1) = leapDays year + (isLeap (year + 1)).toNat := by
  have h4 : (year + 1) / 4 = year / 4 + if (year + 1) % 4 = 0 then 1 else 0 := by split <;> omega
  have h100 : (year + 1) / 100 = year / 100 + if (year + 1) % 100 = 0 then 1 else 0 := by
    split <;> omega
  have h400 : (year + 1) / 400 = year / 400 + if (year + 1) % 400 = 0 then 1 else 0 := by
    split <;> omega
  have hcentury : (year + 1) % 100 = 0 → (year + 1) % 4 = 0 := by omega
  have hera : (year + 1) % 400 = 0 → (year + 1) % 100 = 0 := by omega
  have hle : year / 100 ≤ year / 4 := by omega
  rw [leapDays, leapDays, isLeap, h4, h100, h400]
  generalize year / 4 = a at *
  generalize year / 100 = b at *
  by_cases hx : (year + 1) % 4 = 0
  · by_cases hy : (year + 1) % 100 = 0 <;> by_cases hz : (year + 1) % 400 = 0
    · simp [hx, hy, hz]
      omega
    · simp [hx, hy, hz]
    · exact absurd (hera hz) hy
    · simp [hx, hy, hz]
      omega
  · have hy : ¬ (year + 1) % 100 = 0 := fun hy => hx (hcentury hy)
    have hz : ¬ (year + 1) % 400 = 0 := fun hz => hy (hera hz)
    simp [hx, hy, hz]

/-- Up to the end of 1969 there were 477 leap days. -/
theorem daysOfYears_eq (n : Nat) : daysOfYears n + 477 = 365 * n + leapDays (1969 + n) := by
  induction n with
  | zero => decide
  | succ n ih =>
      have hleap := leapDays_succ (1969 + n)
      have hyear : 1969 + n + 1 = 1970 + n := by omega
      rw [hyear] at hleap
      rw [daysOfYears, yearLength, show 1969 + (n + 1) = 1970 + n by omega, hleap]
      cases isLeap (1970 + n) <;> simp <;> omega

/-! ## Years that start in March -/

/-- The first day of a year that starts in March, among the days of four hundred of them. -/
def march (year : Nat) : Nat :=
  365 * year + year / 4 - year / 100

/-- The days of four hundred years that start in March, but for the leap days. -/
def plainDays (day : Nat) : Nat :=
  day - day / 1460 + day / 36524 - day / 146096

theorem plainDays_mono {a b : Nat} (h : a ≤ b) : plainDays a ≤ plainDays b := by
  have hyears : a - a / 1460 ≤ b - b / 1460 := by omega
  have hcenturies : a / 36524 - a / 146096 ≤ b / 36524 - b / 146096 := by omega
  rw [plainDays, plainDays]
  omega

/-- The first day of such a year is in that year, and the day before it is not. -/
theorem plainDays_march : ∀ year < 400, year ≤ plainDays (march year) / 365 ∧
    (0 < year → plainDays (march year - 1) / 365 < year) := by
  decide +kernel

/-- **THE YEAR OF A DAY**, among four hundred years that start in March. -/
theorem year_of_day {day : Nat} (h : day < 146097) :
    plainDays day / 365 < 400 ∧ march (plainDays day / 365) ≤ day ∧
      (day < march (plainDays day / 365 + 1) ∨ plainDays day / 365 = 399) := by
  have hlast : plainDays 146096 / 365 = 399 := by decide
  have hle := plainDays_mono (Nat.le_of_lt_succ h)
  have hyear : plainDays day / 365 < 400 := by omega
  refine ⟨hyear, Nat.le_of_not_lt fun hlt => ?_, ?_⟩
  · -- a day before the year is not in it, since years do not go back
    have hpos : 0 < plainDays day / 365 := by
      rcases Nat.eq_zero_or_pos (plainDays day / 365) with hzero | hpos
      · rw [hzero] at hlt
        exact absurd hlt (Nat.not_lt_zero day)
      · exact hpos
    have hbefore := (plainDays_march _ hyear).2 hpos
    have hmono := plainDays_mono (Nat.le_pred_of_lt hlt)
    rw [Nat.pred_eq_sub_one] at hmono
    omega
  · by_cases hnext : plainDays day / 365 + 1 < 400
    · refine Or.inl (Nat.lt_of_not_le fun hge => ?_)
      have hafter := (plainDays_march _ hnext).1
      have hmono := plainDays_mono hge
      omega
    · exact Or.inr (by omega)

/-- The month of a day in the year that starts in March, counted from zero. -/
def marchMonth (day : Nat) : Nat :=
  (5 * day + 2) / 153

/-- The day of the month, counted from one, of a day in the year that starts in March. -/
def marchDay (day : Nat) : Nat :=
  day - (153 * marchMonth day + 2) / 5 + 1

/-- Up to December the months are the third and those after it. -/
theorem month_of_day : ∀ day < 366, ∀ leap : Bool, marchMonth day < 10 →
    marchDay day ≤ monthLength leap (marchMonth day + 3) ∧
      daysOfMonths leap (marchMonth day + 2) + marchDay day = day + 60 + leap.toNat := by
  decide +kernel

/-- January and February are the first two months of the next year, and February has a leap day
    where the year that started in March has one. -/
theorem month_of_day_next : ∀ day < 366, ∀ leap : Bool, 10 ≤ marchMonth day →
    (day < 365 ∨ leap = true) →
    marchMonth day < 12 ∧ marchDay day ≤ monthLength leap (marchMonth day - 9) ∧
      daysOfMonths leap (marchMonth day - 10) + marchDay day + 305 = day := by
  decide +kernel

/-! ## The date of a day -/

/-- The year of a date, if the year that starts in March is this one. -/
def calendarYear (year day : Nat) : Nat :=
  if marchMonth day < 10 then year else year + 1

/-- The month of a date. -/
def calendarMonth (day : Nat) : Nat :=
  if marchMonth day < 10 then marchMonth day + 3 else marchMonth day - 9

/-- A day of a year that starts in March is a date of the calendar, and as many days after
    1970-01-01. -/
theorem date_of_march {year day : Nat} (hday : day < 365 + (isLeap (year + 1)).toNat)
    (hsince : 719468 ≤ 365 * year + leapDays year + day) :
    IsDate (calendarYear year day) (calendarMonth day) (marchDay day) ∧
      dayNumber (calendarYear year day) (calendarMonth day) (marchDay day) + 719468
        = 365 * year + leapDays year + day := by
  have hbound : day < 366 := by
    have hle := Bool.toNat_le (isLeap (year + 1))
    omega
  have hone : 1 ≤ marchDay day := Nat.le_add_left 1 _
  rw [calendarYear, calendarMonth]
  by_cases hm : marchMonth day < 10
  · rw [if_pos hm, if_pos hm]
    obtain ⟨hlength, hcount⟩ := month_of_day day hbound (isLeap year) hm
    have hdays : day < 306 := by
      rw [marchMonth] at hm
      omega
    obtain ⟨n, rfl⟩ : ∃ n, year = 1970 + n := by
      refine Nat.exists_eq_add_of_le ?_
      rw [leapDays] at hsince
      omega
    refine ⟨⟨by omega, by omega, hone, hlength⟩, ?_⟩
    have hyears := daysOfYears_eq n
    have hleap := leapDays_succ (1969 + n)
    rw [show 1969 + n + 1 = 1970 + n by omega] at hleap
    rw [dayNumber, Nat.add_sub_cancel_left,
      show marchMonth day + 3 - 1 = marchMonth day + 2 by omega]
    omega
  · rw [if_neg hm, if_neg hm]
    have hleap : day < 365 ∨ isLeap (year + 1) = true := by
      cases hl : isLeap (year + 1) with
      | false =>
          rw [hl] at hday
          exact Or.inl hday
      | true => exact Or.inr rfl
    obtain ⟨hlast, hlength, hcount⟩ :=
      month_of_day_next day hbound (isLeap (year + 1)) (Nat.le_of_not_lt hm) hleap
    obtain ⟨n, rfl⟩ : ∃ n, year = 1969 + n := by
      refine Nat.exists_eq_add_of_le ?_
      rw [leapDays] at hsince
      omega
    refine ⟨⟨by omega, by omega, hone, hlength⟩, ?_⟩
    have hyears := daysOfYears_eq n
    rw [dayNumber, show 1969 + n + 1 - 1970 = n by omega,
      show marchMonth day - 9 - 1 = marchMonth day - 10 by omega]
    omega

/-- The first days of the first four hundred years, by the leap days before them. -/
theorem march_eq {year : Nat} (h : year < 400) : march year = 365 * year + leapDays year := by
  rw [march, leapDays]
  omega

/-- A day of a year that starts in March, counted in that year, is less than its length. -/
theorem sub_march_lt {day year : Nat} (hday : day < 146097) (hyear : year < 400)
    (hnext : day < march (year + 1) ∨ year = 399) :
    day - march year < 365 + (isLeap (year + 1)).toNat := by
  have hlast : march 399 + 366 = 146097 := by decide
  have hlong : (isLeap (399 + 1)).toNat = 1 := by decide
  rcases Nat.lt_or_ge (year + 1) 400 with hsmall | hlarge
  · have hfirst := march_eq hyear
    have hsecond := march_eq hsmall
    have hleap := leapDays_succ year
    omega
  · obtain rfl : year = 399 := by omega
    omega

/-- Every four hundred years the leap years come again. -/
theorem isLeap_era (year era : Nat) : isLeap (year + 400 * era) = isLeap year := by
  have h4 : (year + 400 * era) % 4 = year % 4 := by omega
  have h100 : (year + 400 * era) % 100 = year % 100 := by omega
  have h400 : (year + 400 * era) % 400 = year % 400 := by omega
  rw [isLeap, isLeap, h4, h100, h400]

theorem leapDays_era (year era : Nat) :
    leapDays (year + 400 * era) = leapDays year + 97 * era := by
  rw [leapDays, leapDays]
  omega

/-- The date that is worked out for a day: of its year that starts in March, in an era of four
    hundred of them, and of its day in that year. -/
theorem dateOf_eq {n day era : Nat} (hday : (n + 719468) % 146097 = day)
    (hera : (n + 719468) / 146097 = era) :
    dateOf n = ((plainDays day / 365 : Nat) + (era : Int) * 400
        + (if calendarMonth (day - march (plainDays day / 365)) ≤ 2 then 1 else 0),
      calendarMonth (day - march (plainDays day / 365)),
      marchDay (day - march (plainDays day / 365))) := by
  have hdiv : Int.fdiv ((n : Int) + 719468) 146097 = (((n + 719468) / 146097 : Nat) : Int) :=
    (Int.ofNat_fdiv (n + 719468) 146097).symm
  have hmod : Int.fmod ((n : Int) + 719468) 146097 = (((n + 719468) % 146097 : Nat) : Int) :=
    (Int.ofNat_fmod (n + 719468) 146097).symm
  rw [dateOf]
  simp only [hdiv, hmod, Int.toNat_natCast, hday, hera]
  rfl

/-- **EVERY DAY FROM 1970-01-01 ON HAS ITS DATE.** -/
theorem dateOf_spec (n : Nat) : ∃ year month day, dateOf n = (((year : Nat) : Int), month, day) ∧
    IsDate year month day ∧ dayNumber year month day = n := by
  have hsplit := Nat.mod_add_div (n + 719468) 146097
  have hday : (n + 719468) % 146097 < 146097 := Nat.mod_lt _ (by decide)
  have hdate := dateOf_eq (n := n) rfl rfl
  generalize (n + 719468) % 146097 = day at *
  generalize (n + 719468) / 146097 = era at *
  obtain ⟨hyear, hlow, hnext⟩ := year_of_day hday
  have hrest := sub_march_lt hday hyear hnext
  generalize plainDays day / 365 = year at *
  -- leap days and leap years come again with every era
  have hfirst := march_eq hyear
  have hleapDays := leapDays_era year era
  have hleap := isLeap_era (year + 1) era
  rw [Nat.add_right_comm] at hleap
  rw [← hleap] at hrest
  obtain ⟨hisDate, hnumber⟩ := date_of_march hrest (by omega)
  refine ⟨_, _, _, hdate.trans (Prod.ext ?_ rfl), hisDate, by omega⟩
  have hbound := Bool.toNat_le (isLeap (year + 400 * era + 1))
  rw [calendarYear, calendarMonth, marchMonth]
  dsimp only
  split <;> split <;> omega

end Courier.Calendar
