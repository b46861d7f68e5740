import Courier.Proofs.Time.Calendar
import Mathlib.Algebra.Order.Ring.Nat

/-!
# Instants — reading a written instant back

A reader of the extended format takes one number after the other, each up to the character that ends
it (`field?`): the month, the day and the parts of the clock in fixed widths, the year in four
digits or, behind a sign, in as many as it has.  It refuses what is no date of the calendar and no
time of the day.  Of the text of an instant from 1970 on it makes the milliseconds that have gone by
since then (`instant_reads_back`).
-/

namespace Courier.Numeral

/-! ## Numbers -/

/-- The number that some digits write. -/
def number? (cs : List Char) : Option Nat :=
  if !cs.isEmpty && cs.all Char.isDigit then some (Nat.ofDigitChars 10 cs 0) else none

/-- A number of so many digits, and what comes after the character that ends it. -/
def field? (width : Nat) (stop : Char) (cs : List Char) : Option (Nat × List Char) :=
  match cs.drop width with
  | [] => none
  | c :: rest => if c = stop then (number? (cs.take width)).map fun n => (n, rest) else none

/-- A number of however many digits there are, and what comes after the character that ends it. -/
def openField? (stop : Char) (cs : List Char) : Option (Nat × List Char) :=
  field? (cs.takeWhile Char.isDigit).length stop cs

section Digits

variable {width n : Nat}

theorem isDigit_of_mem_digits {c : Char} (h : c ∈ digits n) : c.isDigit = true :=
  Nat.isDigit_of_mem_toDigits (by decide) (by decide) h

theorem isDigit_of_mem_padded {c : Char} (h : c ∈ padded width n) : c.isDigit = true := by
  rcases List.mem_append.mp h with hzero | hdigit
  · rw [List.eq_of_mem_replicate hzero]
    rfl
  · exact isDigit_of_mem_digits hdigit

theorem blank_not_mem_digits (n : Nat) : ' ' ∉ digits n := fun h =>
  absurd (isDigit_of_mem_digits h) (by decide)

theorem blank_not_mem_padded (width n : Nat) : ' ' ∉ padded width n := fun h =>
  absurd (isDigit_of_mem_padded h) (by decide)

theorem number?_of_isDigit {cs : List Char} (hne : cs ≠ []) (hcs : ∀ c ∈ cs, c.isDigit = true) :
    number? cs = some (Nat.ofDigitChars 10 cs 0) := by
  rw [number?, List.all_eq_true.mpr hcs, List.isEmpty_eq_false_iff.mpr hne]
  rfl

theorem number?_digits (n : Nat) : number? (digits n) = some n := by
  have hne : digits n ≠ [] := Nat.toDigits_ne_nil
  rw [number?_of_isDigit hne fun c => isDigit_of_mem_digits, digits, Nat.ofDigitChars_ten_toDigits]

theorem number?_padded (width n : Nat) : number? (padded width n) = some n := by
  have hne : padded width n ≠ [] := fun h => Nat.toDigits_ne_nil (List.append_eq_nil_iff.mp h).2
  rw [number?_of_isDigit hne fun c => isDigit_of_mem_padded, padded, Nat.ofDigitChars_append,
    Nat.ofDigitChars_replicate_zero, Nat.mul_zero, digits, Nat.ofDigitChars_ten_toDigits]

/-- A number that needs no more digits than the width has just as many. -/
theorem length_padded (hw : 0 < width) (h : n < 10 ^ width) : (padded width n).length = width := by
  have hle : (digits n).length ≤ width := (Nat.length_toDigits_le_iff (by decide) hw).mpr h
  rw [padded, List.length_append, List.length_replicate]
  omega

/-- A number that needs more digits than the width is not padded. -/
theorem width_lt_length (hw : 0 < width) (h : 10 ^ width ≤ n) : width < (digits n).length :=
  Nat.lt_of_not_le fun hle =>
    Nat.not_lt_of_le h ((Nat.length_toDigits_le_iff (by decide) hw).mp hle)

end Digits

section Fields

variable {n : Nat} {cs rest : List Char} {stop : Char}

/-- **THE DIGITS OF A NUMBER ARE READ** up to the character that ends them. -/
theorem field?_append (h : number? cs = some n) :
    field? cs.length stop (cs ++ stop :: rest) = some (n, rest) := by
  rw [field?, List.drop_left]
  dsimp only
  rw [if_pos rfl, List.take_left, h]
  rfl

theorem field?_padded {width : Nat} (hw : 0 < width) (h : n < 10 ^ width) :
    field? width stop (padded width n ++ stop :: rest) = some (n, rest) := by
  have hread : field? (padded width n).length stop (padded width n ++ stop :: rest)
      = some (n, rest) := field?_append (number?_padded width n)
  rwa [length_padded hw h] at hread

/-- However many digits there are, they are told from the character that ends them. -/
theorem takeWhile_digits (hcs : ∀ c ∈ cs, c.isDigit = true) (hstop : stop.isDigit = false) :
    (cs ++ stop :: rest).takeWhile Char.isDigit = cs := by
  rw [List.takeWhile_append_of_pos hcs, List.takeWhile_cons_of_neg (by simp [hstop]),
    List.append_nil]

theorem openField?_digits (hstop : stop.isDigit = false) :
    openField? stop (digits n ++ stop :: rest) = some (n, rest) := by
  rw [openField?, takeWhile_digits (fun c => isDigit_of_mem_digits) hstop]
  exact field?_append (number?_digits n)

end Fields

end Courier.Numeral

namespace Courier.Calendar

open Numeral

/-! ## Instants -/

/-- A year and what comes after the dash that ends it: more than four digits behind a sign, and just
    four without one. -/
def yearField? : List Char → Option (Nat × List Char)
  | '+' :: cs => if 4 < (cs.takeWhile Char.isDigit).length then openField? '-' cs else none
  | cs => field? 4 '-' cs

/-- The milliseconds from 1970-01-01 to a time of a day. -/
def millisAt (year month day hour minute second milli : Nat) : Nat :=
  (((dayNumber year month day * 24 + hour) * 60 + minute) * 60 + second) * 1000 + milli

/-- The milliseconds from 1970-01-01 to the instant that a text writes in the extended format, in
    universal time and with milliseconds. -/
def instant? (cs : List Char) : Option Nat := do
  let (year, cs) ← yearField? cs
  let (month, cs) ← field? 2 '-' cs
  let (day, cs) ← field? 2 'T' cs
  let (hour, cs) ← field? 2 ':' cs
  let (minute, cs) ← field? 2 ':' cs
  let (second, cs) ← field? 2 '.' cs
  let (milli, cs) ← field? 3 'Z' cs
  if cs = [] ∧ IsDate year month day ∧ hour < 24 ∧ minute < 60 ∧ second < 60 then
    some (millisAt year month day hour minute second milli)
  else none

theorem yearChars_natCast (year : Nat) :
    yearChars year = if 9999 < year then '+' :: digits year else padded 4 year := by
  have hneg : ¬ (year : Int) < 0 := Int.not_lt.mpr (Int.natCast_nonneg year)
  rw [yearChars, if_neg hneg, Int.natAbs_natCast]
  split <;> split <;> first | rfl | omega

/-- Every year reads back, with a sign or without. -/
theorem yearField?_yearChars (year : Nat) (rest : List Char) :
    yearField? (yearChars year ++ '-' :: rest) = some (year, rest) := by
  rw [yearChars_natCast]
  split
  · next hlong =>
      have hwidth : 4 < (digits year).length := width_lt_length (by decide) hlong
      rw [List.cons_append, yearField?,
        takeWhile_digits (fun c => isDigit_of_mem_digits) rfl, if_pos hwidth]
      exact openField?_digits rfl
  · next hshort =>
      have hread : field? 4 '-' (padded 4 year ++ '-' :: rest) = some (year, rest) :=
        field?_padded (by decide) (by omega)
      cases hp : padded 4 year with
      | nil =>
          have hlength : (padded 4 year).length = 4 := length_padded (by decide) (by omega)
          rw [hp] at hlength
          cases hlength
      | cons c cs =>
          have hplus : c ≠ '+' := by
            rintro rfl
            exact absurd (isDigit_of_mem_padded (hp ▸ List.mem_cons_self)) (by decide)
          rw [hp] at hread
          rw [List.cons_append, yearField?]
          · exact hread
          · rintro cs' ⟨⟩
            exact hplus rfl

/-- The text of an instant from 1970 on, by its milliseconds. -/
theorem instantChars_eq {nanos : Int} (h : 0 ≤ nanos) {millis year month day : Nat}
    (hmillis : nanos.toNat / 1000000 = millis)
    (hdate : dateOf ((millis / 1000 / 86400 : Nat) : Int) = ((year : Int), month, day)) :
    instantChars nanos = yearChars year ++ '-' :: (padded 2 month ++ '-' :: (padded 2 day ++
      'T' :: (padded 2 (millis / 1000 % 86400 / 3600) ++ ':' ::
      (padded 2 (millis / 1000 % 86400 / 60 % 60) ++ ':' ::
      (padded 2 (millis / 1000 % 86400 % 60) ++ '.' ::
      (padded 3 (millis % 1000) ++ ['Z'])))))) := by
  have hnanos : Int.fdiv nanos 1000000 = (millis : Int) := by
    rw [← Int.toNat_of_nonneg h, ← hmillis]
    exact (Int.ofNat_fdiv nanos.toNat 1000000).symm
  have hseconds : Int.fdiv (millis : Int) 1000 = ((millis / 1000 : Nat) : Int) :=
    (Int.ofNat_fdiv millis 1000).symm
  have hmilli : Int.fmod (millis : Int) 1000 = ((millis % 1000 : Nat) : Int) :=
    (Int.ofNat_fmod millis 1000).symm
  have hday : Int.fdiv ((millis / 1000 : Nat) : Int) 86400
      = ((millis / 1000 / 86400 : Nat) : Int) :=
    (Int.ofNat_fdiv (millis / 1000) 86400).symm
  have hclock : Int.fmod ((millis / 1000 : Nat) : Int) 86400
      = ((millis / 1000 % 86400 : Nat) : Int) :=
    (Int.ofNat_fmod (millis / 1000) 86400).symm
  simp only [instantChars, hnanos, hseconds, hmilli, hday, hclock, hdate, Int.toNat_natCast,
    List.append_assoc, List.cons_append]

/-- The parts of a clock make up the milliseconds. -/
theorem millis_parts (millis : Nat) :
    (((millis / 1000 / 86400 * 24 + millis / 1000 % 86400 / 3600) * 60
      + millis / 1000 % 86400 / 60 % 60) * 60 + millis / 1000 % 86400 % 60) * 1000
      + millis % 1000 = millis := by
  have hmillis := Nat.div_add_mod millis 1000
  generalize millis / 1000 = seconds at *
  have hseconds := Nat.div_add_mod seconds 86400
  have hclock : (seconds % 86400 / 3600 * 60 + seconds % 86400 / 60 % 60) * 60
      + seconds % 86400 % 60 = seconds % 86400 := by omega
  omega

/-- **AN INSTANT READS BACK** rounded down to the millisecond, if it is not before 1970-01-01. -/
theorem instant_reads_back {nanos : Int} (h : 0 ≤ nanos) :
    instant? (instantChars nanos) = some (nanos.toNat / 1000000) := by
  obtain ⟨millis, hmillis⟩ : ∃ millis, nanos.toNat / 1000000 = millis := ⟨_, rfl⟩
  obtain ⟨year, month, day, hdate, hisDate, hnumber⟩ := dateOf_spec (millis / 1000 / 86400)
  have hmonth : month < 10 ^ 2 := by
    have hle := hisDate.inYear.2
    omega
  have hday : day < 10 ^ 2 := by
    have hle := Nat.le_trans hisDate.inMonth.2 (monthLength_le (isLeap year) month)
    omega
  rw [instantChars_eq h hmillis hdate, hmillis, instant?]
  simp (disch := omega) only [yearField?_yearChars, field?_padded, Option.bind_eq_bind,
    Option.bind_some]
  rw [if_pos ⟨trivial, hisDate, by omega, by omega, by omega⟩, millisAt, hnumber, millis_parts]

/-- No blank is in the text of an instant from 1970 on. -/
theorem blank_not_mem_instantChars {nanos : Int} (h : 0 ≤ nanos) :
    ' ' ∉ instantChars nanos := by
  obtain ⟨year, month, day, hdate, -, -⟩ := dateOf_spec (nanos.toNat / 1000000 / 1000 / 86400)
  have hyear : ' ' ∉ yearChars year := by
    rw [yearChars_natCast]
    split
    · simp [blank_not_mem_digits]
    · exact blank_not_mem_padded 4 year
  rw [instantChars_eq h rfl hdate]
  simp [hyear, blank_not_mem_padded]

end Courier.Calendar
