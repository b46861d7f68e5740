import Courier.Decimal.Numeral

/-!
# Durations and dates

Durations are whole nanoseconds. The greatest one has as many seconds as sixty-four bits can count.
An instant on the wall clock is written in the proleptic Gregorian calendar, in universal time and
to the millisecond, rounded down.
-/

namespace Courier

/-- A length of time. -/
structure Duration where
  nanos : Nat
  deriving Repr, DecidableEq, Inhabited

namespace Duration

/-- The nanoseconds of a second. -/
def perSecond : Nat := 1000000000

/-- The nanoseconds of a millisecond. -/
def perMilli : Nat := 1000000

/-- No time. -/
def zero : Duration := ⟨0⟩

/-- The greatest duration. -/
def max : Duration := ⟨Nat.pow 2 64 * perSecond - 1⟩

/-- A duration in milliseconds. -/
def ofMillis (n : Nat) : Duration := ⟨n * perMilli⟩

/-- The whole milliseconds. -/
def millis (d : Duration) : Nat := d.nanos / perMilli

/-- The milliseconds, an unfinished one counted whole. -/
def millisUp (d : Duration) : Nat := (d.nanos + (perMilli - 1)) / perMilli

/-- The duration times a number, or the greatest one where that is less. -/
def scale (d : Duration) (k : Nat) : Duration := ⟨Nat.min (d.nanos * k) max.nanos⟩

/-- The shorter of two. -/
def min (a b : Duration) : Duration := ⟨Nat.min a.nanos b.nanos⟩

/-- The whole seconds. -/
def seconds (d : Duration) : Nat := d.nanos / perSecond

/-- The nanoseconds beyond the whole seconds. -/
def fraction (d : Duration) : Nat := d.nanos % perSecond

/-- A number that has to fit so many bits; there is none where it does not. -/
def fit (bits n : Nat) : Option Nat :=
  if n < Nat.pow 2 bits then some n else none

/-- The duration of some seconds and nanoseconds; a second's worth of nanoseconds is carried over. -/
def ofParts? (seconds nanos : Nat) : Option Duration :=
  (fit 64 (seconds + nanos / perSecond)).map fun s => ⟨s * perSecond + nanos % perSecond⟩

/-- A duration divided by a number of thirty-two bits. Seconds and nanoseconds are divided apart, and
what is left over of the seconds is divided with what is left over of the nanoseconds. There is no
quotient by zero, and none where a step overflows. -/
def divide? (d : Duration) (k : Nat) : Option Duration :=
  if k = 0 then none
  else
    (fit 64 (d.seconds % k * perSecond)).bind fun carried =>
      (fit 64 (carried + d.fraction % k)).bind fun left =>
        (fit 32 (d.fraction / k + left / k % Nat.pow 2 32)).bind fun nanos =>
          ofParts? (d.seconds / k) nanos

/-- All nanoseconds, in a hundred and twenty-eight bits. -/
def wide? (d : Duration) : Option Nat :=
  (fit 128 (d.seconds * perSecond)).bind fun whole => fit 128 (whole + d.fraction)

/-- A duration divided by a number of sixty-four bits. All nanoseconds are divided at once, and the
quotient stops at the greatest number of sixty-four bits. -/
def divideWide? (d : Duration) (k : Nat) : Option Duration :=
  if k = 0 then none
  else d.wide?.map fun n => ⟨Nat.min (n / k) (Nat.pow 2 64 - 1)⟩

end Duration

/-- A moment: the nanoseconds since the clocks were started, and the nanoseconds since 1970-01-01
on the wall clock. -/
structure Moment where
  elapsed : Nat
  wall : Int
  deriving Repr, DecidableEq, Inhabited

namespace Calendar

/-- A day, counted from 1970-01-01, as year, month and day. Years are taken to start in March, so
that a leap day is the last day of its year; four hundred of them have 146097 days. -/
def dateOf (day : Int) : Int × Nat × Nat :=
  let z := day + 719468
  let era := Int.fdiv z 146097
  let doe := (Int.fmod z 146097).toNat
  let yoe := (doe - doe / 1460 + doe / 36524 - doe / 146096) / 365
  let doy := doe - (365 * yoe + yoe / 4 - yoe / 100)
  let mp := (5 * doy + 2) / 153
  let d := doy - (153 * mp + 2) / 5 + 1
  let m := if mp < 10 then mp + 3 else mp - 9
  let y := (yoe : Int) + era * 400 + (if m ≤ 2 then 1 else 0)
  (y, m, d)

/-- Whether the calendar reaches an instant: it has the years from -262143 to 262142. -/
def reaches (nanos : Int) : Bool :=
  -8334601228800 * Duration.perSecond ≤ nanos && nanos < 8210266876800 * Duration.perSecond

open Numeral in
/-- A year: four digits, and a sign where it is not between 0 and 9999. -/
def yearChars (y : Int) : List Char :=
  if y < 0 then '-' :: padded 4 y.natAbs
  else if y > 9999 then '+' :: digits y.natAbs
  else padded 4 y.natAbs

open Numeral in
/-- An instant, in nanoseconds since 1970-01-01, in the extended format with milliseconds. -/
def instantChars (nanos : Int) : List Char :=
  let millis := Int.fdiv nanos 1000000
  let seconds := Int.fdiv millis 1000
  let clock := (Int.fmod seconds 86400).toNat
  let (y, m, d) := dateOf (Int.fdiv seconds 86400)
  yearChars y ++ '-' :: padded 2 m ++ '-' :: padded 2 d ++ 'T' :: padded 2 (clock / 3600) ++
    ':' :: padded 2 (clock / 60 % 60) ++ ':' :: padded 2 (clock % 60) ++
    '.' :: padded 3 (Int.fmod millis 1000).toNat ++ ['Z']

end Calendar

end Courier
