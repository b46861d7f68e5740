import Courier.Decimal.Binary64

/-!
# Shortest — the fewest digits that read back

Every double owns an interval of reals that round to it; its ends belong to it exactly when its
mantissa is even. `Decimal.shortest` takes the coarsest decimal grid that has a point in the
interval, and on it the point nearest to the double, a tie going to the even one. The search runs
over one to seventeen digits in exact arithmetic; seventeen always suffice.
-/

namespace Courier

/-- The number `digits * 10 ^ exponent`. -/
structure Decimal where
  digits : Nat
  exponent : Int
  deriving DecidableEq, Repr, Inhabited

namespace Decimal

/-- `10 ^ e` as a numerator and a denominator. -/
def powerOfTen (e : Int) : Nat × Nat :=
  if 0 ≤ e then (Nat.pow 10 e.toNat, 1) else (1, Nat.pow 10 (-e).toNat)

/-- Whether `10 ^ e ≤ n / d`. -/
def reaches (n d : Nat) (e : Int) : Bool :=
  let (pn, pd) := powerOfTen e
  pn * d ≤ n * pd

/-- The `e` with `10 ^ e ≤ n / d < 10 ^ (e + 1)`, from an estimate that is off by one at most. -/
def magnitude (n d : Nat) : Int :=
  let guess : Int := ((n.log2 : Int) - (d.log2 : Int)) * 30103 / 100000
  if reaches n d (guess + 1) then guess + 1
  else if reaches n d guess then guess
  else guess - 1

/-- The interval of a double in quarters of its last place: the double itself, the lower end, the
upper end, and whether the ends belong to it. -/
def interval (x : Binary64) : Nat × Nat × Nat × Bool :=
  let m := 4 * x.mantissa
  let below := if x.mantissa == Nat.pow 2 52 && x.exponent > Binary64.minExponent then 1 else 2
  (m, m - below, m + 2, x.mantissa % 2 == 0)

/-- The best point of the grid of `10 ^ k` in the interval of `x`, if one is there. -/
def onGrid? (x : Binary64) (k : Int) : Option Nat :=
  let (value, low, high, closed) := interval x
  let (tn, td) := Binary64.powerOfTwo (x.exponent - 2)
  let (pn, pd) := powerOfTen k
  let scale (q : Nat) : Nat := q * tn * pd
  let unit := td * pn
  let a := scale value / unit
  let inLow := if closed then scale low ≤ a * unit else scale low < a * unit
  let inHigh := if closed then (a + 1) * unit ≤ scale high else (a + 1) * unit < scale high
  let down := scale value - a * unit
  let up := (a + 1) * unit - scale value
  match decide inLow && a != 0, decide inHigh with
  | true, true => some (if down < up || (down == up && a % 2 == 0) then a else a + 1)
  | true, false => some a
  | false, true => some (a + 1)
  | false, false => none

/-- The first grid with a hit, from `n` digits on. -/
def search (x : Binary64) (top : Int) : Nat → Nat → Decimal
  | _, 0 => ⟨x.mantissa, 0⟩
  | n, fuel + 1 =>
    let k := top - (n : Int)
    match onGrid? x k with
    | some d => ⟨d, k⟩
    | none => search x top (n + 1) fuel

/-- The same number with no zero at the end of its digits. -/
def trim : Nat → Decimal → Decimal
  | 0, d => d
  | fuel + 1, d =>
    if d.digits != 0 && d.digits % 10 == 0 then trim fuel ⟨d.digits / 10, d.exponent + 1⟩ else d

/-- The shortest decimal that reads back as the magnitude of `x`. -/
def shortest (x : Binary64) : Decimal :=
  if x.isZero then ⟨0, 0⟩
  else
    let (n, d) := x.ratio
    trim 20 (search x (magnitude n d) 0 18)

end Decimal

end Courier
