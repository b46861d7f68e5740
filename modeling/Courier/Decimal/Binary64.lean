/-!
# Binary64 — double-precision numbers in exact arithmetic

A finite double is a sign and `mantissa * 2 ^ exponent`. Every operation computes its exact
result as a quotient of natural numbers and rounds it once, to nearest with ties to even, so
nothing here depends on the machine's floating-point unit. A result beyond the greatest finite
double is `none`.
-/

namespace Courier

/-- A finite double: `mantissa < 2 ^ 53` and `-1074 ≤ exponent ≤ 971`, with a mantissa of at least
`2 ^ 52` unless the exponent is the least one. -/
structure Binary64 where
  negative : Bool
  mantissa : Nat
  exponent : Int
  deriving DecidableEq, Repr, Inhabited

namespace Binary64

/-- The least exponent. -/
def minExponent : Int := -1074

/-- The greatest exponent. -/
def maxExponent : Int := 971

/-- Zero, with a sign. -/
def zero (negative : Bool) : Binary64 := ⟨negative, 0, minExponent⟩

/-- `n / d` rounded to the nearest integer, a tie to the even one. -/
def nearest (n d : Nat) : Nat :=
  let q := n / d
  let r := n % d
  if 2 * r > d || (2 * r == d && q % 2 == 1) then q + 1 else q

/-- `2 ^ e` as a numerator and a denominator. -/
def powerOfTwo (e : Int) : Nat × Nat :=
  if 0 ≤ e then (Nat.pow 2 e.toNat, 1) else (1, Nat.pow 2 (-e).toNat)

/-- The nearest double of `n / d`, or `none` where that is beyond the greatest finite one. -/
def ofRatio (negative : Bool) (n d : Nat) : Option Binary64 :=
  if n == 0 then some (zero negative)
  else
    let guess : Int := (n.log2 : Int) - (d.log2 : Int) - 53
    let clamp (e : Int) : Int := if e < minExponent then minExponent else e
    let at' (e : Int) : Nat × Nat := let (pn, pd) := powerOfTwo e; (n * pd, d * pn)
    let e₀ := clamp guess
    let (n₀, d₀) := at' e₀
    let e₁ := if n₀ / d₀ ≥ Nat.pow 2 53 then e₀ + 1 else e₀
    let (n₁, d₁) := at' e₁
    let m := nearest n₁ d₁
    let (m, e) := if m ≥ Nat.pow 2 53 then (m / 2, e₁ + 1) else (m, e₁)
    if e > maxExponent then none else some ⟨negative, m, e⟩

/-- The magnitude as a numerator and a denominator. -/
def ratio (x : Binary64) : Nat × Nat :=
  let (pn, pd) := powerOfTwo x.exponent
  (x.mantissa * pn, pd)

/-- The nearest double of a natural number. -/
def ofNat (n : Nat) : Option Binary64 := ofRatio false n 1

/-- The rounded product. -/
def mul (x y : Binary64) : Option Binary64 :=
  let (xn, xd) := x.ratio
  let (yn, yd) := y.ratio
  ofRatio (x.negative != y.negative) (xn * yn) (xd * yd)

/-- The rounded quotient; `none` also where the divisor is zero. -/
def div (x y : Binary64) : Option Binary64 :=
  let (xn, xd) := x.ratio
  let (yn, yd) := y.ratio
  if yn == 0 then none else ofRatio (x.negative != y.negative) (xn * yd) (xd * yn)

/-- Whether this is zero of either sign. -/
def isZero (x : Binary64) : Bool := x.mantissa == 0

/-- The same magnitude with the given sign. -/
def withSign (x : Binary64) (negative : Bool) : Binary64 := { x with negative := negative }

/-- The sixty-four bits of the interchange format: sign, biased exponent, fraction. -/
def toBits (x : Binary64) : Nat :=
  let sign := if x.negative then Nat.pow 2 63 else 0
  if x.mantissa < Nat.pow 2 52 then sign + x.mantissa
  else sign + (x.exponent + 1075).toNat * Nat.pow 2 52 + (x.mantissa - Nat.pow 2 52)

end Binary64

end Courier
