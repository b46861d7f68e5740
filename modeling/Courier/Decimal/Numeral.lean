import Courier.Decimal.Shortest

/-!
# Numeral — the text of numbers

Natural numbers, integers and doubles as decimal text. Doubles are written with the fewest digits
that read back: positionally where the point falls within sixteen digits or at most four zeros
follow it, and with a signed exponent elsewhere.
-/

namespace Courier.Numeral

/-- The digits of a natural number. -/
def digits (n : Nat) : List Char :=
  Nat.toDigits 10 n

/-- The digits of a natural number, padded with zeros to a width. -/
def padded (width n : Nat) : List Char :=
  let ds := digits n
  List.replicate (width - ds.length) '0' ++ ds

/-- An integer, with a minus sign where it is negative. -/
def integer (i : Int) : List Char :=
  if i < 0 then '-' :: digits i.natAbs else digits i.natAbs

/-- An exponent, with its sign. -/
def exponent (e : Int) : List Char :=
  (if e < 0 then ['e', '-'] else ['e', '+']) ++ digits e.natAbs

/-- The greatest number of digits before the point in positional notation. -/
def widest : Int := 16

/-- The greatest number of zeros after the point in positional notation. -/
def deepest : Int := 4

/-- The magnitude of a double. -/
def magnitude (x : Binary64) : List Char :=
  if x.isZero then ['0', '.', '0']
  else
    let d := Decimal.shortest x
    let ds := digits d.digits
    let point : Int := (ds.length : Int) + d.exponent
    if 0 ≤ d.exponent ∧ point ≤ widest then
      ds ++ List.replicate d.exponent.toNat '0' ++ ['.', '0']
    else if 0 < point ∧ point ≤ widest then
      ds.take point.toNat ++ '.' :: ds.drop point.toNat
    else if -deepest ≤ point ∧ point ≤ 0 then
      ['0', '.'] ++ List.replicate (-point).toNat '0' ++ ds
    else
      match ds with
      | [] => []
      | [c] => c :: exponent (point - 1)
      | c :: rest => c :: '.' :: rest ++ exponent (point - 1)

/-- A double; a negative zero keeps its sign. -/
def double (x : Binary64) : List Char :=
  if x.negative then '-' :: magnitude x else magnitude x

end Courier.Numeral
