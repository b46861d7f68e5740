import Courier.Text.Ascii

/-!
# Punycode — text of any characters in letters and digits

A label is written as its ASCII characters, a hyphen if there are any, and a sequence of numbers
that say where each other character is inserted. The numbers are in base 36 with as few digits as
the neighbourhood makes likely, smallest digit first. `encode` writes the form and `decode?` reads
it. No fuel is needed: writing a number makes it smaller, and reading follows the digits.
-/

namespace Courier.Text.Punycode

/-- The digit of a value below 36. -/
def digit (d : Nat) : Char :=
  if d < 26 then Char.ofNat ('a'.toNat + d) else Char.ofNat ('0'.toNat + (d - 26))

/-- The value of a digit. -/
def digit? (c : Char) : Option Nat :=
  if 'a' ≤ c && c ≤ 'z' then some (c.toNat - 'a'.toNat)
  else if 'A' ≤ c && c ≤ 'Z' then some (c.toNat - 'A'.toNat)
  else if '0' ≤ c && c ≤ '9' then some (c.toNat - '0'.toNat + 26)
  else none

/-- The least value of the digit at a place that says another digit follows. -/
def threshold (place bias : Nat) : Nat :=
  if place ≤ bias then 1 else if bias + 26 ≤ place then 26 else place - bias

theorem threshold_pos (place bias : Nat) : 0 < threshold place bias := by
  unfold threshold
  split
  · omega
  · split <;> omega

/-- Divides by 35 until at most 455 is left, and adds 36 for every division. -/
def shrink (delta count : Nat) : Nat × Nat :=
  if 455 < delta then shrink (delta / 35) (count + 36) else (delta, count)
termination_by delta
decreasing_by exact Nat.div_lt_self (by omega) (by omega)

/-- The bias after a number, when this many characters are placed. -/
def adapt (delta points : Nat) (first : Bool) : Nat :=
  let delta := if first then delta / 700 else delta / 2
  let (delta, count) := shrink (delta + delta / points) 0
  count + 36 * delta / (delta + 38)

/-- A number. -/
def number (q place bias : Nat) : List Char :=
  let t := threshold place bias
  if q < t then [digit q]
  else digit (t + (q - t) % (36 - t)) :: number ((q - t) / (36 - t)) (place + 36) bias
termination_by q
decreasing_by
  have := threshold_pos place bias
  have := Nat.div_le_self (q - threshold place bias) (36 - threshold place bias)
  omega

/-- Where writing stands: the numbers written, the distance since the last one, the bias, and how
many characters are placed. -/
structure Writing where
  out : List Char
  delta : Nat
  bias : Nat
  placed : Nat

/-- Passes one character of the label on the way to those equal to `point`. -/
def Writing.pass (basic : Nat) (point : Nat) (w : Writing) (c : Char) : Writing :=
  if c.toNat < point then { w with delta := w.delta + 1 }
  else if c.toNat = point then
    ⟨w.out ++ number w.delta 36 w.bias, 0, adapt w.delta (w.placed + 1) (w.placed == basic),
      w.placed + 1⟩
  else w

/-- Writes where characters stand, one character after the other in rising order. -/
def writeAll (label : List Char) (basic : Nat) : Nat → Writing → List Nat → List Char
  | _, w, [] => w.out
  | next, w, point :: rest =>
    let w := { w with delta := w.delta + (point - next) * (w.placed + 1) }
    let w := label.foldl (Writing.pass basic point) w
    writeAll label basic (point + 1) { w with delta := w.delta + 1 } rest

/-- The form of a label. -/
def encode (label : List Char) : List Char :=
  let basic := label.filter (·.toNat < 0x80)
  let points := ((label.map Char.toNat).filter (0x80 ≤ ·)).mergeSort.eraseDups
  let start : List Char := if basic.isEmpty then [] else basic ++ ['-']
  start ++ writeAll label basic.length 0x80 ⟨[], 0, 72, basic.length⟩ points

/-- Where reading stands: the characters placed, the last one that was inserted, where, and the
number that is being read, with the weight and the place of its next digit. -/
structure Reading where
  out : List Nat
  point : Nat
  index : Nat
  bias : Nat
  first : Bool
  value : Nat
  weight : Nat
  place : Nat

/-- Inserts the character that a number stands for. -/
def Reading.insert (r : Reading) : Reading :=
  let size := r.out.length + 1
  let total := r.index + r.value
  let point := r.point + total / size
  let index := total % size
  ⟨r.out.insertIdx index point, point, index + 1, adapt r.value size r.first, false, 0, 1, 36⟩

/-- The first number too great to be read. -/
def numberLimit : Nat := Nat.pow 2 32

/-- Reads digits; the last one has to end a number. -/
def readAll : Reading → List Char → Option (List Nat)
  | r, [] => if r.place = 36 then some r.out else none
  | r, c :: rest =>
    match digit? c with
    | none => none
    | some d =>
      let t := threshold r.place r.bias
      let r := { r with value := r.value + d * r.weight }
      if r.index + r.value ≥ numberLimit then none
      else if d < t then readAll r.insert rest
      else if r.weight * (36 - t) ≥ numberLimit then none
      else readAll { r with weight := r.weight * (36 - t), place := r.place + 36 } rest

/-- The ASCII characters of a form, before the last hyphen, and the digits after it. -/
def parts (form : List Char) : List Char × List Char :=
  let back := form.reverse
  match back.dropWhile (· ≠ '-') with
  | [] => ([], form)
  | [_] => ([], form)
  | _ :: basic => (basic.reverse, (back.takeWhile (· ≠ '-')).reverse)

/-- The label that a form spells. -/
def decode? (form : List Char) : Option (List Char) :=
  let (basic, digits) := parts form
  match readAll ⟨basic.map Char.toNat, 0x80, 0, 72, true, 0, 1, 36⟩ digits with
  | none => none
  | some points => points.mapM fun p => if p.isValidChar then some (Char.ofNat p) else none

end Courier.Text.Punycode
