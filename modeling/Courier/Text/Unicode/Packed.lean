/-!
# Packed tables

Properties of characters come as long tables, which are kept as text: numbers in base 36 with
blanks between them. A table lists ranges of characters in rising order, and each range starts a
number of characters after the end of the one before it.
-/

namespace Courier.Text.Unicode.Packed

/-- The value of a digit in base 36. -/
def digit (c : Char) : Nat :=
  if 'a' ≤ c then c.toNat - 'a'.toNat + 10 else c.toNat - '0'.toNat

/-- The numbers before a text and in it: those that are complete, last first, and the one that is
being read. -/
def scan : List Nat → Option Nat → List Char → List Nat
  | done, none, [] => done.reverse
  | done, some n, [] => (n :: done).reverse
  | done, open?, c :: rest =>
    if c = ' ' then
      match open? with
      | none => scan done none rest
      | some n => scan (n :: done) none rest
    else scan done (some (open?.getD 0 * 36 + digit c)) rest

/-- The numbers in lines of text. -/
def numbers (lines : List String) : List Nat :=
  lines.flatMap fun line => scan [] none line.toList

/-- Characters that follow each other, with a value they share. -/
structure Range where
  first : Nat
  count : Nat
  value : Nat

/-- Whether a character is in a range. -/
def Range.contains (r : Range) (point : Nat) : Bool :=
  r.first ≤ point && point < r.first + r.count

/-- Ranges of three numbers each: the gap before it, how many characters it has, and the value. -/
def rangesFrom : Nat → List Nat → List Range
  | start, gap :: count :: value :: rest =>
    ⟨start + gap, count, value⟩ :: rangesFrom (start + gap + count) rest
  | _, _ => []

/-- The table in lines of text. -/
def ranges (lines : List String) : List Range :=
  rangesFrom 0 (numbers lines)

/-- Ranges of two numbers each: the gap before it and how many characters it has. -/
def membersFrom : Nat → List Nat → List Range
  | start, gap :: count :: rest =>
    ⟨start + gap, count, 1⟩ :: membersFrom (start + gap + count) rest
  | _, _ => []

/-- The table in lines of text, without values. -/
def members (lines : List String) : List Range :=
  membersFrom 0 (numbers lines)

/-- The value of a character, if the table has it. -/
def value? (table : List Range) (c : Char) : Option Nat :=
  (table.find? (·.contains c.toNat)).map Range.value

/-- Whether a table has a character. -/
def has (table : List Range) (c : Char) : Bool :=
  table.any (·.contains c.toNat)

end Courier.Text.Unicode.Packed
