/-!
# ASCII classes

The letters, digits and hexadecimal digits that network formats are written in, and the lower
case of ASCII letters. Characters outside ASCII belong to no class and have no other case here.
-/

namespace Courier.Text.Ascii

/-- `A` to `Z` and `a` to `z`. -/
def isLetter (c : Char) : Bool :=
  ('a' ≤ c && c ≤ 'z') || ('A' ≤ c && c ≤ 'Z')

/-- `0` to `9`. -/
def isDigit (c : Char) : Bool :=
  '0' ≤ c && c ≤ '9'

/-- The value of a digit in any base up to sixteen. -/
def hexValue? (c : Char) : Option Nat :=
  if '0' ≤ c && c ≤ '9' then some (c.toNat - '0'.toNat)
  else if 'a' ≤ c && c ≤ 'f' then some (c.toNat - 'a'.toNat + 10)
  else if 'A' ≤ c && c ≤ 'F' then some (c.toNat - 'A'.toNat + 10)
  else none

/-- The digit of a value below sixteen, in capitals. -/
def upperHex (n : Nat) : Char :=
  if n < 10 then Char.ofNat ('0'.toNat + n) else Char.ofNat ('A'.toNat + (n - 10))

/-- The digit of a value below sixteen, in small letters. -/
def lowerHex (n : Nat) : Char :=
  if n < 10 then Char.ofNat ('0'.toNat + n) else Char.ofNat ('a'.toNat + (n - 10))

/-- The small letter of an ASCII capital; every other character stays. -/
def lower (c : Char) : Char :=
  if 'A' ≤ c && c ≤ 'Z' then Char.ofNat (c.toNat + 32) else c

/-- A text with its ASCII capitals made small. -/
def lowercase (s : String) : String :=
  String.ofList (s.toList.map lower)

/-- A capital has a small letter, which has no other. -/
theorem lower_lower (c : Char) : lower (lower c) = lower c := by
  have hcapitals : ∀ n < 91, lower (lower (Char.ofNat n)) = lower (Char.ofNat n) := by decide
  by_cases hc : 'A' ≤ c && c ≤ 'Z'
  · have hle : c.toNat ≤ 90 := by
      have h := ((Bool.and_eq_true _ _).mp hc).2
      exact of_decide_eq_true h
    rw [← Char.ofNat_toNat c]
    exact hcapitals c.toNat (Nat.lt_succ_of_le hle)
  · have hstays : lower c = c := if_neg hc
    rw [hstays, hstays]

theorem lowercase_lowercase (s : String) : lowercase (lowercase s) = lowercase s := by
  rw [lowercase, lowercase, String.toList_ofList, List.map_map]
  exact congrArg String.ofList (List.map_congr_left fun c _ => lower_lower c)

/-- The characters an HTTP token, such as a method or a header name, is made of. -/
def isToken (c : Char) : Bool :=
  isLetter c || isDigit c ||
    ['!', '#', '$', '%', '&', '\x27', '*', '+', '-', '.', '^', '_', '\x60', '|', '~'].contains c

end Courier.Text.Ascii
