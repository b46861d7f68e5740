import Courier.Json.Error
import Courier.Json.Value
import Courier.Text.Ascii
import Courier.Text.Utf8

/-!
# Reading JSON octets

The parts every reader of JSON is made of: blanks, words, numbers, strings, the commas and ends of
lists and objects, and skipping a value nobody asked for. A part takes the octets that are left and
gives a result with the octets after it, or stops with a fault and the number of octets that are
left there; `Stop.toError` turns that number into a line and a column.

Integers keep up to sixty-four bits. Any other number is its first digits, as far as they fit
sixty-four bits, rounded to a double, and then multiplied or divided by the double of a power of
ten: two roundings, not one.
-/

namespace Courier.Json

open Courier.Text

/-- Why and where a reader stopped: `left` octets were not read. -/
structure Stop where
  fault : Fault
  left : Nat
  deriving Repr, DecidableEq

/-- A reader of some part of a text. -/
abbrev Reader (α : Type) := List UInt8 → Except Stop (α × List UInt8)

/-- The line and the column after these octets. -/
def place (octets : List UInt8) : Nat × Nat :=
  octets.foldl (fun p b => if b = 10 then (p.1 + 1, 0) else (p.1, p.2 + 1)) (1, 0)

/-- The error that a stop means in a text. -/
def Stop.toError (input : List UInt8) (s : Stop) : Error :=
  let p := place (input.take (input.length - s.left))
  ⟨s.fault, p.1, p.2⟩

/-- Stops here. -/
def stop {α : Type} (fault : Fault) (rest : List UInt8) : Except Stop α :=
  .error ⟨fault, rest.length⟩

/-- Stops at the next octet, which is looked at and counts as read. -/
def stopAtNext {α : Type} (fault : Fault) (rest : List UInt8) : Except Stop α :=
  .error ⟨fault, rest.length - 1⟩

/-- The next octet, as the character it is in ASCII. -/
def peek : List UInt8 → Option Char
  | [] => none
  | b :: _ => some (Char.ofNat b.toNat)

/-- Whether an octet is one of the four blanks. -/
def isBlank (b : UInt8) : Bool :=
  b = 32 || b = 10 || b = 9 || b = 13

/-- What follows the blanks. -/
def skipBlanks (rest : List UInt8) : List UInt8 :=
  rest.dropWhile isBlank

/-- The rest of a word whose first letter was read. -/
def word : List Char → List UInt8 → Except Stop (List UInt8)
  | [], rest => .ok rest
  | _ :: _, [] => stop .endInValue []
  | c :: cs, b :: rest =>
    if Char.ofNat b.toNat = c then word cs rest else stop .expectedWord rest

/-- The value of a digit. -/
def digit? (b : UInt8) : Option Nat :=
  if 48 ≤ b.toNat ∧ b.toNat ≤ 57 then some (b.toNat - 48) else none

/-- Whether a digit comes next. -/
def atDigit : List UInt8 → Bool
  | [] => false
  | b :: _ => (digit? b).isSome

/-- Whether an exponent comes next. -/
def atExponent (rest : List UInt8) : Bool :=
  peek rest == some 'e' || peek rest == some 'E'

/-- Digits added to a number and counted, up to the end of the digits or to the first one that
would take the number past `limit`. -/
def digitsUpTo (limit : Nat) : Nat → Nat → List UInt8 → Nat × Nat × List UInt8
  | value, count, [] => (value, count, [])
  | value, count, b :: rest =>
    match digit? b with
    | none => (value, count, b :: rest)
    | some d =>
      if value * 10 + d > limit then (value, count, b :: rest)
      else digitsUpTo limit (value * 10 + d) (count + 1) rest

/-- The number of digits that come next, and what follows them. -/
def countDigits (rest : List UInt8) : Nat × List UInt8 :=
  ((rest.takeWhile fun b => (digit? b).isSome).length,
    rest.dropWhile fun b => (digit? b).isSome)

/-- The greatest integer kept exactly. -/
def maxInteger : Nat := Nat.pow 2 64 - 1

/-- The double of a power of ten. -/
def tenTo (n : Nat) : Binary64 :=
  (Binary64.ofRatio false (Nat.pow 10 n) 1).getD (Binary64.zero false)

/-- `x * 10 ^ e`, in steps a power of ten has a double for. -/
def scaled : Nat → Binary64 → Int → Option Binary64
  | 0, _, _ => some (Binary64.zero false)
  | fuel + 1, x, e =>
    if e.natAbs ≤ 308 then
      if 0 ≤ e then Binary64.mul x (tenTo e.natAbs) else Binary64.div x (tenTo e.natAbs)
    else if x.isZero then some x
    else if 0 ≤ e then none
    else
      match Binary64.div x (tenTo 308) with
      | none => none
      | some y => scaled fuel y (e + 308)

/-- The double of a sign, digits and a power of ten. -/
def doubleOf (positive : Bool) (digits : Nat) (e : Int) : Reader Json := fun rest =>
  match (Binary64.ofNat digits).bind fun x => scaled 5 x e with
  | none => stop .numberOutOfRange rest
  | some x => .ok (.double (x.withSign (!positive)), rest)

/-- The greatest exponent that is read as a number. -/
def maxExponent : Nat := Nat.pow 2 31 - 1

/-- An exponent, from its letter on, of a number that has digits and a power of ten already. -/
def exponent (positive : Bool) (digits : Nat) (e : Int) : Reader Json := fun rest =>
  let rest := rest.drop 1
  let up := peek rest != some '-'
  let rest := if peek rest == some '+' || peek rest == some '-' then rest.drop 1 else rest
  match rest with
  | [] => stop .endInValue []
  | b :: after =>
    match digit? b with
    | none => stop .invalidNumber after
    | some d =>
      let (n, _, rest) := digitsUpTo maxExponent d 0 after
      if atDigit rest then
        if digits != 0 && up then stop .numberOutOfRange (rest.drop 1)
        else .ok (.double (Binary64.zero (!positive)), (countDigits rest).2)
      else doubleOf positive digits (if up then e + n else e - n) rest

/-- The digits after a point, from the point on. -/
def fraction (positive : Bool) (digits : Nat) (e : Int) : Reader Json := fun rest =>
  let (value, count, rest) := digitsUpTo maxInteger digits 0 (rest.drop 1)
  let e := e - count
  if atDigit rest then
    let rest := (countDigits rest).2
    if atExponent rest then exponent positive value e rest else doubleOf positive value e rest
  else if count == 0 then
    match rest with
    | [] => stop .endInValue []
    | _ :: _ => stopAtNext .invalidNumber rest
  else if atExponent rest then exponent positive value e rest
  else doubleOf positive value e rest

/-- What follows the digits of a whole number. -/
def afterWhole (positive : Bool) (digits : Nat) : Reader Json := fun rest =>
  if peek rest == some '.' then fraction positive digits 0 rest
  else if atExponent rest then exponent positive digits 0 rest
  else if positive then .ok (.int digits, rest)
  else if digits == 0 || digits > Nat.pow 2 63 then doubleOf false digits 0 rest
  else .ok (.int (-(digits : Int)), rest)

/-- A number, from its first digit on. -/
def number (positive : Bool) : Reader Json := fun rest =>
  match rest with
  | [] => stop .endInValue []
  | b :: after =>
    match digit? b with
    | none => stop .invalidNumber after
    | some 0 => if atDigit after then stopAtNext .invalidNumber after else afterWhole positive 0 after
    | some d =>
      let (value, _, rest) := digitsUpTo maxInteger d 0 after
      if atDigit rest then
        let (more, rest) := countDigits rest
        if peek rest == some '.' then fraction positive value more rest
        else if atExponent rest then exponent positive value more rest
        else doubleOf positive value more rest
      else afterWhole positive value rest

/-- The value of four hexadecimal digits. -/
def hexDigits : List UInt8 → Except Stop (Nat × List UInt8)
  | a :: b :: c :: d :: rest =>
    match [a, b, c, d].mapM fun x => Ascii.hexValue? (Char.ofNat x.toNat) with
    | some ds => .ok (ds.foldl (fun n x => n * 16 + x) 0, rest)
    | none => stop .invalidEscape rest
  | _ => stop .endInString []

/-- The octets of a character given by its number. -/
def octetsOf (code : Nat) : List UInt8 :=
  String.utf8EncodeChar (Char.ofNat code)

/-- The second half of a surrogate pair, which must follow a first one at once. -/
def lowSurrogate (high : Nat) : Reader (List UInt8) := fun rest =>
  match rest with
  | [] => stop .endInString []
  | b :: rest =>
    if b ≠ 92 then stop .unexpectedEndOfHexEscape rest
    else
      match rest with
      | [] => stop .endInString []
      | u :: rest =>
        if u ≠ 117 then stop .unexpectedEndOfHexEscape rest
        else
          match hexDigits rest with
          | .error e => .error e
          | .ok (low, rest) =>
            if low < 0xDC00 ∨ low > 0xDFFF then stop .loneSurrogate rest
            else .ok (octetsOf ((high - 0xD800) * 1024 + (low - 0xDC00) + 0x10000), rest)

/-- What an escape stands for, from the octet after its backslash on. -/
def escape : Reader (List UInt8) := fun rest =>
  match rest with
  | [] => stop .endInString []
  | b :: rest =>
    match Char.ofNat b.toNat with
    | '"' => .ok ([34], rest)
    | '\\' => .ok ([92], rest)
    | '/' => .ok ([47], rest)
    | 'b' => .ok ([8], rest)
    | 'f' => .ok ([12], rest)
    | 'n' => .ok ([10], rest)
    | 'r' => .ok ([13], rest)
    | 't' => .ok ([9], rest)
    | 'u' =>
      match hexDigits rest with
      | .error e => .error e
      | .ok (code, rest) =>
        if 0xDC00 ≤ code ∧ code ≤ 0xDFFF then stop .loneSurrogate rest
        else if 0xD800 ≤ code ∧ code ≤ 0xDBFF then lowSurrogate code rest
        else .ok (octetsOf code, rest)
    | _ => stop .invalidEscape rest

/-- Four hexadecimal digits leave less than there was. -/
theorem length_lt_of_hexDigits {rest after : List UInt8} {code : Nat}
    (h : hexDigits rest = .ok (code, after)) : after.length < rest.length := by
  unfold hexDigits at h
  split at h
  · split at h <;> simp_all [stop]
    omega
  · simp [stop] at h

/-- The second half of a pair leaves less than there was. -/
theorem length_lt_of_lowSurrogate {high : Nat} {rest after octets : List UInt8}
    (h : lowSurrogate high rest = .ok (octets, after)) : after.length < rest.length := by
  unfold lowSurrogate at h
  repeat' split at h
  all_goals try (simp [stop] at h; done)
  rename_i hex _
  have := length_lt_of_hexDigits hex
  simp only [Except.ok.injEq, Prod.mk.injEq] at h
  obtain ⟨_, rfl⟩ := h
  simp only [List.length_cons]
  omega

/-- An escape leaves less than there was. -/
theorem length_lt_of_escape {rest after octets : List UInt8}
    (h : escape rest = .ok (octets, after)) : after.length < rest.length := by
  unfold escape at h
  split at h
  · simp [stop] at h
  · rename_i b rest
    have hex {c : Nat} {r : List UInt8} : hexDigits rest = .ok (c, r) → r.length < rest.length :=
      length_lt_of_hexDigits
    split at h
    all_goals try (simp_all; done)
    · split at h
      · simp at h
      · rename_i code r hr
        have := hex hr
        split at h
        · simp [stop] at h
        · split at h
          · have := length_lt_of_lowSurrogate h
            simp only [List.length_cons]
            omega
          · simp only [Except.ok.injEq, Prod.mk.injEq] at h
            obtain ⟨_, rfl⟩ := h
            simp only [List.length_cons]
            omega
    · simp [stop] at h

/-- The octets of a string up to its closing quote, which is left; `done` holds those read so far,
last first. -/
def stringOctets (done : List UInt8) : Reader (List UInt8)
  | [] => stop .endInString []
  | b :: rest =>
    if b = 34 then .ok (done.reverse, b :: rest)
    else if b = 92 then
      match _h : escape rest with
      | .error e => .error e
      | .ok (octets, after) => stringOctets (octets.reverse ++ done) after
    else if b < 32 then stop .controlCharacter rest
    else stringOctets (b :: done) rest
termination_by rest => rest.length
decreasing_by
  · have := length_lt_of_escape ‹_›
    simp only [List.length_cons]
    omega
  · simp

/-- A string, from the octet after its opening quote on. If it is not well formed, the octets from
the first broken one on count as not read. -/
def stringBody : Reader String := fun rest =>
  match stringOctets [] rest with
  | .error e => .error e
  | .ok (octets, rest) =>
    match Utf8.decode? octets with
    | none =>
      .error ⟨.invalidUnicode, rest.length - 1 + (octets.length - Utf8.wholeLength octets)⟩
    | some s => .ok (s, rest.drop 1)

/-- What follows a string that nobody asked for: its escapes are only looked at as far as needed to
find the end. -/
def skipString : List UInt8 → Except Stop (List UInt8)
  | [] => stop .endInString []
  | b :: rest =>
    if b = 34 then .ok rest
    else if b = 92 then
      match rest with
      | [] => stop .endInString []
      | e :: rest =>
        if e = 117 then
          match _h : hexDigits rest with
          | .error e => .error e
          | .ok (_, after) => skipString after
        else if [34, 92, 47, 98, 102, 110, 114, 116].contains e then skipString rest
        else stop .invalidEscape rest
    else if b < 32 then stop .controlCharacter (b :: rest)
    else skipString rest
termination_by rest => rest.length
decreasing_by
  · have := length_lt_of_hexDigits ‹_›
    simp only [List.length_cons]
    omega
  · simp only [List.length_cons]
    omega
  · simp

/-- What follows an exponent that nobody asked for. -/
def skipExponent (rest : List UInt8) : Except Stop (List UInt8) :=
  let rest := rest.drop 1
  let rest := if peek rest == some '+' || peek rest == some '-' then rest.drop 1 else rest
  if atDigit rest then .ok (countDigits rest).2 else stop .invalidNumber (rest.drop 1)

/-- What follows a number that nobody asked for, from its first digit on. -/
def skipNumber (rest : List UInt8) : Except Stop (List UInt8) :=
  let whole : Except Stop (List UInt8) :=
    match rest with
    | [] => stop .invalidNumber []
    | b :: after =>
      match digit? b with
      | none => stop .invalidNumber after
      | some 0 => if atDigit after then stopAtNext .invalidNumber after else .ok after
      | some _ => .ok (countDigits after).2
  match whole with
  | .error e => .error e
  | .ok rest =>
    if peek rest == some '.' then
      let (count, rest) := countDigits (rest.drop 1)
      if count == 0 then stopAtNext .invalidNumber rest
      else if atExponent rest then skipExponent rest
      else .ok rest
    else if atExponent rest then skipExponent rest
    else .ok rest

mutual

/-- What follows a value that nobody asked for. -/
def skipValue : Nat → List UInt8 → Except Stop (List UInt8)
  | 0, rest => stop .tooDeep rest
  | fuel + 1, rest =>
    let rest := skipBlanks rest
    match peek rest with
    | none => stopAtNext .endInValue rest
    | some 'n' => word ['u', 'l', 'l'] (rest.drop 1)
    | some 't' => word ['r', 'u', 'e'] (rest.drop 1)
    | some 'f' => word ['a', 'l', 's', 'e'] (rest.drop 1)
    | some '-' => skipNumber (rest.drop 1)
    | some '"' => skipString (rest.drop 1)
    | some '[' =>
      let rest := skipBlanks (rest.drop 1)
      match peek rest with
      | none => stopAtNext .endInList rest
      | some ']' => .ok (rest.drop 1)
      | some _ => skipItems fuel rest
    | some '\x7b' =>
      let rest := skipBlanks (rest.drop 1)
      match peek rest with
      | none => stopAtNext .endInObject rest
      | some '\x7d' => .ok (rest.drop 1)
      | some _ => skipMembers fuel rest
    | some _ => if atDigit rest then skipNumber rest else stopAtNext .expectedValue rest

/-- What follows a list, from one of its items on. -/
def skipItems : Nat → List UInt8 → Except Stop (List UInt8)
  | 0, rest => stop .tooDeep rest
  | fuel + 1, rest =>
    match skipValue fuel rest with
    | .error e => .error e
    | .ok rest =>
      let rest := skipBlanks rest
      match peek rest with
      | none => stopAtNext .endInList rest
      | some ',' => skipItems fuel (rest.drop 1)
      | some ']' => .ok (rest.drop 1)
      | some _ => stopAtNext .expectedListCommaOrEnd rest

/-- What follows an object, from one of its names on. -/
def skipMembers : Nat → List UInt8 → Except Stop (List UInt8)
  | 0, rest => stop .tooDeep rest
  | fuel + 1, rest =>
    let rest := skipBlanks rest
    match peek rest with
    | none => stopAtNext .endInObject rest
    | some '"' =>
      match skipString (rest.drop 1) with
      | .error e => .error e
      | .ok rest =>
        let rest := skipBlanks rest
        match peek rest with
        | none => stopAtNext .endInObject rest
        | some ':' =>
          match skipValue fuel (rest.drop 1) with
          | .error e => .error e
          | .ok rest =>
            let rest := skipBlanks rest
            match peek rest with
            | none => stopAtNext .endInObject rest
            | some ',' => skipMembers fuel (rest.drop 1)
            | some '\x7d' => .ok (rest.drop 1)
            | some _ => stopAtNext .expectedObjectCommaOrEnd rest
        | some _ => stopAtNext .expectedColon rest
    | some _ => stopAtNext .keyMustBeString rest

end

/-- Whether a list has a further item, and where it starts. -/
def nextItem (first : Bool) (rest : List UInt8) : Except Stop (Bool × List UInt8) :=
  let rest := skipBlanks rest
  match peek rest with
  | none => stopAtNext .endInList rest
  | some ']' => .ok (false, rest)
  | some c =>
    if first then .ok (true, rest)
    else if c = ',' then
      let rest := skipBlanks (rest.drop 1)
      match peek rest with
      | none => stopAtNext .endInValue rest
      | some ']' => stopAtNext .trailingComma rest
      | some _ => .ok (true, rest)
    else stopAtNext .expectedListCommaOrEnd rest

/-- Whether an object has a further member, and where its name starts. -/
def nextName (first : Bool) (rest : List UInt8) : Except Stop (Bool × List UInt8) :=
  let rest := skipBlanks rest
  match peek rest with
  | none => stopAtNext .endInObject rest
  | some '\x7d' => .ok (false, rest)
  | some c =>
    if first then
      if c = '"' then .ok (true, rest) else stopAtNext .keyMustBeString rest
    else if c = ',' then
      let rest := skipBlanks (rest.drop 1)
      match peek rest with
      | none => stopAtNext .endInValue rest
      | some '"' => .ok (true, rest)
      | some '\x7d' => stopAtNext .trailingComma rest
      | some _ => stopAtNext .keyMustBeString rest
    else stopAtNext .expectedObjectCommaOrEnd rest

/-- What follows the colon after a name. -/
def colon (rest : List UInt8) : Except Stop (List UInt8) :=
  let rest := skipBlanks rest
  match peek rest with
  | none => stopAtNext .endInObject rest
  | some ':' => .ok (rest.drop 1)
  | some _ => stopAtNext .expectedColon rest

/-- The end of a list, and how far it was looked for. -/
def closeList (rest : List UInt8) : Except Stop Unit × List UInt8 :=
  let rest := skipBlanks rest
  match peek rest with
  | none => (stopAtNext .endInList rest, rest)
  | some ']' => (.ok (), rest.drop 1)
  | some ',' =>
    let rest := skipBlanks (rest.drop 1)
    if peek rest == some ']' then (stopAtNext .trailingComma rest, rest)
    else (stopAtNext .trailingCharacters rest, rest)
  | some _ => (stopAtNext .trailingCharacters rest, rest)

/-- The end of an object, and how far it was looked for. -/
def closeObject (rest : List UInt8) : Except Stop Unit × List UInt8 :=
  let rest := skipBlanks rest
  match peek rest with
  | none => (stopAtNext .endInObject rest, rest)
  | some '\x7d' => (.ok (), rest.drop 1)
  | some ',' => (stopAtNext .trailingComma rest, rest)
  | some _ => (stopAtNext .trailingCharacters rest, rest)

/-- How deep lists and objects may be nested, plus one. -/
def depthLimit : Nat := 128

mutual

/-- A value of any kind, with `depth - 1` levels of nesting allowed in it. -/
def value : Nat → Nat → Reader Json
  | 0, _, rest => stop .tooDeep rest
  | fuel + 1, depth, rest =>
    let rest := skipBlanks rest
    match peek rest with
    | none => stopAtNext .endInValue rest
    | some 'n' => (word ['u', 'l', 'l'] (rest.drop 1)).map fun r => (.null, r)
    | some 't' => (word ['r', 'u', 'e'] (rest.drop 1)).map fun r => (.bool true, r)
    | some 'f' => (word ['a', 'l', 's', 'e'] (rest.drop 1)).map fun r => (.bool false, r)
    | some '-' => number false (rest.drop 1)
    | some '"' => (stringBody (rest.drop 1)).map fun (s, r) => (.string s, r)
    | some '[' =>
      if depth ≤ 1 then stopAtNext .tooDeep rest
      else (items fuel (depth - 1) true [] (rest.drop 1)).map fun (vs, r) => (.array vs, r.drop 1)
    | some '\x7b' =>
      if depth ≤ 1 then stopAtNext .tooDeep rest
      else
        (members fuel (depth - 1) true [] (rest.drop 1)).map fun (ms, r) => (.object ms, r.drop 1)
    | some _ => if atDigit rest then number true rest else stopAtNext .expectedValue rest

/-- The items of a list up to its end, which is left, after those read before, last first. -/
def items : Nat → Nat → Bool → List Json → Reader (List Json)
  | 0, _, _, _, rest => stop .tooDeep rest
  | fuel + 1, depth, first, done, rest =>
    match nextItem first rest with
    | .error e => .error e
    | .ok (false, rest) => .ok (done.reverse, rest)
    | .ok (true, rest) =>
      match value fuel depth rest with
      | .error e => .error e
      | .ok (v, rest) => items fuel depth false (v :: done) rest

/-- The members of an object up to its end, which is left, added to those read before. -/
def members : Nat → Nat → Bool → List (String × Json) → Reader (List (String × Json))
  | 0, _, _, _, rest => stop .tooDeep rest
  | fuel + 1, depth, first, done, rest =>
    match nextName first rest with
    | .error e => .error e
    | .ok (false, rest) => .ok (done, rest)
    | .ok (true, rest) =>
      match stringBody (rest.drop 1) with
      | .error e => .error e
      | .ok (name, rest) =>
        match colon rest with
        | .error e => .error e
        | .ok rest =>
          match value fuel depth rest with
          | .error e => .error e
          | .ok (v, rest) => members fuel depth false (insert name v done) rest

end

/-- Reads a whole text: nothing but blanks may follow the value. -/
def whole {α : Type} (read : Reader α) (input : List UInt8) : Except Error α :=
  match read input with
  | .error s => .error (s.toError input)
  | .ok (a, rest) =>
    let rest := skipBlanks rest
    if rest.isEmpty then .ok a
    else .error (Stop.toError input ⟨.trailingCharacters, rest.length - 1⟩)

/-- A value of any kind. -/
def any : Reader Json := fun rest => value (2 * rest.length + 2) depthLimit rest

/-- The value that octets spell. -/
def parse (input : List UInt8) : Except Error Json :=
  whole any input

end Courier.Json
