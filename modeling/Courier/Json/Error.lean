import Courier.Decimal.Numeral
import Courier.Text.Unicode.Hidden

/-!
# Why a JSON text is refused

A fault of the grammar or of the expected shape, and the place where reading stopped: a line, and
the number of octets read on it.
-/

namespace Courier.Json

/-- What was found where something else was expected. -/
inductive Found where
  | null
  | bool (value : Bool)
  | int (value : Int)
  | double (value : Binary64)
  | string (value : String)
  | array
  | object
  deriving Repr, Inhabited, DecidableEq

/-- Why reading stopped. -/
inductive Fault where
  | endInList
  | endInObject
  | endInString
  | endInValue
  | expectedColon
  | expectedListCommaOrEnd
  | expectedObjectCommaOrEnd
  | expectedWord
  | expectedValue
  | invalidEscape
  | invalidNumber
  | numberOutOfRange
  | invalidUnicode
  | controlCharacter
  | keyMustBeString
  | loneSurrogate
  | trailingComma
  | trailingCharacters
  | unexpectedEndOfHexEscape
  | tooDeep
  | wrongType (found : Found) (expected : String)
  | wrongValue (found : Found) (expected : String)
  | wrongLength (count : Nat) (expected : String)
  | missingField (name : String)
  | duplicateField (name : String)
  | unknownVariant (name : String) (known : List String)
  deriving Repr, Inhabited, DecidableEq

/-- A fault and its place. -/
structure Error where
  fault : Fault
  line : Nat
  column : Nat
  deriving Repr, Inhabited, DecidableEq

/-- A character as it is shown inside a quoted name: quotes, backslashes and the usual blanks by
their escapes, hidden characters by their code. -/
def shownChar (c : Char) : List Char :=
  if c = '"' then ['\\', '"']
  else if c = '\\' then ['\\', '\\']
  else if c = '\n' then ['\\', 'n']
  else if c = '\r' then ['\\', 'r']
  else if c = '\t' then ['\\', 't']
  else if c = '\x00' then ['\\', '0']
  else if Text.Unicode.Hidden.isHidden c then
    ['\\', 'u', '\x7b'] ++ Nat.toDigits 16 c.toNat ++ ['\x7d']
  else [c]

/-- A text in quotes, as messages show it. -/
def shown (s : String) : String :=
  String.ofList ('"' :: (s.toList.flatMap shownChar ++ ['"']))

/-- A text in grave accents. -/
def accented (s : String) : String :=
  "\x60" ++ s ++ "\x60"

/-- What was found, in words. -/
def Found.describe : Found → String
  | .null => "null"
  | .bool b => "boolean " ++ accented (if b then "true" else "false")
  | .int i => "integer " ++ accented (String.ofList (Numeral.integer i))
  | .double x => "floating point " ++ accented (String.ofList (Numeral.double x))
  | .string s => "string " ++ shown s
  | .array => "sequence"
  | .object => "map"

/-- The alternatives of a choice, in words. -/
def oneOf : List String → String
  | [] => "there are no variants"
  | [a] => "expected " ++ accented a
  | [a, b] => "expected " ++ accented a ++ " or " ++ accented b
  | many => "expected one of " ++ String.intercalate ", " (many.map accented)

/-- A fault in words. -/
def Fault.message : Fault → String
  | .endInList => "EOF while parsing a list"
  | .endInObject => "EOF while parsing an object"
  | .endInString => "EOF while parsing a string"
  | .endInValue => "EOF while parsing a value"
  | .expectedColon => "expected \x60:\x60"
  | .expectedListCommaOrEnd => "expected \x60,\x60 or \x60]\x60"
  | .expectedObjectCommaOrEnd => "expected \x60,\x60 or \x60\x7d\x60"
  | .expectedWord => "expected ident"
  | .expectedValue => "expected value"
  | .invalidEscape => "invalid escape"
  | .invalidNumber => "invalid number"
  | .numberOutOfRange => "number out of range"
  | .invalidUnicode => "invalid unicode code point"
  | .controlCharacter =>
    "control character (\\u0000-\\u001F) found while parsing a string"
  | .keyMustBeString => "key must be a string"
  | .loneSurrogate => "lone leading surrogate in hex escape"
  | .trailingComma => "trailing comma"
  | .trailingCharacters => "trailing characters"
  | .unexpectedEndOfHexEscape => "unexpected end of hex escape"
  | .tooDeep => "recursion limit exceeded"
  | .wrongType found expected => "invalid type: " ++ found.describe ++ ", expected " ++ expected
  | .wrongValue found expected => "invalid value: " ++ found.describe ++ ", expected " ++ expected
  | .wrongLength count expected =>
    "invalid length " ++ String.ofList (Numeral.digits count) ++ ", expected " ++ expected
  | .missingField name => "missing field " ++ accented name
  | .duplicateField name => "duplicate field " ++ accented name
  | .unknownVariant name known => "unknown variant " ++ accented name ++ ", " ++ oneOf known

/-- A fault and its place, in words. -/
def Error.message (e : Error) : String :=
  e.fault.message ++ " at line " ++ String.ofList (Numeral.digits e.line) ++ " column "
    ++ String.ofList (Numeral.digits e.column)

/-! ## Reasons in words -/

/-- What stands before and after the last place of a mark in a text. The text comes last character
first, and `after` is what was passed. -/
def splitBack (mark : List Char) : List Char → List Char → Option (List Char × List Char)
  | _, [] => none
  | after, c :: back =>
    if mark.reverse.isPrefixOf (c :: back) then
      some (((c :: back).drop mark.length).reverse, after)
    else splitBack mark (c :: after) back

/-- The number that digits spell, if there are any and it fits sixty-four bits. -/
def numberOf? (digits : List Char) : Option Nat :=
  let n := digits.foldl (fun n c => n * 10 + (c.toNat - '0'.toNat)) 0
  if digits.isEmpty || n ≥ Nat.pow 2 64 then none else some n

/-- The line and the column in the words that follow `at line`. -/
def placeOf? (words : List Char) : Option (Nat × Nat) :=
  let mark := " column ".toList
  let rest := words.dropWhile Char.isDigit
  let column := rest.drop mark.length
  if mark.isPrefixOf rest && column.all Char.isDigit then
    match numberOf? (words.takeWhile Char.isDigit), numberOf? column with
    | some l, some c => some (l, c)
    | _, _ => none
  else none

/-- A reason that was given in words. Where these end in a place, it is told as places are: as
plain numbers, and not at all if its line is zero. -/
def reason (words : String) : String :=
  match splitBack " at line ".toList [] words.toList.reverse with
  | none => words
  | some (before, after) =>
    match placeOf? after with
    | none => words
    | some (line, column) =>
      let before := String.ofList before
      if line = 0 then before
      else
        before ++ " at line " ++ String.ofList (Numeral.digits line) ++ " column "
          ++ String.ofList (Numeral.digits column)

end Courier.Json
