import Courier.Json.Value
import Courier.Text.Ascii

/-!
# The compact text of JSON values

No blanks, members in their order, and in strings only what must be escaped: quotes, backslashes
and control characters, the latter by their short names where they have one.
-/

namespace Courier.Json

open Courier.Text

/-- One character inside a string. -/
def escapeChar (c : Char) : List Char :=
  if c = '"' then ['\\', '"']
  else if c = '\\' then ['\\', '\\']
  else if c = '\x08' then ['\\', 'b']
  else if c = '\x0c' then ['\\', 'f']
  else if c = '\n' then ['\\', 'n']
  else if c = '\r' then ['\\', 'r']
  else if c = '\t' then ['\\', 't']
  else if c < ' ' then
    ['\\', 'u', '0', '0', Ascii.lowerHex (c.toNat / 16), Ascii.lowerHex (c.toNat % 16)]
  else [c]

/-- A string with its quotes. -/
def quoted (s : String) : List Char :=
  '"' :: (s.toList.flatMap escapeChar ++ ['"'])

mutual

/-- The text of a value. -/
def chars : Json → List Char
  | .null => ['n', 'u', 'l', 'l']
  | .bool true => ['t', 'r', 'u', 'e']
  | .bool false => ['f', 'a', 'l', 's', 'e']
  | .int i => Numeral.integer i
  | .double x => Numeral.double x
  | .string s => quoted s
  | .array [] => ['[', ']']
  | .array (v :: rest) => '[' :: (chars v ++ itemChars rest)
  | .object [] => ['\x7b', '\x7d']
  | .object ((name, v) :: rest) =>
    '\x7b' :: (quoted name ++ ':' :: (chars v ++ memberChars rest))

/-- The further items of a list, and its end. -/
def itemChars : List Json → List Char
  | [] => [']']
  | v :: rest => ',' :: (chars v ++ itemChars rest)

/-- The further members of an object, and its end. -/
def memberChars : List (String × Json) → List Char
  | [] => ['\x7d']
  | (name, v) :: rest => ',' :: (quoted name ++ ':' :: (chars v ++ memberChars rest))

end

/-- The text of a value as a string. -/
def print (value : Json) : String :=
  String.ofList (chars value)

end Courier.Json
