import Courier.Text.Percent

/-!
# Form encoding — `application/x-www-form-urlencoded`

Pairs are written `name=value` and joined by `&`. Letters, digits and `*-._` stay, a space
becomes `+`, and every other octet is escaped.
-/

namespace Courier.Text.Form

open Courier.Text

/-- What stays as it is. -/
def isKept (c : Char) : Bool :=
  Ascii.isLetter c || Ascii.isDigit c || ['*', '-', '.', '_'].contains c

/-- One character in form encoding. -/
def encodeChar (c : Char) : List Char :=
  if c = ' ' then ['+'] else Percent.encodeChar isKept c

/-- A name or a value in form encoding. -/
def encode (s : String) : List Char :=
  s.toList.flatMap encodeChar

/-- One pair. -/
def pair (p : String × String) : List Char :=
  encode p.1 ++ '=' :: encode p.2

/-- The pairs after the text that is already there: a `&` stands between any two parts, and none
at the start of an empty text. -/
def append (text : List Char) (pairs : List (String × String)) : List Char :=
  pairs.foldl (fun acc p => if acc.isEmpty then pair p else acc ++ '&' :: pair p) text

end Courier.Text.Form
