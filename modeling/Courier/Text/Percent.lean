import Courier.Text.Ascii
import Courier.Text.Utf8

/-!
# Percent encoding

Octets that may not stand in a part of a URL are written as `%` and two hexadecimal digits.
`encode` takes the class of characters that stay; `decode` reads every complete escape and keeps
all other octets.
-/

namespace Courier.Text.Percent

open Courier.Text.Ascii

/-- One octet as an escape, in capitals. -/
def escape (b : UInt8) : List Char :=
  ['%', upperHex (b.toNat / 16), upperHex (b.toNat % 16)]

/-- A character as it is where `keep` allows it, and else the escapes of its octets. -/
def encodeChar (keep : Char → Bool) (c : Char) : List Char :=
  if keep c then [c] else (String.utf8EncodeChar c).flatMap escape

/-- A text with every character outside `keep` escaped. -/
def encode (keep : Char → Bool) (cs : List Char) : List Char :=
  cs.flatMap (encodeChar keep)

/-- The two hexadecimal digits that complete an escape. -/
def digits? (a b : UInt8) : Option UInt8 :=
  match hexValue? (Char.ofNat a.toNat), hexValue? (Char.ofNat b.toNat) with
  | some x, some y => some (UInt8.ofNat (x * 16 + y))
  | _, _ => none

/-- The octets with every complete escape replaced by the octet it stands for. -/
def decode : List UInt8 → List UInt8
  | [] => []
  | [b] => [b]
  | [b, c] => [b, c]
  | b :: x :: y :: rest =>
    if b = 37 then
      match digits? x y with
      | some v => v :: decode rest
      | none => b :: decode (x :: y :: rest)
    else b :: decode (x :: y :: rest)

/-- Printable ASCII: neither a control character nor outside ASCII. -/
def isPlain (c : Char) : Bool :=
  ' ' ≤ c && c ≤ '~'

/-- What stays in a fragment. -/
def keptInFragment (c : Char) : Bool :=
  isPlain c && !([' ', '"', '<', '>', '\x60'].contains c)

/-- What stays in a query of a scheme with no rules of its own. -/
def keptInQuery (c : Char) : Bool :=
  isPlain c && !([' ', '"', '#', '<', '>'].contains c)

/-- What stays in a query of a web scheme: an apostrophe is escaped as well. -/
def keptInWebQuery (c : Char) : Bool :=
  keptInQuery c && c != '\x27'

/-- What stays in a path. -/
def keptInPath (c : Char) : Bool :=
  keptInFragment c && !(['#', '?', '\x7b', '\x7d'].contains c)

/-- What stays in a user name or a password. -/
def keptInUser (c : Char) : Bool :=
  keptInPath c && !(['/', ':', ';', '=', '@', '[', '\\', ']', '^', '|'].contains c)

end Courier.Text.Percent
