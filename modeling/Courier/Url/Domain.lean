import Courier.Text.Punycode
import Courier.Text.Unicode.Direction
import Courier.Text.Unicode.Folding
import Courier.Text.Unicode.Joining
import Courier.Text.Utf8

/-!
# Domain names

The form of a domain name that is looked up: characters that mean the same are written in one way,
and a label that is not ASCII is written in Punycode after `xn--`. A label that comes in that form
must be one that would be written so. None of the characters that mean something else in a URL may
be left, and what a name looks like must not depend on its surroundings.
-/

namespace Courier.Url.Domain

open Courier.Text Courier.Text.Unicode

/-- The ASCII characters no domain name holds. -/
def isForbidden (c : Char) : Bool :=
  c ≤ ' ' || c = '\x7f' ||
    ['%', '#', '/', ':', '<', '>', '?', '@', '[', '\\', ']', '^', '|'].contains c

/-- Whether a text is ASCII. -/
def isAscii (cs : List Char) : Bool :=
  cs.all (·.toNat < 0x80)

/-- A text in the one spelling of names, unless it has a character that no name holds. -/
def spell? (cs : List Char) : Option (List Char) :=
  (cs.mapM Folding.fold?).map fun parts => Composition.compose parts.flatten

/-- What marks a label in Punycode. -/
def mark : List Char := ['x', 'n', '-', '-']

/-- The part of a text between points, and those after it. -/
def labels : List Char → List (List Char)
  | [] => [[]]
  | c :: rest =>
    match labels rest with
    | [] => [[c]]
    | label :: more => if c = '.' then [] :: label :: more else (c :: label) :: more

/-- The most characters of a label that is written in Punycode. -/
def longestWritten : Nat := 1000

/-- The most characters of Punycode that are read. -/
def longestRead : Nat := 2000

/-- A label as it is shown, and in the form that is looked up. -/
structure Label where
  shown : List Char
  form : List Char
  deriving Repr, DecidableEq, Inhabited

namespace Label

/-- The label of a text: ASCII is its own form, and any other text is written in Punycode. -/
def ofText? (text : List Char) : Option Label :=
  if isAscii text then some ⟨text, text⟩
  else if text.length ≤ longestWritten then some ⟨text, mark ++ Punycode.encode text⟩
  else none

/-- The label that Punycode stands for. It must be spelled as names are, and need Punycode. -/
def ofPunycode? (form : List Char) : Option Label :=
  if !isAscii form || longestRead < form.length then none
  else
    match Punycode.decode? form with
    | none => none
    | some text =>
      if !isAscii text && spell? text == some text then some ⟨text, mark ++ form⟩ else none

/-- The label that a part of a name spells. -/
def read? (part : List Char) : Option Label :=
  if mark.isPrefixOf part then ofPunycode? (part.drop mark.length) else ofText? part

/-- Whether a label may stand: it starts with no mark, and what joins its characters stands where
it may. -/
def mayStand (l : Label) : Bool :=
  !(l.shown.head?.map Joining.isMark).getD false && Joining.areRight [] l.shown

end Label

/-- The domain name that octets spell, in the form that is looked up. -/
def toAscii? (octets : List UInt8) : Option (List Char) :=
  match spell? (Utf8.decodeLossy octets).toList with
  | none => none
  | some cs =>
    match (labels cs).mapM Label.read? with
    | none => none
    | some list =>
      let shown := list.map Label.shown
      let keepsDirection := !shown.any Direction.turns || shown.all Direction.isRight
      let text := ['.'].intercalate (list.map Label.form)
      if list.all Label.mayStand && keepsDirection && !text.any isForbidden then some text else none

end Courier.Url.Domain
