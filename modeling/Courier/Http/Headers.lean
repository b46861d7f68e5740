import Courier.Text.Ascii
import Courier.Text.Utf8

/-!
# Header fields

Names are HTTP tokens and compare without regard to case, so they are kept in small letters. A
value is any octets but control characters, the tab excepted. The fields of a message are kept
sorted by name, those of one name in the order they were added.
-/

namespace Courier.Http

open Courier.Text

/-- The longest name. -/
def maxNameLength : Nat := 65535

/-- The name in small letters, if it is a token that is not too long. -/
def fieldName? (name : String) : Option String :=
  if !name.isEmpty && name.toList.all Ascii.isToken && name.length ≤ maxNameLength then
    some (Ascii.lowercase name)
  else none

/-- Whether an octet may stand in a value. -/
def isValueOctet (b : UInt8) : Bool :=
  b = 9 || (b ≥ 32 && b != 127)

/-- Whether a text may be the value of a field. -/
def isFieldValue (value : List UInt8) : Bool :=
  value.all isValueOctet

/-- Whether a text is a request method. -/
def isMethod (name : String) : Bool :=
  !name.isEmpty && name.toList.all Ascii.isToken

/-- The fields of a message. -/
abbrev Fields := List (String × List UInt8)

namespace Fields

/-- Adds a field after those of a name that is not greater. -/
def add (name : String) (value : List UInt8) : Fields → Fields
  | [] => [(name, value)]
  | (n, v) :: rest =>
    if name < n then (name, value) :: (n, v) :: rest else (n, v) :: add name value rest

/-- The fields with these names and values, if all may stand. -/
def ofList? (list : List (String × List UInt8)) : Option Fields :=
  list.foldlM (fun fields (name, value) =>
    match fieldName? name with
    | some n => if isFieldValue value then some (add n value fields) else none
    | none => none) []

/-- The first value of a name in any case, where it is printable ASCII. -/
def text? (fields : Fields) (name : String) : Option String :=
  match fields.find? (·.1 == Ascii.lowercase name) with
  | none => none
  | some (_, value) =>
    if value.all fun b => b = 9 || (b ≥ 32 && b < 127) then Utf8.decode? value else none

end Fields

end Courier.Http
