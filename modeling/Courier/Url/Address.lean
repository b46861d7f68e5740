import Courier.Url.Basic

/-!
# Internet addresses in URLs

An IPv4 address has up to four numbers, each decimal, octal or hexadecimal, the last of which fills
all places that are left. An IPv6 address has eight pieces, of which one run may be left out and the
last two may be written as an IPv4 address.
-/

namespace Courier.Url

open Courier.Text

/-- The parts of a text between separators. -/
def splitAtChar (sep : Char) : List Char → List (List Char)
  | [] => [[]]
  | c :: rest =>
    if c = sep then [] :: splitAtChar sep rest
    else
      match splitAtChar sep rest with
      | [] => [[c]]
      | part :: parts => (c :: part) :: parts

/-- The value of digits in a base, if all of them are digits. -/
def inBase? (base : Nat) (cs : List Char) : Option Nat :=
  cs.foldlM (fun n c =>
    match Ascii.hexValue? c with
    | some d => if d < base then some (n * base + d) else none
    | none => none) 0

/-- A number of an IPv4 address, in the base that its start tells. -/
def ipv4Number? : List Char → Option Nat
  | [] => none
  | '0' :: 'x' :: rest => inBase? 16 rest
  | '0' :: 'X' :: rest => inBase? 16 rest
  | '0' :: c :: rest => inBase? 8 (c :: rest)
  | cs => inBase? 10 cs

/-- The parts between the points of a host, without an empty one at the end. -/
def hostParts (cs : List Char) : List (List Char) :=
  let parts := splitAtChar '.' cs
  if parts.length > 1 && parts.getLast? == some [] then parts.dropLast else parts

/-- Whether a host has to be an IPv4 address, because its last part is a number. -/
def endsInNumber (cs : List Char) : Bool :=
  match (hostParts cs).getLast? with
  | none => false
  | some last => (!last.isEmpty && last.all Ascii.isDigit) || (ipv4Number? last).isSome

/-- Places the numbers before the last one, the highest first. -/
def placeNumbers : Nat → List Nat → Nat
  | _, [] => 0
  | k, n :: rest => n * Nat.pow 256 k + placeNumbers (k - 1) rest

/-- The IPv4 address that a host spells. -/
def ipv4? (cs : List Char) : Option Nat :=
  let parts := hostParts cs
  if parts.length > 4 then none
  else
    match parts.mapM ipv4Number? with
    | none => none
    | some numbers =>
      let front := numbers.dropLast
      match numbers.getLast? with
      | none => none
      | some last =>
        if front.any (· > 255) || last ≥ Nat.pow 256 (4 - front.length) then none
        else some (placeNumbers 3 front + last)

/-- One of the four decimal numbers at the end of an IPv6 address: no leading zero, at most 255. -/
def plainByte? (cs : List Char) : Option Nat :=
  match cs with
  | [] => none
  | ['0'] => some 0
  | '0' :: _ => none
  | _ =>
    if cs.length ≤ 3 && cs.all Ascii.isDigit then (inBase? 10 cs).filter (· ≤ 255) else none

/-- The two pieces that an embedded IPv4 address stands for. -/
def embedded? (cs : List Char) : Option (List Nat) :=
  match (splitAtChar '.' cs).mapM plainByte? with
  | some [a, b, c, d] => some [a * 256 + b, c * 256 + d]
  | _ => none

/-- One piece: one to four hexadecimal digits. -/
def piece? (cs : List Char) : Option Nat :=
  if cs.isEmpty || cs.length > 4 then none else inBase? 16 cs

/-- Pieces joined by colons, where the last part may be an IPv4 address. An empty text has none. -/
def pieces? (last : Bool) (cs : List Char) : Option (List Nat) :=
  if cs.isEmpty then some []
  else
    let parts := splitAtChar ':' cs
    match parts.getLast? with
    | none => none
    | some final =>
      if last && final.contains '.' then
        match parts.dropLast.mapM piece?, embedded? final with
        | some front, some back => some (front ++ back)
        | _, _ => none
      else parts.mapM piece?

/-- The text before and after the first pair of colons. -/
def splitAtGap : List Char → Option (List Char × List Char)
  | [] => none
  | [_] => none
  | a :: b :: rest =>
    if a = ':' && b = ':' then some ([], rest)
    else (splitAtGap (b :: rest)).map fun (x, y) => (a :: x, y)

/-- The IPv6 address that the text between brackets spells. -/
def ipv6? (cs : List Char) : Option (List Nat) :=
  match splitAtGap cs with
  | none => (pieces? true cs).filter (·.length == 8)
  | some (front, back) =>
    match pieces? false front, pieces? true back with
    | some xs, some ys =>
      if xs.length + ys.length ≤ 7 then
        some (xs ++ List.replicate (8 - xs.length - ys.length) 0 ++ ys)
      else none
    | _, _ => none

end Courier.Url
