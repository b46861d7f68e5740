/-!
# UTF-8 — text as octets and back

`encode` writes a text as octets. `decode?` reads octets that are well formed and refuses all
others. `decodeLossy` reads any octets: every longest run of octets that starts a character and
cannot be continued becomes one replacement character, so it never fails.
-/

namespace Courier.Text.Utf8

/-- The octets of a text. -/
def encode (s : String) : List UInt8 :=
  s.toByteArray.toList

/-- The text that well-formed octets spell. -/
def decode? (bytes : List UInt8) : Option String :=
  String.fromUTF8? (ByteArray.mk bytes.toArray)

/-- The character that stands for octets no character is made of. -/
def replacement : Char := Char.ofNat 0xFFFD

/-- A character that is partly read: the value so far, how many octets it still needs, and the
least and the greatest octet that may come next. -/
structure Partial where
  value : Nat
  owed : Nat
  low : Nat
  high : Nat

/-- What the first octet of a character says: a whole character, the start of a longer one, or
neither. -/
def lead (b : Nat) : List Char × Option Partial :=
  if b < 0x80 then ([Char.ofNat b], none)
  else if 0xC2 ≤ b ∧ b ≤ 0xDF then ([], some ⟨b - 0xC0, 1, 0x80, 0xBF⟩)
  else if b = 0xE0 then ([], some ⟨0, 2, 0xA0, 0xBF⟩)
  else if b = 0xED then ([], some ⟨0xD, 2, 0x80, 0x9F⟩)
  else if 0xE1 ≤ b ∧ b ≤ 0xEF then ([], some ⟨b - 0xE0, 2, 0x80, 0xBF⟩)
  else if b = 0xF0 then ([], some ⟨0, 3, 0x90, 0xBF⟩)
  else if b = 0xF4 then ([], some ⟨4, 3, 0x80, 0x8F⟩)
  else if 0xF1 ≤ b ∧ b ≤ 0xF3 then ([], some ⟨b - 0xF0, 3, 0x80, 0xBF⟩)
  else ([replacement], none)

/-- Reads octets after the start of a character, or between characters. -/
def decodeFrom : Option Partial → List UInt8 → List Char
  | none, [] => []
  | some _, [] => [replacement]
  | none, b :: rest =>
    let (out, next) := lead b.toNat
    out ++ decodeFrom next rest
  | some p, b :: rest =>
    if p.low ≤ b.toNat ∧ b.toNat ≤ p.high then
      let value := p.value * 64 + (b.toNat - 0x80)
      if p.owed ≤ 1 then Char.ofNat value :: decodeFrom none rest
      else decodeFrom (some ⟨value, p.owed - 1, 0x80, 0xBF⟩) rest
    else
      let (out, next) := lead b.toNat
      replacement :: (out ++ decodeFrom next rest)

/-- How many octets at the start are whole characters: `done` before these, and `begun` of the
character that is partly read. -/
def wholeFrom (done begun : Nat) : Option Partial → List UInt8 → Nat
  | _, [] => done
  | none, b :: rest =>
    if b.toNat < 0x80 then wholeFrom (done + 1) 0 none rest
    else
      match (lead b.toNat).2 with
      | none => done
      | some p => wholeFrom done 1 (some p) rest
  | some p, b :: rest =>
    if p.low ≤ b.toNat ∧ b.toNat ≤ p.high then
      if p.owed ≤ 1 then wholeFrom (done + begun + 1) 0 none rest
      else wholeFrom done (begun + 1) (some ⟨p.value, p.owed - 1, 0x80, 0xBF⟩) rest
    else done

/-- How many octets at the start are whole characters. -/
def wholeLength (bytes : List UInt8) : Nat :=
  wholeFrom 0 0 none bytes

/-- The text of any octets, with a replacement character for each broken part. -/
def decodeLossy (bytes : List UInt8) : String :=
  match decode? bytes with
  | some s => s
  | none => String.ofList (decodeFrom none bytes)

end Courier.Text.Utf8
