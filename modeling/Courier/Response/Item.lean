import Courier.Json.Record
import Courier.Response

/-!
# Items — small records in bodies

Two records that bodies often hold: an item with a number, and one with a number and a name. Each
is written as an object with these members, or as a list of them in order.
-/

namespace Courier

open Courier.Json

/-- A number that fits thirty-two bits. -/
def Json.word32 : Reader Nat :=
  natural (Nat.pow 2 32 - 1) "u32"

/-- A record with a number. -/
structure Item where
  id : Nat
  deriving Repr, DecidableEq, Inhabited

/-- Reads an item. -/
def Item.reader : Reader Item :=
  Layout.reader
    { expected := "struct Item"
      fields := ["id"]
      required := true
      read := fun _ _ rest => (word32 rest).map fun (n, rest) => (⟨n⟩, rest) } ⟨0⟩

/-- The item as an object. -/
def Item.toJson (i : Item) : Json :=
  .object [("id", .int i.id)]

/-- A record with a number and a name. -/
structure NamedItem where
  id : Nat
  name : String
  deriving Repr, DecidableEq, Inhabited

/-- Reads a named item. -/
def NamedItem.reader : Reader NamedItem :=
  Layout.reader
    { expected := "struct TestData"
      fields := ["id", "name"]
      required := true
      read := fun field item rest =>
        if field = "id" then
          (word32 rest).map fun (n, rest) => ({ item with id := n }, rest)
        else
          (text "a string" rest).map fun (s, rest) => ({ item with name := s }, rest) } ⟨0, ""⟩

/-- The item as an object. -/
def NamedItem.toJson (i : NamedItem) : Json :=
  .object [("id", .int i.id), ("name", .string i.name)]

end Courier
