import Courier.Decimal.Numeral

/-!
# Json — the values of JSON documents

Numbers are integers where they fit sixty-four bits and doubles otherwise. The members of an object
that was read are sorted by name, and a name that occurs twice keeps its last value: `insert` is
how such objects are built.
-/

namespace Courier

/-- A JSON value. -/
inductive Json where
  | null
  | bool (value : Bool)
  | int (value : Int)
  | double (value : Binary64)
  | string (value : String)
  | array (items : List Json)
  | object (members : List (String × Json))
  deriving Repr, Inhabited

namespace Json

/-- Sets the value of a name in a sorted list of members. -/
def insert (name : String) (value : Json) : List (String × Json) → List (String × Json)
  | [] => [(name, value)]
  | (n, v) :: rest =>
    if name < n then (name, value) :: (n, v) :: rest
    else if name = n then (name, value) :: rest
    else (n, v) :: insert name value rest

/-- The value of a name, or `null` where there is none. -/
def get (value : Json) (name : String) : Json :=
  match value with
  | .object members => ((members.find? (·.1 == name)).map (·.2)).getD .null
  | _ => .null

/-- The object with these members. -/
def ofMembers (members : List (String × Json)) : Json :=
  .object (members.foldl (fun acc m => insert m.1 m.2 acc) [])

end Json

end Courier
