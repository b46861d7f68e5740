import Courier.Json.Error
import Courier.Json.Value

/-!
# Typed data out of JSON values

Values that were read before can be turned into typed data as well as text can. The same things are
refused in the same words, but there is no place to tell. The members of an object are taken in
their order, so the first of them that is refused is the one that is told.
-/

namespace Courier.Json

/-- Takes data out of a value. -/
abbrev Decoder (α : Type) := Json → Except Fault α

/-- What a value is. -/
def kindOf : Json → Found
  | .null => .null
  | .bool b => .bool b
  | .int i => .int i
  | .double x => .double x
  | .string s => .string s
  | .array _ => .array
  | .object _ => .object

namespace Decoder

variable {α σ : Type}

/-- Refuses a value for its kind. -/
def refuse (expected : String) : Decoder α := fun v =>
  .error (.wrongType v.kindOf expected)

/-- A natural number up to a bound; `expected` names the bound. -/
def natural (bound : Nat) (expected : String) : Decoder Nat
  | .int i =>
    if 0 ≤ i ∧ i ≤ bound then .ok i.toNat else .error (.wrongValue (.int i) expected)
  | v => refuse expected v

/-- A truth value. -/
def flag : Decoder Bool
  | .bool b => .ok b
  | v => refuse "a boolean" v

/-- A string; `expected` names what it is for. -/
def text (expected : String) : Decoder String
  | .string s => .ok s
  | v => refuse expected v

/-- A value that may be `null`. -/
def optional (decode : Decoder α) : Decoder (Option α)
  | .null => .ok none
  | v => (decode v).map some

/-- The word with this name. -/
def pick (known : List (String × α)) (name : String) : Except Fault α :=
  match known.lookup name with
  | some a => .ok a
  | none => .error (.unknownVariant name (known.map (·.1)))

/-- One of some words, as a string or as the only name of an object whose value is `null`. -/
def choice (known : List (String × α)) : Decoder α
  | .string name => pick known name
  | .object [(name, value)] =>
    match pick known name, value with
    | .ok a, .null => .ok a
    | .ok _, v => refuse "unit" v
    | .error e, _ => .error e
  | .object _ => .error (.wrongValue .object "map with a single key")
  | v => refuse "string or map" v

/-- Puts a decoded value into a record. -/
def into (decode : Decoder α) (set : α → σ) : Decoder σ := fun v =>
  (decode v).map set

/-- A record whose fields may be left out: an object, whose unknown members are skipped, or a list
of the first fields in order. -/
def record (expected : String) (fields : List String) (set : String → σ → Decoder σ) (start : σ) :
    Decoder σ
  | .object members =>
    members.foldlM (fun s (name, v) => if fields.contains name then set name s v else .ok s) start
  | .array items =>
    match (fields.zip items).foldlM (fun s (name, v) => set name s v) start with
    | .error e => .error e
    | .ok s =>
      if items.length > fields.length then
        .error (.wrongLength items.length "fewer elements in array")
      else .ok s
  | v => refuse expected v

end Decoder

end Courier.Json
