import Courier.Json.Reader

/-!
# Reading JSON into typed data

Readers that know what they expect: natural numbers up to a bound, truth values, strings, optional
values, one of some words, and records. A record is written as an object, whose unknown members are
skipped, or as a list of its fields in order. A value of another kind is refused by what was found
and what was expected.
-/

namespace Courier.Json

/-- What an unexpected value is. Scalars are read to their end; lists and objects are not entered. -/
def found : Reader Found := fun rest =>
  match peek rest with
  | some 'n' => (word ['u', 'l', 'l'] (rest.drop 1)).map fun r => (.null, r)
  | some 't' => (word ['r', 'u', 'e'] (rest.drop 1)).map fun r => (.bool true, r)
  | some 'f' => (word ['a', 'l', 's', 'e'] (rest.drop 1)).map fun r => (.bool false, r)
  | some '"' => (stringBody (rest.drop 1)).map fun (s, r) => (.string s, r)
  | some '[' => .ok (.array, rest)
  | some '\x7b' => .ok (.object, rest)
  | some '-' => (number false (rest.drop 1)).map fun (n, r) => (ofNumber n, r)
  | _ =>
    if atDigit rest then (number true rest).map fun (n, r) => (ofNumber n, r)
    else stopAtNext .expectedValue rest
where
  /-- What a number that was read is. -/
  ofNumber : Json → Found
    | .int i => .int i
    | .double x => .double x
    | _ => .null

/-- Refuses the next value for its kind. -/
def refuse {α : Type} (expected : String) : Reader α := fun rest =>
  match found rest with
  | .error e => .error e
  | .ok (f, rest) => stop (.wrongType f expected) rest

/-- Stops where the text ends before a value, and else goes on after the blanks. -/
def atValue {α : Type} (read : Reader α) : Reader α := fun rest =>
  let rest := skipBlanks rest
  if rest.isEmpty then stopAtNext .endInValue rest else read rest

/-- A natural number up to a bound; `expected` names the bound. -/
def natural (bound : Nat) (expected : String) : Reader Nat := atValue fun rest =>
  let check (read : Except Stop (Json × List UInt8)) : Except Stop (Nat × List UInt8) :=
    match read with
    | .error e => .error e
    | .ok (.int i, rest) =>
      if 0 ≤ i ∧ i ≤ bound then .ok (i.toNat, rest) else stop (.wrongValue (.int i) expected) rest
    | .ok (.double x, rest) => stop (.wrongType (.double x) expected) rest
    | .ok (_, rest) => stop .expectedValue rest
  if peek rest == some '-' then check (number false (rest.drop 1))
  else if atDigit rest then check (number true rest)
  else refuse expected rest

/-- A truth value. -/
def flag : Reader Bool := atValue fun rest =>
  match peek rest with
  | some 't' => (word ['r', 'u', 'e'] (rest.drop 1)).map fun r => (true, r)
  | some 'f' => (word ['a', 'l', 's', 'e'] (rest.drop 1)).map fun r => (false, r)
  | _ => refuse "a boolean" rest

/-- A string; `expected` names what it is for. -/
def text (expected : String) : Reader String := atValue fun rest =>
  if peek rest == some '"' then stringBody (rest.drop 1) else refuse expected rest

/-- A value that may be `null`. -/
def optional {α : Type} (read : Reader α) : Reader (Option α) := fun rest =>
  let rest := skipBlanks rest
  if peek rest == some 'n' then (word ['u', 'l', 'l'] (rest.drop 1)).map fun r => (none, r)
  else (read rest).map fun (a, r) => (some a, r)

/-- One of some words, as a string or as the only name of an object whose value is `null`. -/
def choice {α : Type} (known : List (String × α)) : Reader α := fun rest =>
  let rest := skipBlanks rest
  let pick : Reader α := fun rest =>
    match text "variant identifier" rest with
    | .error e => .error e
    | .ok (name, rest) =>
      match known.lookup name with
      | some a => .ok (a, rest)
      | none => stop (.unknownVariant name (known.map (·.1))) rest
  let nameOf : Reader α := fun rest =>
    let rest := skipBlanks rest
    match peek rest with
    | none => stopAtNext .endInObject rest
    | some '"' => pick rest
    | some _ => stopAtNext .keyMustBeString rest
  match peek rest with
  | none => stopAtNext .endInValue rest
  | some '"' => pick rest
  | some '\x7b' =>
    match nameOf (rest.drop 1) with
    | .error e => .error e
    | .ok (a, rest) =>
      match colon rest with
      | .error e => .error e
      | .ok rest =>
        let unit : Except Stop (Unit × List UInt8) :=
          atValue (fun rest =>
            if peek rest == some 'n' then
              (word ['u', 'l', 'l'] (rest.drop 1)).map fun r => ((), r)
            else refuse "unit" rest) rest
        match unit with
        | .error e => .error e
        | .ok (_, rest) =>
          let rest := skipBlanks rest
          match peek rest with
          | none => stop .endInObject rest
          | some '\x7d' => .ok (a, rest.drop 1)
          | some _ => stop .expectedValue rest
  | some _ => stopAtNext .expectedValue rest

/-- How a record is read: what it is called, its fields in order, whether each must be there, and
how the value of a field changes the record. -/
structure Layout (σ : Type) where
  expected : String
  fields : List String
  required : Bool
  read : String → σ → Reader σ

namespace Layout

variable {σ : Type}

/-- What a list of the wrong length was expected to be. -/
def sized (l : Layout σ) : String :=
  let n := l.fields.length
  l.expected ++ " with " ++ String.ofList (Numeral.digits n)
    ++ (if n = 1 then " element" else " elements")

/-- The members of an object, up to its end or to a fault. `seen` holds the known names so far. -/
def members (l : Layout σ) : Nat → Bool → List String → σ → List UInt8 →
    Except (Fault × List UInt8 ⊕ Stop) (σ × List UInt8)
  | 0, _, _, _, rest => .error (.inr ⟨.tooDeep, rest.length⟩)
  | fuel + 1, first, seen, record, rest =>
    match nextName first rest with
    | .error e => .error (.inr e)
    | .ok (false, rest) =>
      match if l.required then l.fields.find? (!seen.contains ·) else none with
      | some name => .error (.inl (.missingField name, rest))
      | none => .ok (record, rest)
    | .ok (true, rest) =>
      match stringBody (rest.drop 1) with
      | .error e => .error (.inr e)
      | .ok (name, rest) =>
        if l.fields.contains name then
          if seen.contains name then .error (.inl (.duplicateField name, rest))
          else
            match colon rest with
            | .error e => .error (.inr e)
            | .ok rest =>
              match l.read name record rest with
              | .error e => .error (.inr e)
              | .ok (record, rest) => members l fuel false (name :: seen) record rest
        else
          match colon rest with
          | .error e => .error (.inr e)
          | .ok rest =>
            match skipValue fuel rest with
            | .error e => .error (.inr e)
            | .ok rest => members l fuel false seen record rest

/-- The fields of a list, in order; `count` fields were read before. -/
def positions (l : Layout σ) : List String → Nat → σ → List UInt8 →
    Except (Fault × List UInt8 ⊕ Stop) (σ × List UInt8)
  | [], _, record, rest => .ok (record, rest)
  | name :: names, count, record, rest =>
    match nextItem (count == 0) rest with
    | .error e => .error (.inr e)
    | .ok (false, rest) =>
      if l.required then .error (.inl (.wrongLength count l.sized, rest)) else .ok (record, rest)
    | .ok (true, rest) =>
      match l.read name record rest with
      | .error e => .error (.inr e)
      | .ok (record, rest) => positions l names (count + 1) record rest

/-- Ends a record. A fault of the record as a whole stops where its end was looked for, and it is
told before a fault of that end. -/
def close (closing : List UInt8 → Except Stop Unit × List UInt8)
    (read : Except (Fault × List UInt8 ⊕ Stop) (σ × List UInt8)) :
    Except Stop (σ × List UInt8) :=
  match read with
  | .error (.inr e) => .error e
  | .error (.inl (fault, rest)) => stop fault (closing rest).2
  | .ok (record, rest) =>
    match closing rest with
    | (.error e, _) => .error e
    | (.ok (), rest) => .ok (record, rest)

/-- A record, starting from `start`. -/
def reader (l : Layout σ) (start : σ) : Reader σ := atValue fun rest =>
  match peek rest with
  | some '\x7b' =>
    close closeObject (l.members (2 * rest.length + 2) true [] start (rest.drop 1))
  | some '[' => close closeList (l.positions l.fields 0 start (rest.drop 1))
  | _ => refuse l.expected rest

end Layout

end Courier.Json
