import Courier.Failure
import Courier.Json.Reader

/-!
# Response — what a transport answers

A status, the fields and the whole body. The body can be shown as text, with what is not UTF-8
replaced, and read as JSON; a body that cannot be read is kept in the failure.
-/

namespace Courier

open Courier.Text

/-- A complete response. -/
structure Response where
  status : Status
  fields : Http.Fields
  body : List UInt8
  deriving Repr, DecidableEq, Inhabited

namespace Response

/-- The number of the status. -/
def code (r : Response) : Nat :=
  r.status.code

/-- Whether the status says success. -/
def isSuccess (r : Response) : Bool :=
  r.status.isSuccess

/-- The first value of a field, where it is a text. -/
def header? (r : Response) (name : String) : Option String :=
  r.fields.text? name

/-- The length of the body as the server tells it. -/
def contentLength? (r : Response) : Option String :=
  r.header? "content-length"

/-- The body as text. -/
def text (r : Response) : String :=
  Utf8.decodeLossy r.body

/-- The body read as JSON. -/
def json {α : Type} (r : Response) (read : Json.Reader α) : Outcome α :=
  match Json.whole read r.body with
  | .ok a => .ok a
  | .error e => .error (.undecodable r.text e.message r.status)

end Response

end Courier
