import Courier.Json.Printer
import Courier.Request

/-!
# Building requests

A builder starts as a GET of this machine with three retries and is changed step by step. Headers
and JSON bodies are checked when they are set, the URL when the request is built; a status of
success is never enrolled.
-/

namespace Courier

open Courier.Text

/-- A request that is being put together. -/
structure RequestBuilder where
  method : String
  url : Option String
  headers : Headers
  query : List (String × String)
  body : Option (List UInt8)
  timeout : Option Duration
  maxRetries : UInt32
  retryStatuses : List Nat
  retryKinds : List FailureKind
  critical : Bool
  deriving Repr, DecidableEq

namespace RequestBuilder

/-- A builder that nothing was set on. -/
def new : RequestBuilder :=
  ⟨"GET", none, [], [], none, none, 3, [], [], false⟩

instance : Inhabited RequestBuilder := ⟨new⟩

/-- The URL of a request that none was set for. -/
def defaultUrl : String := "http://localhost"

/-- A header name in small letters, if the name and the value may stand. -/
def checkHeader (name value : String) : Outcome String :=
  match Http.fieldName? name with
  | none => .error (.configuration "Invalid header name: invalid HTTP header name")
  | some n =>
    if Http.isFieldValue (Utf8.encode value) then .ok n
    else .error (.configuration "Invalid header value: failed to parse header value")

/-- Adds a value to a header. -/
def addHeader (b : RequestBuilder) (name value : String) : Outcome RequestBuilder :=
  (checkHeader name value).map fun n => { b with headers := b.headers.update n (· ++ [value]) }

/-- Replaces the values of a header by one. -/
def setHeader (b : RequestBuilder) (name value : String) : Outcome RequestBuilder :=
  (checkHeader name value).map fun n => { b with headers := b.headers.update n fun _ => [value] }

/-- What a body can be made of: a value, or words that say why there is none. -/
abbrev Payload := Except String Json

/-- Sets a body of JSON text, and the content type. -/
def json (b : RequestBuilder) (payload : Payload) : Outcome RequestBuilder :=
  match payload with
  | .error words => .error (.unserializable (Json.reason words))
  | .ok value =>
    (b.setHeader "content-type" "application/json").map fun b =>
      { b with body := some (Utf8.encode value.print) }

/-- One step of building. -/
inductive Step where
  | reset
  | method (name : String)
  | url (text : String)
  | addHeader (name value : String)
  | setHeader (name value : String)
  | query (name value : String)
  | body (octets : List UInt8)
  | json (payload : Payload)
  | timeout (length : Duration)
  | maxRetries (count : UInt32)
  | retryStatus (code : Nat)
  | unretryStatus (code : Nat)
  | retryKind (kind : FailureKind)
  | unretryKind (kind : FailureKind)
  | critical (flag : Bool)
  deriving Repr, Inhabited

/-- Whether a code says success. -/
def isSuccessCode (code : Nat) : Bool :=
  200 ≤ code && code < 300

/-- Takes one step. -/
def apply (b : RequestBuilder) : Step → Outcome RequestBuilder
  | .reset => .ok new
  | .method name => .ok { b with method := name }
  | .url text => .ok { b with url := some text }
  | .addHeader name value => b.addHeader name value
  | .setHeader name value => b.setHeader name value
  | .query name value => .ok { b with query := b.query ++ [(name, value)] }
  | .body octets => .ok { b with body := some octets }
  | .json payload => b.json payload
  | .timeout length => .ok { b with timeout := some length }
  | .maxRetries count => .ok { b with maxRetries := count }
  | .retryStatus code =>
    .ok (if isSuccessCode code then b
      else { b with retryStatuses := enroll id code b.retryStatuses })
  | .unretryStatus code => .ok { b with retryStatuses := b.retryStatuses.filter (· != code) }
  | .retryKind kind => .ok { b with retryKinds := enroll FailureKind.rank kind b.retryKinds }
  | .unretryKind kind => .ok { b with retryKinds := b.retryKinds.filter (· != kind) }
  | .critical flag => .ok { b with critical := flag }

/-- The request. -/
def build (b : RequestBuilder) : Outcome Request :=
  match Url.parse (b.url.getD defaultUrl) with
  | .error e => .error (.invalidUrl e)
  | .ok url =>
    .ok ⟨b.method, url.addQuery b.query, b.headers, b.body, b.timeout, b.maxRetries,
      b.retryStatuses, b.retryKinds, b.critical⟩

/-- Takes steps in order; a step that fails is told by its number. -/
def applyAll : RequestBuilder → Nat → List Step → Except (Nat × Failure) RequestBuilder
  | b, _, [] => .ok b
  | b, n, s :: rest =>
    match b.apply s with
    | .error f => .error (n, f)
    | .ok b => applyAll b (n + 1) rest

end RequestBuilder

namespace Request

/-- A GET of a URL. -/
def get (url : String) : Outcome Request :=
  { RequestBuilder.new with url := some url }.build

/-- The request that steps build from a new builder. -/
def ofSteps (steps : List RequestBuilder.Step) : Outcome Request :=
  match RequestBuilder.new.applyAll 0 steps with
  | .error (_, f) => .error f
  | .ok b => b.build

end Request

end Courier
