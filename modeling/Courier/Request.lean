import Courier.Failure
import Courier.Time
import Courier.Url.Parser

/-!
# Request — one logical call and when to repeat it

A request is a value: two requests that agree in every field are the same key, in the cache as
elsewhere. Header names are in small letters and sorted, the values of one name are in the order
they were added, and the sets of enrolled status codes and failure kinds are sorted lists, so
equal requests are equal as data.
-/

namespace Courier

/-- The headers of a request: every name once, in order, with its values. -/
abbrev Headers := List (String × List String)

namespace Headers

/-- The values of a name; none where it does not occur. -/
def values (name : String) (headers : Headers) : List String :=
  (headers.lookup name).getD []

/-- Changes the values of a name; a name that does not occur has no values so far. -/
def update (name : String) (change : List String → List String) : Headers → Headers
  | [] => [(name, change [])]
  | (n, vs) :: rest =>
    if name < n then (name, change []) :: (n, vs) :: rest
    else if name = n then (n, change vs) :: rest
    else (n, vs) :: update name change rest

end Headers

/-- Puts a value into a sorted list, once. -/
def enroll {α : Type} [DecidableEq α] (rank : α → Nat) (a : α) : List α → List α
  | [] => [a]
  | b :: rest =>
    if rank a < rank b then a :: b :: rest
    else if a = b then b :: rest
    else b :: enroll rank a rest

/-- A logical request. -/
structure Request where
  method : String
  url : Url
  headers : Headers
  body : Option (List UInt8)
  timeout : Option Duration
  maxRetries : UInt32
  retryStatuses : List Nat
  retryKinds : List FailureKind
  critical : Bool
  deriving Repr, DecidableEq, Inhabited

namespace Request

/-- The first value of a header, whatever the case of its name. -/
def header? (r : Request) (name : String) : Option String :=
  (r.headers.values (Text.Ascii.lowercase name)).head?

/-- The `Host` header, where it is set. -/
def host? (r : Request) : Option String :=
  r.header? "host"

/-- Whether any status or kind is enrolled for retries. -/
def hasRetryPolicy (r : Request) : Bool :=
  !r.retryStatuses.isEmpty || !r.retryKinds.isEmpty

/-- Whether the response may come from the cache: GET requests that are not critical. -/
def isCacheEligible (r : Request) : Bool :=
  !r.critical && r.method == "GET"

/-- The text of the URL. -/
def urlText (r : Request) : String :=
  r.url.print

end Request

end Courier
