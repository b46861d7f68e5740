import Courier.Attempt.Progress
import Courier.Request
import Courier.Response

/-!
# Profiling records — one line for every finished attempt

A record says what was requested, how long the phases took, how the attempt ended and whether it
was a retry. Its line starts with the instant and goes on with ten fields, each followed by a comma
and a blank; two of the fields are always empty and keep the columns in place.
-/

namespace Courier

/-- Where an attempt stands in its request: its number, counted from zero, and the response code
of the attempt before it. -/
structure Position where
  attempt : Nat
  lastStatus : Option Int
  deriving Repr, DecidableEq, Inhabited

namespace Position

/-- The greatest number of an attempt. -/
def maxAttempt : Nat := Nat.pow 2 32 - 1

/-- The first attempt. -/
def first : Position := ⟨0, none⟩

/-- A later attempt. -/
def retry (attempt : Nat) (lastStatus : Int) : Position :=
  ⟨attempt, some lastStatus⟩

end Position

/-- The response code of an attempt without a response. -/
def noResponseCode : Int := -1

/-- The tag of an attempt: `single`, and for a retry the response code before it. -/
def Position.tag (p : Position) : String :=
  if p.attempt = 0 then "single"
  else "single|retry:" ++ String.ofList (Numeral.integer (p.lastStatus.getD noResponseCode))

/-- What is known about a finished attempt. -/
structure Record where
  /-- Nanoseconds since 1970-01-01. -/
  timestamp : Int
  url : String
  host : Option String
  method : String
  progress : Progress
  code : Int
  tag : String
  contentLength : Option String
  deriving Repr, DecidableEq, Inhabited

namespace Record

/-- The record of an attempt that gave a response or none. -/
def ofAttempt (request : Request) (response : Option Response) (position : Position)
    (progress : Progress) (now : Moment) : Record where
  timestamp := now.wall
  url := request.urlText
  host := request.host?
  method := request.method
  progress := progress
  code := match response with
    | some r => r.code
    | none => noResponseCode
  tag := position.tag
  contentLength := response.bind Response.contentLength?

/-- Whether the attempt gave a response. -/
def hasResponse (r : Record) : Bool :=
  r.code != noResponseCode

/-- The timestamp in seconds with three places; zero before 1970-01-01. -/
def secondsText (r : Record) : String :=
  let millis := r.timestamp.toNat / 1000000
  String.ofList (Numeral.digits (millis / 1000) ++ '.' :: Numeral.padded 3 (millis % 1000))

/-- The ten fields of the line, in order. -/
def fields (r : Record) : List (String × String) :=
  [("time", r.secondsText), ("req_url", r.url), ("req_host_header", r.host.getD ""),
    ("req_method", r.method), ("exec_info", r.progress.print),
    ("resp_code", String.ofList (Numeral.integer r.code)), ("src_url", ""),
    ("req_status", r.tag), ("content_length", r.contentLength.getD ""), ("origin", "")]

/-- The line of a record. -/
def line (r : Record) : String :=
  String.ofList (Calendar.instantChars r.timestamp) ++ " " ++
    String.join (r.fields.map fun (name, value) => name ++ "=" ++ value ++ ", ")

end Record

end Courier
