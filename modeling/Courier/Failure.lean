import Courier.Http.Headers
import Courier.Http.Status
import Courier.Json.Error
import Courier.Url.Basic

/-!
# Failure — why a call gave no result

A failure says what went wrong and carries what is known about it: the status and the body of a
response that was turned down, the text of a reader, the fault of a connection. Its kind is the
coarse tag that requests enrol for retries; kind, status and body always speak of the root cause,
also where the failure came through a load that several callers share.
-/

namespace Courier

/-- What kind of thing went wrong. -/
inductive FailureKind where
  /-- The connection could not be opened. -/
  | connect
  /-- The transport waited too long. -/
  | timeout
  /-- The request could not be made or sent. -/
  | request
  /-- A body could not be read or written. -/
  | body
  /-- The transport could not decode the body. -/
  | decode
  /-- A redirect was not allowed. -/
  | redirect
  /-- A handler turned the status down. -/
  | status
  /-- A handler could not read the body. -/
  | deserialization
  /-- The request body could not be written. -/
  | serialization
  /-- A handler asked to stop the attempt. -/
  | aborted
  /-- The caller cancelled. -/
  | cancelled
  /-- The client was closed. -/
  | closed
  /-- The configuration or the request is invalid. -/
  | configuration
  /-- A blocking wait ran out of time. -/
  | waitTimeout
  /-- The task that drove the call died. -/
  | internal
  deriving Repr, DecidableEq, Inhabited

namespace FailureKind

/-- All kinds, in their order. -/
def all : List FailureKind :=
  [.connect, .timeout, .request, .body, .decode, .redirect, .status, .deserialization,
    .serialization, .aborted, .cancelled, .closed, .configuration, .waitTimeout, .internal]

/-- The name of a kind. -/
def name : FailureKind → String
  | .connect => "Connect"
  | .timeout => "Timeout"
  | .request => "Request"
  | .body => "Body"
  | .decode => "Decode"
  | .redirect => "Redirect"
  | .status => "Status"
  | .deserialization => "Deserialization"
  | .serialization => "Serialization"
  | .aborted => "Aborted"
  | .cancelled => "Cancelled"
  | .closed => "Closed"
  | .configuration => "Configuration"
  | .waitTimeout => "WaitTimeout"
  | .internal => "Internal"

/-- The place of a kind in their order. -/
def rank (k : FailureKind) : Nat :=
  all.idxOf k

/-- The kind with this name. -/
def ofName? (s : String) : Option FailureKind :=
  all.find? (·.name == s)

end FailureKind

/-- What an exchange with a server failed at. -/
inductive WirePhase where
  | building
  | connecting
  | waiting
  | sending
  | redirecting
  | decoding
  | judging (status : Status)
  deriving Repr, DecidableEq, Inhabited

/-- A failed exchange with a server, and the URL it was about, if it is told. -/
structure WireFault where
  phase : WirePhase
  url : Option String
  deriving Repr, DecidableEq, Inhabited

namespace WireFault

/-- The kind of failure that a fault is. -/
def kind (f : WireFault) : FailureKind :=
  match f.phase with
  | .building => .configuration
  | .connecting => .connect
  | .waiting => .timeout
  | .sending => .request
  | .redirecting => .redirect
  | .decoding => .decode
  | .judging _ => .request

/-- The status that a fault is about. -/
def status? (f : WireFault) : Option Status :=
  match f.phase with
  | .judging s => some s
  | _ => none

/-- What happened, in words. -/
def happened (f : WireFault) : String :=
  match f.phase with
  | .building => "builder error"
  | .connecting | .waiting | .sending => "error sending request"
  | .redirecting => "error following redirect"
  | .decoding => "error decoding response body"
  | .judging s =>
    (if s.code < 500 then "HTTP status client error (" else "HTTP status server error (")
      ++ s.print ++ ")"

/-- A fault in words. -/
def message (f : WireFault) : String :=
  match f.url with
  | some u => f.happened ++ " for url (" ++ u ++ ")"
  | none => f.happened

end WireFault

/-- Why a task ended without a result. -/
inductive TaskEnd where
  /-- It panicked. -/
  | panicked
  /-- It was dropped before it completed. -/
  | dropped
  /-- It panicked with a text, while others waited for it. -/
  | panickedWith (text : String)
  /-- For a reason that is told. -/
  | told (reason : String)
  deriving Repr, DecidableEq, Inhabited

/-- The reason in words. A panic that others waited for is told with its text in quotes, and not
with the number of the task. -/
def TaskEnd.reason : TaskEnd → String
  | .panicked => "task panicked"
  | .dropped => "task dropped before completion"
  | .panickedWith text => "task <id> panicked with message " ++ Json.shown text
  | .told reason => reason

/-- Why a call gave no result. -/
inductive Failure where
  /-- An exchange with a server failed. -/
  | network (fault : WireFault)
  /-- The request took too long. -/
  | timeout
  /-- A transport reports a failure of some kind. -/
  | transport (kind : FailureKind) (text : String)
  /-- A handler turns the status down; the body and the fields are kept. -/
  | rejected (status : Status) (raw : String) (fields : Http.Fields)
  /-- A handler cannot read the body, which is kept. -/
  | undecodable (raw reason : String) (status : Status)
  /-- The body of the request cannot be written. -/
  | unserializable (reason : String)
  /-- A load that several callers share failed. -/
  | sharedLoad (cause : Failure)
  /-- The call was cancelled before it completed. -/
  | cancelled
  /-- A handler stopped the attempt. -/
  | aborted
  /-- The client is closed. -/
  | closed
  /-- The configuration is invalid. -/
  | configuration (reason : String)
  /-- The URL is invalid. -/
  | invalidUrl (cause : Url.Error)
  /-- A blocking wait ended before the call did. -/
  | waitTimeout
  /-- The task that drove the call ended without a result. -/
  | taskFailed (how : TaskEnd)
  /-- The result was taken before. -/
  | taken
  deriving Repr, DecidableEq, Inhabited

namespace Failure

/-- The failure at the bottom of shared loads. -/
def root : Failure → Failure
  | .sharedLoad cause => cause.root
  | f => f

/-- The kind of the root cause. -/
def kind : Failure → FailureKind
  | .network fault => fault.kind
  | .timeout => .timeout
  | .transport kind _ => kind
  | .rejected _ _ _ => .status
  | .undecodable _ _ _ => .deserialization
  | .unserializable _ => .serialization
  | .sharedLoad cause => cause.kind
  | .cancelled => .cancelled
  | .aborted => .aborted
  | .closed => .closed
  | .configuration _ => .configuration
  | .invalidUrl _ => .configuration
  | .waitTimeout => .waitTimeout
  | .taskFailed _ => .internal
  | .taken => .internal

/-- The status the root cause is about. -/
def status? (f : Failure) : Option Status :=
  match f.root with
  | .rejected status _ _ => some status
  | .undecodable _ _ status => some status
  | .network fault => fault.status?
  | _ => none

/-- The body of the response the root cause is about. -/
def raw? (f : Failure) : Option String :=
  match f.root with
  | .rejected _ raw _ => some raw
  | .undecodable raw _ _ => some raw
  | _ => none

/-- Whether the caller cancelled. -/
def isCancelled (f : Failure) : Bool :=
  f.kind == .cancelled

/-- The failure in words. -/
def message : Failure → String
  | .network fault => "Network error: " ++ fault.message
  | .timeout => "Request timed out"
  | .transport kind text => "Transport error (" ++ kind.name ++ "): " ++ text
  | .rejected status raw _ => "HTTP error " ++ status.print ++ ": " ++ raw
  | .undecodable _ reason status =>
    "Failed to deserialize response (status " ++ status.print ++ "): " ++ reason
  | .unserializable reason => "Failed to serialize request: " ++ reason
  | .sharedLoad cause => "Cache load failed: " ++ cause.message
  | .cancelled => "Request was cancelled"
  | .aborted => "Request aborted by handler"
  | .closed => "Client is closed"
  | .configuration reason => "Configuration error: " ++ reason
  | .invalidUrl cause => "Invalid URL: " ++ cause.message
  | .waitTimeout => "Timed out waiting for the response"
  | .taskFailed how => "Task failed: " ++ how.reason
  | .taken => "Response already taken"

end Failure

/-- The result of a call. -/
abbrev Outcome (α : Type) := Except Failure α

/-- Why a profiling record was not written. -/
inductive ProfilingFailure where
  | format (cause : Json.Error)
  | sink (reason : String)
  deriving Repr, DecidableEq, Inhabited

/-- The failure in words. -/
def ProfilingFailure.message : ProfilingFailure → String
  | .format cause => "Failed to format profiling record: " ++ cause.message
  | .sink reason => "Profiling sink failed: " ++ reason

end Courier
