import Courier.Script

/-!
# Report — what happened, as JSON values

Responses, failures, records, counters and the notes of a ledger as values that programs can read.
Octets are strings where they are UTF-8, and else objects with their hexadecimal digits. Which notes
are told is for a `Report.View` to say: what is of interest differs between a client, a cache and a
lone task.
-/

namespace Courier.Report

open Courier.Text

/-- A natural number. -/
def nat (n : Nat) : Json := .int n

/-- A value that may be absent. -/
def optional {α : Type} (report : α → Json) : Option α → Json
  | some a => report a
  | none => .null

/-- Octets. -/
def octets (bytes : List UInt8) : Json :=
  match Utf8.decode? bytes with
  | some s => .string s
  | none =>
    .object [("hex", .string (String.ofList (bytes.flatMap fun b =>
      [Ascii.lowerHex (b.toNat / 16), Ascii.lowerHex (b.toNat % 16)])))]

/-- A duration: seconds and nanoseconds. -/
def duration (d : Duration) : Json :=
  .object [("s", nat (d.nanos / Duration.perSecond)), ("n", nat (d.nanos % Duration.perSecond))]

/-- Nanoseconds as whole milliseconds. -/
def millis (nanos : Nat) : Json :=
  nat (nanos / Duration.perMilli)

/-- The bits of a double, as sixteen hexadecimal digits. -/
def bits (x : Binary64) : Json :=
  let digits := Nat.toDigits 16 x.toBits
  .string (String.ofList (List.replicate (16 - digits.length) '0' ++ digits))

/-- The fields of a message. -/
def fields (list : Http.Fields) : Json :=
  .array (list.map fun (n, v) => .array [.string n, octets v])

/-- A response. -/
def response (r : Response) : Json :=
  .object [("status", nat r.code), ("headers", fields r.fields), ("body", octets r.body)]

/-- The name of a failure. -/
def failureName : Failure → String
  | .network _ => "Network"
  | .timeout => "Timeout"
  | .transport _ _ => "Transport"
  | .rejected _ _ _ => "HttpError"
  | .undecodable _ _ _ => "DeserializationFailed"
  | .unserializable _ => "SerializationFailed"
  | .sharedLoad _ => "CacheLoad"
  | .cancelled => "Cancelled"
  | .aborted => "Aborted"
  | .closed => "ClientClosed"
  | .configuration _ => "ConfigurationError"
  | .invalidUrl _ => "InvalidUrl"
  | .waitTimeout => "WaitTimeout"
  | .taskFailed _ => "TaskFailed"
  | .taken => "ResultTaken"

/-- What is known of a failure. -/
def failureMembers (f : Failure) : List (String × Json) :=
  [("error", .string (failureName f)), ("kind", .string f.kind.name),
    ("message", .string f.message)] ++
    (match f.status? with
      | some s => [("status", nat s.code)]
      | none => []) ++
    (match f.raw? with
      | some r => [("raw", .string r)]
      | none => []) ++
    (match f.root with
      | .rejected _ _ list => [("headers", fields list)]
      | _ => []) ++
    (match f with
      | .sharedLoad _ => [("root", .string (failureName f.root))]
      | _ => [])

/-- A failure. -/
def failure (f : Failure) : Json :=
  .object (failureMembers f)

/-- An outcome. -/
def outcome {α : Type} (report : α → Json) : Outcome α → Json
  | .ok a => .object [("ok", report a)]
  | .error f => failure f

/-- A request, with the values of the header fields that are looked up in it. -/
def request (r : Request) (lookup : List String) : Json :=
  .object [("method", .string r.method), ("url", .string r.urlText),
    ("headers", .array (r.headers.map fun (n, vs) =>
      .array [.string n, .array (vs.map .string)])),
    ("found", .array (lookup.map fun n => optional .string (r.header? n))),
    ("host_header", optional .string r.host?), ("body", optional octets r.body),
    ("timeout", optional duration r.timeout), ("max_retries", nat r.maxRetries.toNat),
    ("retry_status", .array (r.retryStatuses.map nat)),
    ("retry_kinds", .array (r.retryKinds.map fun k => .string k.name)),
    ("critical", .bool r.critical), ("has_retry_policy", .bool r.hasRetryPolicy),
    ("cache_eligible", .bool r.isCacheEligible)]

/-- The timings of an attempt, in the order of the phases. -/
def progress (p : Progress) : Json :=
  .array (p.toList.map nat)

/-- A profiling record. -/
def record (r : Record) : Json :=
  .object [("ms", .int (Int.fdiv r.timestamp Duration.perMilli)), ("url", .string r.url),
    ("host", optional .string r.host), ("method", .string r.method),
    ("progress", progress r.progress), ("code", .int r.code), ("status", .string r.tag),
    ("length", optional .string r.contentLength), ("has_response", .bool r.hasResponse)]

/-- The counters of a cache, and what follows from them. -/
def stats (s : CacheStats) : Json :=
  .object [("hit", nat s.hits), ("miss", nat s.misses), ("evict", nat s.evictions),
    ("ok", nat s.successes), ("fail", nat s.failures), ("time", duration s.loadTime),
    ("requests", nat s.requests), ("loads", nat s.loads), ("hit_rate", bits s.hitRate),
    ("miss_rate", bits s.missRate), ("penalty", optional duration s.loadPenalty?),
    ("default", .bool (s == .zero))]

/-- The counters of a cache in a row, with the time in milliseconds. -/
def counters (s : CacheStats) : Json :=
  .array [nat s.hits, nat s.misses, nat s.evictions, nat s.successes, nat s.failures,
    millis s.loadTime.nanos]

/-- Something a handler was asked, if it is told. -/
def callback : Callback → Option Json
  | .event e _ => some (.object [("event", .string e.name)])
  | .completed r => some (.object [("completed", nat r.code)])
  | .failed f => some (.object [("failed", failure f)])
  | .status => none

/-- What is told of records: nothing, the record, or that it was refused. -/
inductive RecordView where
  | hidden
  | shown
  | refused
  deriving Repr, DecidableEq, Inhabited

/-- What is told of calls: nothing, the calls of a transport, or those of a loader. -/
inductive CallView where
  | hidden
  | transport
  | loader
  deriving Repr, DecidableEq, Inhabited

/-- Which notes are told. -/
structure View where
  records : RecordView
  calls : CallView
  /-- Whether delays are told. -/
  delays : Bool
  /-- The tasks whose beginning and end are told, with the numbers they are told by. -/
  tasks : List (Nat × Nat)
  /-- The tasks whose handlers are heard. -/
  handlers : List Nat
  deriving Repr, Inhabited

/-- A note, if it is told. -/
def note (v : View) (n : Note) : Option Json :=
  let time := ("t", millis n.time)
  let task := n.task.getD 0
  let ofTask (name : String) (more : List (String × Json)) : Option Json :=
    (v.tasks.lookup task).map fun shown => .object ((name, nat shown) :: more)
  match n.what with
  | .called c =>
    match v.calls with
    | .hidden => none
    | .loader =>
      some (.object [("load", nat c.number), ("path", .string (Script.loadName c.request)), time])
    | .transport =>
      if c.late then some (.object [("refused", .string c.request.urlText)])
      else
        some (.object [("call", nat c.number), ("method", .string c.request.method),
          ("url", .string c.request.urlText), time])
  | .answered k => if v.calls = .loader then some (.object [("loaded", nat k), time]) else none
  | .cut k => if v.calls = .transport then some (.object [("dropped", nat k), time]) else none
  | .transportClosed =>
    if v.calls = .transport then some (.string "transport closed") else none
  | .handled c => if v.handlers.contains task then callback c else none
  | .recorded r =>
    match v.records with
    | .hidden => none
    | .shown => some (.object [("record", record r)])
    | .refused => some (.object [("sink_refused", .int r.code)])
  | .paused k => if v.delays then some (.object [("delay", nat k), time]) else none
  | .began => ofTask "task_started" []
  | .ended => ofTask "task_ended" [time]
  | .dropped => ofTask "task_dropped" []
  | .told _ | .woken _ => none

/-- The notes that are told. -/
def notes (v : View) (list : List Note) : Json :=
  .array (list.filterMap (note v))

/-- The log lines among notes. -/
def lines (list : List Note) : List String :=
  list.filterMap fun n =>
    match n.what with
    | .told entry => some entry.line
    | _ => none

end Courier.Report
