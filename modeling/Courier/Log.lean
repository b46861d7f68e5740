import Courier.Attempt.Record

/-!
# Log — what the library tells about its work

Each entry is a fact with its data; `Log.line` is the one place where it is put into words, as a
level, a source, a message and named values.
-/

namespace Courier

/-- How much an entry matters. -/
inductive Level where
  | trace
  | debug
  | info
  | warn
  deriving Repr, DecidableEq, Inhabited

/-- The name of a level. -/
def Level.name : Level → String
  | .trace => "TRACE"
  | .debug => "DEBUG"
  | .info => "INFO"
  | .warn => "WARN"

/-- Something worth telling. -/
inductive Log where
  | retrying (attempt : Nat) (last : Option Int) (url : String)
  | startingAttempt (attempt : Nat) (method url : String)
  | retriesExhausted (attempts : Nat) (url : String)
  | retriedFinished (attempts : Nat) (method url : String)
  | eventIgnored (event : Event)
  | transportEvent (event : Event) (attempt : Nat)
  | abortedByHandler (event : Event)
  | recordDropped (reason : String)
  | requestFailed (cause : Failure) (attempt : Nat) (method url : String)
  | profile (record : Record)
  | unexpectedStatus (code : Nat)
  | sending (method url : String)
  | transportClosed
  | hostResolved (host : String) (count : Nat)
  | throughCache (url : String)
  | joiningRefresh (url : String)
  | reloading (url : String)
  | refreshing (url : String)
  | loadCompleted (url : String)
  | loadFailed (url : String) (cause : Failure) (keepsValue : Bool)
  | evicted (url : String)
  | cleanupPass (removed remaining : Nat)
  | cleanupStopped
  | settledByGuard (how : TaskEnd)
  | clientBuilt (poolSize cacheSize expireMillis : Nat)
  | clientClosed
  | replacingClosedClient
  deriving Repr, DecidableEq, Inhabited

namespace Log

/-- A number as text. -/
def number (n : Nat) : String :=
  String.ofList (Numeral.digits n)

/-- The level, the source, the message and the named values of an entry. -/
def parts : Log → Level × String × String × List (String × String)
  | retrying attempt last url =>
    (.info, "retry", "Retrying request",
      [("attempt", number attempt)] ++
        (match last with
          | some code => [("last_status", String.ofList (Numeral.integer code))]
          | none => []) ++ [("url", url)])
  | startingAttempt attempt method url =>
    (.debug, "retry", "Starting attempt",
      [("attempt", number attempt), ("method", method), ("url", url)])
  | retriesExhausted attempts url =>
    (.debug, "retry", "Retries exhausted", [("attempts", number attempts), ("url", url)])
  | retriedFinished attempts method url =>
    (.debug, "client", "Retried request finished",
      [("attempts", number attempts), ("method", method), ("url", url)])
  | eventIgnored event =>
    (.debug, "progress", "Ignoring event after attempt finished", [("event", event.name)])
  | transportEvent event attempt =>
    (.debug, "instrument", "Transport event",
      [("event", event.name), ("attempt", number attempt)])
  | abortedByHandler event =>
    (.debug, "transport", "Attempt aborted by handler", [("event", event.name)])
  | recordDropped reason =>
    (.debug, "instrument", "Dropping profiling record", [("error", reason)])
  | requestFailed cause attempt method url =>
    (.warn, "instrument", "Request failed",
      [("error", cause.message), ("attempt", number attempt), ("method", method), ("url", url)])
  | profile record => (.trace, "profiling", record.line, [])
  | unexpectedStatus code =>
    (.debug, "handler", "Unexpected status for JSON handler", [("status", number code)])
  | sending method url =>
    (.debug, "transport", "Executing HTTP request", [("method", method), ("url", url)])
  | transportClosed => (.debug, "transport", "Transport closed", [])
  | hostResolved host count =>
    (.debug, "resolver", "Resolved host", [("host", host), ("count", number count)])
  | throughCache url => (.debug, "client", "Executing through cache", [("url", url)])
  | joiningRefresh url =>
    (.debug, "cache", "Cache entry expired, joining refresh", [("url", url)])
  | reloading url => (.debug, "cache", "Cache entry expired, reloading", [("url", url)])
  | refreshing url => (.debug, "cache", "Refreshing cache entry", [("url", url)])
  | loadCompleted url => (.debug, "cache", "Cache load completed", [("url", url)])
  | loadFailed url cause keepsValue =>
    (.debug, "cache", "Cache load failed",
      [("url", url), ("error", cause.message),
        ("keeps_value", if keepsValue then "true" else "false")])
  | evicted url =>
    (.debug, "cache", "Evicted least recently used cache entry", [("url", url)])
  | cleanupPass removed remaining =>
    (.debug, "cache", "Cache cleanup pass",
      [("removed", number removed), ("remaining", number remaining)])
  | cleanupStopped => (.debug, "cache", "Cache cleanup stopped", [])
  | settledByGuard how =>
    (.warn, "future", "Response future completed by guard", [("reason", how.reason)])
  | clientBuilt poolSize cacheSize expireMillis =>
    (.debug, "client", "Client built",
      [("retry_pool_size", number poolSize), ("cache_max_size", number cacheSize),
        ("cache_ttl_ms", number expireMillis)])
  | clientClosed => (.info, "client", "Client closed", [])
  | replacingClosedClient => (.debug, "factory", "Replacing closed client", [])

/-- The name all sources start with. -/
def family : String := "callgate::"

/-- An entry in words. -/
def line (entry : Log) : String :=
  let (level, source, message, values) := entry.parts
  level.name ++ " " ++ family ++ source ++ " " ++ message ++
    String.join (values.map fun (name, value) => " " ++ name ++ "=" ++ value)

end Log

end Courier
