/-!
# Event — the life of an attempt

A transport reports how far it is with an attempt, and whoever listens may stop it. Completion and
failure are never reported: they follow from what the attempt gives.
-/

namespace Courier

/-- A step in the life of an attempt. -/
inductive Event where
  | started
  | dnsResolved
  | connectionOpened
  | headersWritten
  | bodyWritten
  | headersReceived
  | completed
  | failed
  deriving Repr, DecidableEq, Inhabited

namespace Event

/-- All events, in their order. -/
def all : List Event :=
  [.started, .dnsResolved, .connectionOpened, .headersWritten, .bodyWritten, .headersReceived,
    .completed, .failed]

/-- The name of an event. -/
def name : Event → String
  | .started => "Started"
  | .dnsResolved => "DnsResolved"
  | .connectionOpened => "ConnectionOpened"
  | .headersWritten => "HeadersWritten"
  | .bodyWritten => "BodyWritten"
  | .headersReceived => "HeadersReceived"
  | .completed => "Completed"
  | .failed => "Failed"

/-- The event with this name. -/
def ofName? (s : String) : Option Event :=
  all.find? (·.name == s)

/-- Whether the attempt is over. -/
def isTerminal : Event → Bool
  | .completed | .failed => true
  | _ => false

end Event

/-- Whether an attempt goes on. -/
inductive Answer where
  | proceed
  | abort
  deriving Repr, DecidableEq, Inhabited

/-- The name of an answer. -/
def Answer.name : Answer → String
  | .proceed => "Continue"
  | .abort => "Abort"

end Courier
