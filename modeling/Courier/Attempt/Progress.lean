import Courier.Attempt.Event
import Courier.Json.Printer
import Courier.Time

/-!
# Progress — when the phases of an attempt ended

Five phases, each with the whole milliseconds from the start of the attempt to the last event of
that phase. While the attempt runs a phase is never set below the phases before it; when the
attempt ends, every phase takes over what the phases before it have, so the finished timings never
decrease. Nothing changes finished timings but a reset.
-/

namespace Courier

/-- A phase of an attempt. -/
inductive Phase where
  | nameLookup
  | connect
  | preTransfer
  | startTransfer
  | total
  deriving Repr, DecidableEq, Inhabited

/-- The phase an event ends; the first event ends none. -/
def Event.phase? : Event → Option Phase
  | .started => none
  | .dnsResolved => some .nameLookup
  | .connectionOpened => some .connect
  | .headersWritten | .bodyWritten => some .preTransfer
  | .headersReceived => some .startTransfer
  | .completed | .failed => some .total

/-- The timings of an attempt, in milliseconds. -/
structure Progress where
  nameLookup : Nat
  connect : Nat
  preTransfer : Nat
  startTransfer : Nat
  total : Nat
  deriving Repr, DecidableEq

namespace Progress

/-- No phase has ended. -/
def zero : Progress := ⟨0, 0, 0, 0, 0⟩

instance : Inhabited Progress := ⟨zero⟩

/-- The timings in the order of the phases. -/
def toList (p : Progress) : List Nat :=
  [p.nameLookup, p.connect, p.preTransfer, p.startTransfer, p.total]

/-- Whether no phase ends before the phase in front of it. -/
def isMonotonic (p : Progress) : Bool :=
  p.nameLookup ≤ p.connect && p.connect ≤ p.preTransfer && p.preTransfer ≤ p.startTransfer
    && p.startTransfer ≤ p.total

/-- Sets a phase, but not below any phase before it. -/
def record (p : Progress) (phase : Phase) (millis : Nat) : Progress :=
  match phase with
  | .nameLookup => { p with nameLookup := millis }
  | .connect => { p with connect := max millis p.nameLookup }
  | .preTransfer => { p with preTransfer := max millis (max p.nameLookup p.connect) }
  | .startTransfer =>
    { p with startTransfer := max millis (max (max p.nameLookup p.connect) p.preTransfer) }
  | .total =>
    { p with
      total := max millis (max (max (max p.nameLookup p.connect) p.preTransfer) p.startTransfer) }

/-- Lifts every phase to the phases before it. -/
def settle (p : Progress) : Progress :=
  let connect := max p.connect p.nameLookup
  let preTransfer := max p.preTransfer connect
  let startTransfer := max p.startTransfer preTransfer
  ⟨p.nameLookup, connect, preTransfer, startTransfer, max p.total startTransfer⟩

/-- The timings as an object. -/
def toJson (p : Progress) : Json :=
  .object [("namelookup_time", .int p.nameLookup), ("connect_time", .int p.connect),
    ("pretransfer_time", .int p.preTransfer), ("starttransfer_time", .int p.startTransfer),
    ("total_time", .int p.total)]

/-- The text of the timings. -/
def print (p : Progress) : String :=
  p.toJson.print

end Progress

/-- The timer of an attempt. Times are nanoseconds of the clock it is read from. -/
structure ProgressTimer where
  startedAt : Nat
  progress : Progress
  finished : Bool
  deriving Repr, DecidableEq, Inhabited

namespace ProgressTimer

/-- A timer that starts now. -/
def start (now : Nat) : ProgressTimer :=
  ⟨now, .zero, false⟩

/-- Forgets all timings and starts the clock anew. -/
def reset (_ : ProgressTimer) (now : Nat) : ProgressTimer :=
  start now

/-- Nanoseconds in whole milliseconds, or as many of these as sixty-four bits hold. -/
def wholeMillis (nanos : Nat) : Nat :=
  min (nanos / Duration.perMilli) (Nat.pow 2 64 - 1)

/-- The whole milliseconds since the start. -/
def elapsedMillis (t : ProgressTimer) (now : Nat) : Nat :=
  wholeMillis (now - t.startedAt)

/-- Takes note of an event. The first event starts the clock anew, a terminal one finishes the
timer, and a finished timer ignores them all. -/
def onEvent (t : ProgressTimer) (now : Nat) (e : Event) : ProgressTimer :=
  if t.finished then t
  else
    match e.phase? with
    | none => start now
    | some phase =>
      let progress := t.progress.record phase (t.elapsedMillis now)
      if e.isTerminal then { t with progress := progress.settle, finished := true }
      else { t with progress := progress }

end ProgressTimer

end Courier
