import Courier.Program

/-!
# Attempt — one call of the transport, observed

The observer of an attempt stands between the transport and the handler. It keeps the timings,
passes every event on and hands the answer back unchanged. When the attempt gives its outcome, one
record goes to the sink, and then the handler gets the response or hears of the failure. A sink
that refuses the record changes nothing of that.
-/

namespace Courier

/-- What an attempt came to: the result, the response code of the transport, and what the handler
was asked so far. -/
structure Attempted (α : Type) where
  result : Outcome α
  code : Int
  past : Past

/-- The observer of an attempt. -/
structure Observer (α : Type) where
  handler : Handler α
  past : Past
  timer : ProgressTimer
  request : Request
  position : Position

/-- The event that an outcome means. -/
def Event.ofOutcome {α : Type} : Outcome α → Event
  | .ok _ => .completed
  | .error _ => .failed

/-- The response code that an outcome means. -/
def codeOf : Outcome Response → Int
  | .ok r => r.code
  | .error _ => noResponseCode

/-- The response of an outcome. -/
def responseOf : Outcome Response → Option Response
  | .ok r => some r
  | .error _ => none

namespace Observer

variable {α : Type}

/-- What is told about an event. -/
def toldOf (o : Observer α) (e : Event) : List Log :=
  [.transportEvent e o.position.attempt] ++ (if o.timer.finished then [.eventIgnored e] else [])

/-- Hears an event: takes the time, then asks the handler. -/
def hear (o : Observer α) (e : Event) (next : Observer α → Answer → Program (Attempted α)) :
    Program (Attempted α) :=
  .clock fun now =>
    .notes ((o.toldOf e).map .told)
      (match o.handler.onEvent o.past e with
      | .panics text => .panic text
      | .gives answer =>
        .note (.handled (.event e answer))
          (next { o with
            past := .event e answer :: o.past
            timer := o.timer.onEvent now.elapsed e } answer))

/-- The record of the attempt at its end. -/
def record (o : Observer α) (outcome : Outcome Response) (now : Moment) : Record :=
  .ofAttempt o.request (responseOf outcome) o.position
    (o.timer.onEvent now.elapsed (.ofOutcome outcome)).progress now

/-- Gives the handler its response, or tells it of the failure. -/
def deliver (o : Observer α) (outcome : Outcome Response) : Program (Attempted α) :=
  match outcome with
  | .ok r =>
    .note (.handled (.completed r))
      (match o.handler.onCompleted o.past r with
      | .panics text => .panic text
      | .gives v =>
        .notes (v.told.map .told)
          (.done ⟨v.outcome, codeOf outcome, .completed r :: o.past⟩))
  | .error f =>
    .tell (.requestFailed f o.position.attempt o.request.method o.request.urlText)
      (.note (.handled (.failed f))
        (match o.handler.onFailed o.past f with
        | .panics text => .panic text
        | .gives () => .done ⟨.error f, codeOf outcome, .failed f :: o.past⟩))

/-- What is told of a record that was refused. -/
def refused : Option String → List Happening
  | none => []
  | some reason => [.told (.recordDropped (ProfilingFailure.sink reason).message)]

/-- What is told of an event that comes after the end of the attempt. -/
def late (o : Observer α) (e : Event) : List Happening :=
  if o.timer.finished then [.told (.eventIgnored e)] else []

/-- Ends the attempt: the record goes to the sink, then the outcome to the handler. -/
def finish (o : Observer α) (outcome : Outcome Response) : Program (Attempted α) :=
  .clock fun now =>
    .notes (o.late (.ofOutcome outcome))
      (.record (o.record outcome now) fun refusal =>
        .notes (refused refusal) (o.deliver outcome))

/-- Watches what the transport does with the call. -/
def follow (o : Observer α) : Behaviour → Program (Attempted α)
  | .report e next => o.hear e fun o answer => o.follow (next answer)
  | .tell entry next => .tell entry (o.follow next)
  | .wait length next => .sleep length (o.follow next)
  | .stall => .stall
  | .panic text => .panic text
  | .give outcome => .answered (o.finish outcome)

end Observer

/-- One attempt of a request, observed from now on. -/
def attempt {α : Type} (request : Request) (handler : Handler α) (past : Past)
    (position : Position) : Program (Attempted α) :=
  .clock fun now =>
    .call request fun behaviour =>
      Observer.follow ⟨handler, past, .start now.elapsed, request, position⟩ behaviour

end Courier
