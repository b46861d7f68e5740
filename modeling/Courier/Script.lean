import Courier.Client

/-!
# Script — collaborators that play a part

A script says what a transport or a loader does with one call after the other: for each path a
list of parts, the last of which repeats, and one list for all other paths. Scripts are how clients
are tried out without a network.
-/

namespace Courier

open Courier.Text

/-- How a part ends. -/
inductive Ending where
  | stall
  | panic (text : String)
  | fail (cause : Failure)
  | respond (response : Response)
  /-- A response whose body is the number of the call, after some text. -/
  | echo (status : Status) (fields : Http.Fields) (text : String)
  deriving Repr, Inhabited

/-- A part: the events that are reported, each after some milliseconds, or none to report the usual
ones; the milliseconds that follow; and the end. -/
structure Part where
  events : Option (List (Nat × Event))
  millis : Nat
  ending : Ending
  deriving Repr, Inhabited

/-- The parts for each path, and for all other paths. -/
structure Script where
  routes : List (String × List Part)
  others : List Part
  deriving Repr, Inhabited

namespace Ending

/-- An empty success. -/
def success : Ending :=
  .respond ⟨.ok, [], []⟩

/-- The end of a call; `ahead` comes before a response. -/
def play (ending : Ending) (number : Nat) (ahead : Behaviour → Behaviour) : Behaviour :=
  match ending with
  | .stall => .stall
  | .panic text => .panic text
  | .fail cause => .give (.error cause)
  | .respond response => ahead (.give (.ok response))
  | .echo status fields text =>
    ahead (.give (.ok ⟨status, fields, Utf8.encode (text ++ Log.number number)⟩))

end Ending

namespace Part

/-- The events of a part that does not list them. -/
def usual (request : Request) : List Event :=
  [.started, .dnsResolved, .connectionOpened, .headersWritten] ++
    (if request.body.isSome then [.bodyWritten] else [])

/-- What a transport does with a call that has this part. -/
def play (part : Part) (call : Call) : Behaviour :=
  match part.events with
  | none =>
    .notifyAll (usual call.request)
      (.wait (.ofMillis part.millis)
        (part.ending.play call.number fun next => .notify .headersReceived next))
  | some events =>
    events.foldr (fun (millis, event) next => .wait (.ofMillis millis) (.notify event next))
      (.wait (.ofMillis part.millis) (part.ending.play call.number id))

/-- What a loader does with a call that has this part. -/
def load (part : Part) (call : Call) : Behaviour :=
  .wait (.ofMillis part.millis) (part.ending.play call.number id)

/-- The part of a list that comes after some others; the last one repeats. -/
def after (parts : List Part) (count : Nat) : Option Part :=
  (parts[count]?).or parts.getLast?

end Part

namespace Script

/-- The part that a transport plays for a call: paths that the script does not name share the
other parts. -/
def part? (s : Script) (earlier : List Call) (call : Call) : Option Part :=
  match s.routes.lookup call.request.url.pathText with
  | some parts =>
    Part.after parts (earlier.countP fun c => c.request.url.pathText == call.request.url.pathText)
  | none =>
    Part.after s.others
      (earlier.countP fun c => (s.routes.lookup c.request.url.pathText).isNone)

/-- A transport that plays a script, and fails where it was closed. -/
def transport (s : Script) : Transport := fun earlier call =>
  if call.late then .give (.error .closed)
  else ((s.part? earlier call).getD ⟨none, 0, .success⟩).play call

/-- The name a loader knows a request by. -/
def loadName (request : Request) : String :=
  String.ofList (request.url.pathText.toList.drop 1)

/-- A loader that plays a script by names; every name goes through the other parts by itself. -/
def loader (s : Script) : Transport := fun earlier call =>
  let name := loadName call.request
  let count := earlier.countP fun c => loadName c.request == name
  let parts := (s.routes.lookup name).getD s.others
  ((Part.after parts count).getD ⟨none, 0, .echo .ok [] ""⟩).load call

/-- A transport that answers every call with an empty success, and goes on when it is closed. -/
def lenient : Transport := fun _ _ => .give (.ok ⟨.ok, [], []⟩)

end Script

namespace Program

/-- A call whose events nobody hears. -/
def ofBehaviour : Behaviour → Program (Outcome Response)
  | .report _ next => ofBehaviour (next .proceed)
  | .tell entry next => .tell entry (ofBehaviour next)
  | .wait length next => .sleep length (ofBehaviour next)
  | .stall => .stall
  | .panic text => .panic text
  | .give outcome => .answered (.done outcome)

/-- Loads a request by a call whose events nobody hears. -/
def fetch (request : Request) : Program (Outcome Response) :=
  .call request ofBehaviour

end Program

/-- What a handler that is tried out answers: the events it aborts at, the failures it gives for
response codes, and the status it shows. -/
structure HandlerScript where
  abortAt : List Event
  failOn : List (Nat × Failure)
  /-- `none` shows no status, `some none` the response code, `some (some n)` always `n`. -/
  shows : Option (Option Nat)
  deriving Inhabited

/-- The handler that plays a script. Its results are the response code and the length of the
body. -/
def HandlerScript.handler (s : HandlerScript) : Handler (Nat × Nat) where
  onEvent _ e := .gives (if s.abortAt.contains e then .abort else .proceed)
  onCompleted _ r :=
    match s.failOn.lookup r.code with
    | some cause => .gives ⟨.error cause, []⟩
    | none => .gives ⟨.ok (r.code, r.body.length), []⟩
  onFailed _ _ := .gives ()
  statusOf past := .gives (past.response?.bind fun r => s.shows.map fun n => n.getD r.code)

end Courier
