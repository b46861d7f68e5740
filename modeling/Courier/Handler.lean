import Courier.Json.Record
import Courier.Log

/-!
# Handler — what becomes of a response

A handler hears the events of every attempt of its call, turns a response into the result of the
call or turns it down, and hears of failures. Whoever may retry the call asks it which status its
result shows, and only a result that shows a status can be retried for it. What a handler does may
depend on everything it was asked before, which is its `Past`.
-/

namespace Courier

/-- What code that is not part of this library does when it is asked. -/
inductive Reply (β : Type) where
  | gives (value : β)
  | panics (text : String)
  deriving Inhabited

/-- Something a handler was asked, with its answer where there is one. -/
inductive Callback where
  | event (event : Event) (answer : Answer)
  | completed (response : Response)
  | failed (cause : Failure)
  /-- Which status the result shows that it has just given. -/
  | status
  deriving Repr, DecidableEq, Inhabited

/-- What a handler was asked so far, latest first. -/
abbrev Past := List Callback

/-- The latest response that a handler was given. -/
def Past.response? (past : Past) : Option Response :=
  past.findSome? fun
    | .completed r => some r
    | _ => none

/-- What a handler makes of a response, and what it tells about it. -/
structure Verdict (α : Type) where
  outcome : Outcome α
  told : List Log

/-- A handler of one call. -/
structure Handler (α : Type) where
  onEvent : Past → Event → Reply Answer
  onCompleted : Past → Response → Reply (Verdict α)
  onFailed : Past → Failure → Reply Unit
  /-- The status of the result that was made of the latest response; the past tells which it is. -/
  statusOf : Past → Reply (Option Nat)

namespace Handler

variable {α β : Type}

/-- A handler that only looks at responses. -/
def ofVerdict (judge : Response → Verdict α) (shows : Response → Option Nat) : Handler α where
  onEvent _ _ := .gives .proceed
  onCompleted _ r := .gives (judge r)
  onFailed _ _ := .gives ()
  statusOf past := .gives (past.response?.bind shows)

/-- Changes the results of a handler, but not the status they show. -/
def map (f : α → β) (h : Handler α) : Handler β where
  onEvent := h.onEvent
  onCompleted past r :=
    match h.onCompleted past r with
    | .panics text => .panics text
    | .gives v => .gives ⟨v.outcome.map f, v.told⟩
  onFailed := h.onFailed
  statusOf := h.statusOf

/-- Gives every response as it is, and shows its status. -/
def response : Handler Response :=
  ofVerdict (fun r => ⟨.ok r, []⟩) fun r => some r.code

/-- Gives the length of the body, and shows no status. -/
def length : Handler Nat :=
  ofVerdict (fun r => ⟨.ok r.body.length, []⟩) fun _ => none

end Handler

/-- The statuses whose bodies are read as JSON. -/
structure JsonHandler where
  expected : List Nat
  deriving Repr, DecidableEq, Inhabited

namespace JsonHandler

/-- A handler that expects no status by name. -/
def new : JsonHandler := ⟨[]⟩

/-- Expects one more status. -/
def expect (h : JsonHandler) (code : Nat) : JsonHandler :=
  ⟨enroll id code h.expected⟩

/-- Whether a status is expected; 200 is where none is expected by name. -/
def accepts (h : JsonHandler) (code : Nat) : Bool :=
  if h.expected.isEmpty then code == 200 else h.expected.contains code

/-- What becomes of a response: its body is read if its status is expected, and else it is turned
down with its body. -/
def judge {α : Type} (h : JsonHandler) (read : Json.Reader α) (r : Response) : Verdict α :=
  if h.accepts r.code then ⟨r.json read, []⟩
  else ⟨.error (.rejected r.status r.text r.fields), [.unexpectedStatus r.code]⟩

/-- The handler that reads bodies in this way. Its results show no status. -/
def handler {α : Type} (h : JsonHandler) (read : Json.Reader α) : Handler α :=
  .ofVerdict (h.judge read) fun _ => none

/-- The handler shown to people. -/
def describe (h : JsonHandler) : String :=
  "JsonHandler \x7b expected: \x7b" ++ String.intercalate ", " (h.expected.map Log.number)
    ++ "\x7d \x7d"

end JsonHandler

end Courier
