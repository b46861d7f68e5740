import Courier.Log

/-!
# Transport — how an attempt is carried out

A transport answers a call with a behaviour: a tree of the events it reports, the answers it may
get to them, the time it takes and the outcome. Which behaviour that is may depend on all calls
made before. A call made after the transport was closed says so.
-/

namespace Courier

/-- A call of a transport: its number, counted from one, what is requested, when, in nanoseconds,
and whether the transport had been closed. -/
structure Call where
  number : Nat
  request : Request
  time : Nat
  late : Bool
  deriving Repr, DecidableEq, Inhabited

/-- What a transport does with a call. -/
inductive Behaviour where
  /-- Reports an event and goes on by the answer. -/
  | report (event : Event) (next : Answer → Behaviour)
  /-- Tells something. -/
  | tell (entry : Log) (next : Behaviour)
  /-- Lets time pass. -/
  | wait (length : Duration) (next : Behaviour)
  /-- Never ends. -/
  | stall
  /-- Panics. -/
  | panic (text : String)
  /-- Ends. -/
  | give (outcome : Outcome Response)

namespace Behaviour

instance : Inhabited Behaviour := ⟨.stall⟩

/-- Reports an event; if the answer is to abort, that is told and the attempt fails. -/
def notify (event : Event) (next : Behaviour) : Behaviour :=
  .report event fun answer =>
    match answer with
    | .proceed => next
    | .abort => .tell (.abortedByHandler event) (.give (.error .aborted))

/-- Reports events one after the other. -/
def notifyAll (events : List Event) (next : Behaviour) : Behaviour :=
  events.foldr notify next

/-- What comes of a behaviour: the events it reported, what it told and how it ended, if it did. -/
structure Heard where
  events : List Event
  told : List Log
  ending : Option (Outcome Response)
  deriving Inhabited

/-- Lets a listener answer the events of a behaviour. -/
def heardBy (listener : Event → Answer) : Behaviour → Heard
  | .report e next =>
    let rest := (next (listener e)).heardBy listener
    { rest with events := e :: rest.events }
  | .tell entry next =>
    let rest := next.heardBy listener
    { rest with told := entry :: rest.told }
  | .wait _ next => next.heardBy listener
  | .stall | .panic _ => ⟨[], [], none⟩
  | .give outcome => ⟨[], [], some outcome⟩

end Behaviour

/-- A transport: what it does with a call, given the calls before it, latest first. -/
abbrev Transport := List Call → Call → Behaviour

end Courier
