import Courier.Handler
import Courier.Transport

/-!
# Program — what a task still has to do

A program is a tree of the things a task does and asks: it reads the clock, sleeps, calls the
transport, hands a record to the sink, waits for a retry slot, and goes on by what it is told. The
attempts, the retries and the dispatch of a request are programs; the engine runs many of them side
by side, and `Program.play` runs one of them alone.
-/

namespace Courier

/-- Something that happened. -/
inductive Happening where
  /-- Something was told to the log. -/
  | told (entry : Log)
  /-- The transport was called. -/
  | called (call : Call)
  /-- A call gave its outcome. -/
  | answered (number : Nat)
  /-- A call was cut off before it gave an outcome. -/
  | cut (number : Nat)
  /-- A handler was asked something. -/
  | handled (callback : Callback)
  /-- A record was handed to the sink. -/
  | recorded (record : Record)
  /-- The delay before a retry was asked for. -/
  | paused (attempt : Nat)
  /-- The transport was closed. -/
  | transportClosed
  /-- A task ran for the first time. -/
  | began
  /-- A task ended by itself, in a panic or not. -/
  | ended
  /-- A task was dropped before it ended. -/
  | dropped
  /-- Whoever waited for a future with this waker was woken. -/
  | woken (waker : Nat)
  deriving Repr, DecidableEq, Inhabited

/-- What a task still has to do before it has a value. -/
inductive Program (β : Type) where
  /-- It has the value. -/
  | done (value : β)
  /-- It panics. -/
  | panic (text : String)
  /-- It waits for nothing. -/
  | stall
  /-- It does something worth noting. -/
  | note (what : Happening) (next : Program β)
  /-- It reads the clock. -/
  | clock (next : Moment → Program β)
  /-- It sleeps. -/
  | sleep (length : Duration) (next : Program β)
  /-- It waits as long as the delayer says before a retry. -/
  | pause (attempt : Nat) (next : Program β)
  /-- It asks whether the client is closed. -/
  | closed (next : Bool → Program β)
  /-- It waits for a retry slot, which it gets unless the client is closed. -/
  | slot (next : Bool → Program β)
  /-- It calls the transport. -/
  | call (request : Request) (next : Behaviour → Program β)
  /-- The call it made has given its outcome. -/
  | answered (next : Program β)
  /-- It hands a record to the sink, which may refuse it for a reason. -/
  | record (record : Record) (next : Option String → Program β)

namespace Program

variable {β γ : Type}

instance : Inhabited (Program β) := ⟨.stall⟩

/-- Goes on with another program when there is a value. -/
def bind : Program β → (β → Program γ) → Program γ
  | .done value, k => k value
  | .panic text, _ => .panic text
  | .stall, _ => .stall
  | .note what next, k => .note what (next.bind k)
  | .clock next, k => .clock fun now => (next now).bind k
  | .sleep length next, k => .sleep length (next.bind k)
  | .pause attempt next, k => .pause attempt (next.bind k)
  | .closed next, k => .closed fun b => (next b).bind k
  | .slot next, k => .slot fun b => (next b).bind k
  | .call request next, k => .call request fun behaviour => (next behaviour).bind k
  | .answered next, k => .answered (next.bind k)
  | .record r next, k => .record r fun refusal => (next refusal).bind k

/-- Changes the value. -/
def map (f : β → γ) (p : Program β) : Program γ :=
  p.bind fun b => .done (f b)

/-- Notes several things first. -/
def notes (whats : List Happening) (next : Program β) : Program β :=
  whats.foldr .note next

/-- Tells something first. -/
def tell (entry : Log) (next : Program β) : Program β :=
  .note (.told entry) next

end Program

end Courier
