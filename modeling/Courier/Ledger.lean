import Courier.Program
import Courier.SlotPool

/-!
# Ledger — what the tasks of a client share

The clocks, the calls of the transport and the records so far, the calls that have not given their
outcome, whether client and transport are closed, the pool of retry slots, and a note of everything
that happened. The collaborators of a client answer from their own part of it: the transport from
the calls, the sink from the records, the delayer from the delays it was asked for.
-/

namespace Courier

/-- Where records go: whether their lines are told to the log, and for what reason a record is
refused, given the records before it, latest first. -/
structure Sink where
  logs : Bool
  refuses : List Record → Record → Option String

namespace Sink

/-- Tells the line of every record to the log. -/
def logging : Sink := ⟨true, fun _ _ => none⟩

/-- Takes every record and tells nothing. -/
def silent : Sink := ⟨false, fun _ _ => none⟩

/-- Refuses every record for one reason. -/
def refusing (reason : String) : Sink := ⟨false, fun _ _ => some reason⟩

instance : Inhabited Sink := ⟨silent⟩

end Sink

/-- How long to wait before a retry, given the numbers of the retries before it, latest first. -/
abbrev Delayer := List Nat → Nat → Duration

/-- The collaborators of a client. -/
structure Parts where
  transport : Transport
  sink : Sink
  delayer : Delayer
  /-- Whether a cleanup that is told to stop makes the pass first whose time has come, by that time.
  Which of the two comes first is left to chance. -/
  lastPass : Nat → Bool

/-- A note: when something happened, in nanoseconds, in which task, and what it was. -/
structure Note where
  time : Nat
  task : Option Nat
  what : Happening
  deriving Repr, DecidableEq, Inhabited

/-- What the tasks of a client share. Lists of what happened have the latest first. -/
structure Ledger where
  /-- The wall clock when the clocks were started, in nanoseconds since 1970-01-01. -/
  epoch : Int
  /-- The nanoseconds since then. -/
  elapsed : Nat
  /-- The nanoseconds that sleeping is rounded up to. -/
  tick : Nat
  calls : List Call
  records : List Record
  /-- The retries that the delayer was asked about. -/
  pauses : List Nat
  /-- The tasks inside a call, with the number of the call. -/
  running : List (Nat × Nat)
  /-- Whether the client is closed. -/
  closed : Bool
  /-- Whether the transport is closed. -/
  shut : Bool
  pool : SlotPool
  notes : List Note
  deriving Inhabited

namespace Ledger

/-- The ledger of a client with this many slots, at this time. -/
def start (epoch : Int) (slots : Nat) : Ledger where
  epoch := epoch
  elapsed := 0
  tick := Duration.perMilli
  calls := []
  records := []
  pauses := []
  running := []
  closed := false
  shut := false
  pool := .new slots
  notes := []

/-- The present moment. -/
def now (l : Ledger) : Moment :=
  ⟨l.elapsed, l.epoch + l.elapsed⟩

/-- The end of a sleep that starts now. -/
def due (l : Ledger) (length : Duration) : Nat :=
  (l.elapsed + length.nanos + (l.tick - 1)) / l.tick * l.tick

/-- Notes what happened in a task or outside all of them. -/
def mark (l : Ledger) (task : Option Nat) (what : Happening) : Ledger :=
  { l with notes := ⟨l.elapsed, task, what⟩ :: l.notes }

/-- Tells something to the log. -/
def tell (l : Ledger) (task : Option Nat) (entry : Log) : Ledger :=
  l.mark task (.told entry)

/-- Tells several things to the log. -/
def tellAll (l : Ledger) (task : Option Nat) (entries : List Log) : Ledger :=
  entries.foldl (fun l entry => l.tell task entry) l

/-- The next call of the transport, as it would be made now. -/
def nextCall (l : Ledger) (request : Request) : Call :=
  ⟨l.calls.length + 1, request, l.elapsed, l.shut⟩

/-- A task calls the transport. -/
def call (l : Ledger) (parts : Parts) (task : Nat) (request : Request) : Ledger × Behaviour :=
  let call := l.nextCall request
  let l := { l with calls := call :: l.calls, running := (task, call.number) :: l.running }
  (l.mark task (.called call), parts.transport l.calls.tail call)

/-- The call of a task has given its outcome. -/
def answered (l : Ledger) (task : Nat) : Ledger :=
  match l.running.lookup task with
  | none => l
  | some number =>
    { l with running := l.running.filter (·.1 != task) }.mark task (.answered number)

/-- The call of a task, if it is inside one, is cut off. -/
def cut (l : Ledger) (task : Nat) : Ledger :=
  match l.running.lookup task with
  | none => l
  | some number => { l with running := l.running.filter (·.1 != task) }.mark task (.cut number)

/-- The first task is given up at the tick after a limit. -/
def giveUp (l : Ledger) (limit : Nat) : Ledger :=
  { l with elapsed := limit + l.tick }.cut 0

/-- A task hands a record to the sink. -/
def record (l : Ledger) (parts : Parts) (task : Nat) (r : Record) : Ledger × Option String :=
  let refusal := parts.sink.refuses l.records r
  let l := { l with records := r :: l.records }.mark task (.recorded r)
  (if parts.sink.logs then l.tell task (.profile r) else l, refusal)

/-- A task asks how long to wait before a retry. -/
def pause (l : Ledger) (parts : Parts) (task : Nat) (attempt : Nat) : Ledger × Duration :=
  ({ l with pauses := attempt :: l.pauses }.mark task (.paused attempt),
    parts.delayer l.pauses attempt)

end Ledger

/-- Where a task stops for the time being. -/
inductive Stopped (β : Type) where
  /-- It has its value. -/
  | done (value : β)
  /-- It panicked. -/
  | panicked (text : String)
  /-- It waits for nothing. -/
  | stalled
  /-- It sleeps up to a time. -/
  | asleep (due : Nat) (next : Program β)
  /-- It waits for a slot. -/
  | queued (next : Program β)

namespace Program

variable {β : Type}

/-- Runs a task as far as it gets. A sleep that is over as soon as it begins is none. -/
def run (parts : Parts) (task : Nat) : Ledger → Program β → Ledger × Stopped β
  | l, .done value => (l, .done value)
  | l, .panic text => (l, .panicked text)
  | l, .stall => (l, .stalled)
  | l, .note what next => run parts task (l.mark task what) next
  | l, .clock next => run parts task l (next l.now)
  | l, .sleep length next =>
    if l.due length ≤ l.elapsed then run parts task l next else (l, .asleep (l.due length) next)
  | l, .pause attempt next =>
    let (l, length) := l.pause parts task attempt
    if l.due length ≤ l.elapsed then run parts task l next else (l, .asleep (l.due length) next)
  | l, .closed next => run parts task l (next l.closed)
  | l, .slot next =>
    match l.pool.acquire task with
    | (pool, .taken) => run parts task { l with pool := pool } (next true)
    | (pool, .turnedDown) => run parts task { l with pool := pool } (next false)
    | (pool, .wait) => ({ l with pool := pool }, .queued (.slot next))
  | l, .call request next =>
    let (l, behaviour) := l.call parts task request
    run parts task l (next behaviour)
  | l, .answered next => run parts task (l.answered task) next
  | l, .record r next =>
    let (l, refusal) := l.record parts task r
    run parts task l (next refusal)

/-- How a task that runs alone ends. -/
inductive End (β : Type) where
  | done (value : β)
  | panicked (text : String)
  /-- It waits for nothing, or past the limit. -/
  | never

/-- Runs a task alone, on clocks that move only while it waits. A task that is not at its end by a
limit is given up at the next tick. -/
def play (parts : Parts) (limit : Nat) : Ledger → Program β → Ledger × End β
  | l, .done value => (l, .done value)
  | l, .panic text => (l.cut 0, .panicked text)
  | l, .stall => (l.giveUp limit, .never)
  | l, .note what next => play parts limit (l.mark (some 0) what) next
  | l, .clock next => play parts limit l (next l.now)
  | l, .sleep length next =>
    if l.due length > limit then (l.giveUp limit, .never)
    else play parts limit { l with elapsed := l.due length } next
  | l, .pause attempt next =>
    let (l, length) := l.pause parts 0 attempt
    if l.due length > limit then (l.giveUp limit, .never)
    else play parts limit { l with elapsed := l.due length } next
  | l, .closed next => play parts limit l (next l.closed)
  | l, .slot next =>
    match l.pool.acquire 0 with
    | (pool, .taken) => play parts limit { l with pool := pool } (next true)
    | (pool, .turnedDown) => play parts limit { l with pool := pool } (next false)
    | (pool, .wait) => ({ l with pool := pool }.giveUp limit, .never)
  | l, .call request next =>
    let (l, behaviour) := l.call parts 0 request
    play parts limit l (next behaviour)
  | l, .answered next => play parts limit (l.answered 0) next
  | l, .record r next =>
    let (l, refusal) := l.record parts 0 r
    play parts limit l (next refusal)

end Program

end Courier
