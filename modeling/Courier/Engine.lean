import Courier.Cache
import Courier.Completion
import Courier.Ledger
import Courier.Retry

/-!
# Engine — tasks that take turns

An engine runs tasks one at a time. A task drives a future, runs a load of the cache, gives the
outcome of a load to a future, or cleans the cache up. Tasks that can run stand in a queue in the
order they were spawned or woken; a task runs until it has to wait, and it is woken when its sleep
is over, when it is given a retry slot, or when the load it waits for ends. To abort a task is to
wake it: it is dropped instead of run when its turn comes.

`Engine.turn` is the turn of any task in the queue and `Engine.tick` one step of the clocks.
`Engine.advance` is one way of taking turns: the first in the queue has its turn until no task can
run, and then the clocks move step by step, with turns after each.
-/

namespace Courier

/-- What a task is there for. -/
inductive Job (α : Type) where
  /-- It drives a future. -/
  | drive (future : Nat) (work : Program (Outcome α))
  /-- It gives the outcome of a load to a future. -/
  | deliver (future : Nat) (load : Nat)
  /-- It runs a load of the cache, and takes the time it needs. -/
  | load (ticket : Ticket) (work : Program (Outcome Response × Duration))
  /-- It removes what has expired, for the next time at `due`. -/
  | clean (due : Option Nat)

/-- A task: its number, its job, whether it ran before, and whether it is to be dropped. -/
structure Task (α : Type) where
  number : Nat
  job : Job α
  begun : Bool
  aborted : Bool

/-- How far a load is: the tasks that wait for it, or its outcome. -/
inductive LoadState where
  | running (waiting : List Nat)
  | ended (outcome : Outcome Response)
  deriving Inhabited

/-- The tasks of a client and all they work on. -/
structure Engine (α : Type) where
  parts : Parts
  /-- How the cache loads a request. -/
  loader : Request → Program (Outcome Response)
  /-- How a response is given to a caller. -/
  present : Response → α
  ledger : Ledger
  /-- The tasks that have not ended, in the order they were spawned. -/
  tasks : List (Task α)
  /-- How many tasks were spawned. -/
  spawned : Nat
  /-- The tasks that can run, in the order of their turns. -/
  ready : List Nat
  /-- When sleeping tasks are to be woken, in the order they fell asleep. -/
  timers : List (Nat × Nat)
  futures : List (Completion α)
  cache : Cache
  loads : List LoadState
  /-- Whether the cleanup is told to stop. -/
  cleanerStopped : Bool
  /-- Whether no task can run any more. -/
  stopped : Bool

/-- A program and the time it takes. -/
def Program.timed {β : Type} (work : Program β) : Program (β × Duration) :=
  .clock fun start =>
    work.bind fun b => .clock fun stop => .done (b, ⟨stop.elapsed - start.elapsed⟩)

namespace Engine

variable {α : Type}

/-- An engine without tasks. -/
def new (parts : Parts) (loader : Request → Program (Outcome Response)) (present : Response → α)
    (ledger : Ledger) (config : CacheConfig) : Engine α where
  parts := parts
  loader := loader
  present := present
  ledger := ledger
  tasks := []
  spawned := 0
  ready := []
  timers := []
  futures := []
  cache := .new config
  loads := []
  cleanerStopped := false
  stopped := false

/-- The task with this number, if it has not ended. -/
def task? (e : Engine α) (task : Nat) : Option (Task α) :=
  e.tasks.find? (·.number == task)

/-- Changes a task. -/
def adjust (e : Engine α) (task : Nat) (change : Task α → Task α) : Engine α :=
  { e with tasks := e.tasks.map fun t => if t.number = task then change t else t }

/-- Notes what happened in a task or outside all of them. -/
def mark (e : Engine α) (task : Option Nat) (what : Happening) : Engine α :=
  { e with ledger := e.ledger.mark task what }

/-- Tells something to the log. -/
def tell (e : Engine α) (task : Option Nat) (entry : Log) : Engine α :=
  e.mark task (.told entry)

/-- Puts a task into the queue, unless it has ended or is in it. -/
def wake (e : Engine α) (task : Nat) : Engine α :=
  if (e.task? task).isSome && !e.ready.contains task then { e with ready := e.ready ++ [task] }
  else e

/-- Wakes tasks in order. -/
def wakeAll (e : Engine α) (tasks : List Nat) : Engine α :=
  tasks.foldl wake e

/-- Drops a task instead of running it, when its turn comes. -/
def abort (e : Engine α) (task : Nat) : Engine α :=
  (e.adjust task fun t => { t with aborted := true }).wake task

/-- What follows when a future is decided. -/
def follow (e : Engine α) (s : Settled) : Engine α :=
  let e := match s.abort with
    | some task => e.abort task
    | none => e
  match s.wake with
  | some waker => e.mark none (.woken waker)
  | none => e

/-- Changes a future. -/
def setFuture (e : Engine α) (future : Nat) (c : Completion α) : Engine α :=
  { e with futures := e.futures.set future c }

/-- Decides a future by a result. Tells whether that decided it. -/
def complete (e : Engine α) (future : Nat) (result : Outcome α) : Engine α × Bool :=
  match e.futures[future]? with
  | none => (e, false)
  | some c =>
    match c.complete result with
    | (_, none) => (e, false)
    | (c, some s) => ((e.setFuture future c).follow s, true)

/-- Decides a future whose task ended without a result. -/
def guardEnd (e : Engine α) (task : Nat) (future : Nat) (how : TaskEnd) : Engine α :=
  match e.complete future (.error (.taskFailed how)) with
  | (e, true) => e.tell (some task) (.settledByGuard how)
  | (e, false) => e

/-- Ends a task: a call it is inside is cut off, its slot goes on, and it is forgotten. -/
def retire (e : Engine α) (task : Nat) : Engine α :=
  let ledger := e.ledger.cut task
  let (pool, woken) := ledger.pool.leave task
  let e := { e with
    ledger := { ledger with pool := pool }
    tasks := e.tasks.filter (·.number != task)
    ready := e.ready.filter (· != task)
    timers := e.timers.filter (·.2 != task) }
  e.wakeAll woken.toList

/-- Keeps the outcome of a load and wakes the tasks that wait for it. -/
def endLoad (e : Engine α) (load : Nat) (outcome : Outcome Response) : Engine α :=
  let waiting := match e.loads[load]? with
    | some (.running waiting) => waiting
    | _ => []
  { e with loads := e.loads.set load (.ended outcome) }.wakeAll waiting

/-- Lets a task sleep up to a time. -/
def sleep (e : Engine α) (task : Nat) (due : Nat) : Engine α :=
  { e with timers := e.timers ++ [(due, task)] }

/-- Gives a task another job. -/
def setJob (e : Engine α) (task : Nat) (job : Job α) : Engine α :=
  e.adjust task fun t => { t with job := job }

/-- Runs the work of a task, and goes on by where it stops. -/
def resume {β : Type} (e : Engine α) (task : Nat) (work : Program β) (job : Program β → Job α)
    (done : Engine α → β → Engine α) (panicked : Engine α → String → Engine α) : Engine α :=
  let (ledger, stopped) := work.run e.parts task e.ledger
  let e := { e with ledger := ledger }
  match stopped with
  | .done value => done ((e.mark (some task) .ended).retire task) value
  | .panicked text => panicked ((e.mark (some task) .ended).retire task) text
  | .stalled => e.setJob task (job .stall)
  | .asleep due next => (e.setJob task (job next)).sleep task due
  | .queued next => e.setJob task (job next)

/-- The result of a future that gets the outcome of a load. -/
def sharedResult (e : Engine α) : Outcome Response → Outcome α
  | .ok r => .ok (e.present r)
  | .error f => .error (.sharedLoad f)

/-- A load gave its outcome: the cache takes note, and whoever waits is woken. -/
def finishLoad (e : Engine α) (task : Nat) (ticket : Ticket)
    (value : Outcome Response × Duration) : Engine α :=
  let (cache, told) := e.cache.finish e.ledger.elapsed ticket value.1 value.2
  let e := { e with cache := cache, ledger := e.ledger.tellAll (some task) told }
  e.endLoad ticket.load value.1

/-- Gives the outcome of a load to a future, or waits for it. -/
def deliver (e : Engine α) (task : Nat) (future load : Nat) : Engine α :=
  match e.loads[load]? with
  | none => e
  | some (.ended outcome) =>
    (((e.mark (some task) .ended).retire task).complete future (e.sharedResult outcome)).1
  | some (.running waiting) =>
    { e with loads := e.loads.set load (.running (waiting ++ [task])) }

/-- Removes what has expired, and tells how much that was. -/
def pass (e : Engine α) (task : Nat) : Engine α :=
  let (cache, removed) := e.cache.purge e.ledger.elapsed
  { e with cache := cache }.tell (some task) (.cleanupPass removed cache.size)

/-- Lets the cleanup sleep up to the next time, or go on at once where that has come. -/
def await (e : Engine α) (task : Nat) (due : Nat) : Engine α :=
  let e := e.setJob task (.clean (some due))
  if due ≤ e.ledger.elapsed then e.wake task else e.sleep task due

/-- Cleans up where it is time to, or stops where it is told to. Where both have come, chance has it
whether there is a last pass before the stop. -/
def clean (e : Engine α) (task : Nat) (due : Option Nat) : Engine α :=
  let period := e.cache.config.cleanup.nanos
  match due with
  | none =>
    if e.cleanerStopped then (e.retire task).tell (some task) .cleanupStopped
    else e.await task (e.ledger.elapsed + period)
  | some due =>
    let passes := due ≤ e.ledger.elapsed && (!e.cleanerStopped || e.parts.lastPass due)
    if passes && (!e.cleanerStopped || due + period ≤ e.ledger.elapsed) then
      (e.pass task).await task (due + period)
    else if e.cleanerStopped then
      let e := e.retire task
      (if passes then e.pass task else e).tell (some task) .cleanupStopped
    else e

/-- Drops a task before it has ended. -/
def drop (e : Engine α) (t : Task α) : Engine α :=
  let e := (e.mark (some t.number) .dropped).retire t.number
  match t.job with
  | .drive future _ => e.guardEnd t.number future .dropped
  | .deliver future _ => e.guardEnd t.number future .dropped
  | .load ticket _ => e.endLoad ticket.load (.error (.taskFailed .dropped))
  | .clean _ => e

/-- Runs a task that is not to be dropped. -/
def runJob (e : Engine α) (t : Task α) : Engine α :=
  match t.job with
  | .drive future work =>
    e.resume t.number work (.drive future)
      (fun e result => (e.complete future result).1)
      (fun e _ => e.guardEnd t.number future .panicked)
  | .deliver future load => e.deliver t.number future load
  | .load ticket work =>
    e.resume t.number work (.load ticket)
      (fun e value => e.finishLoad t.number ticket value)
      (fun e text => e.endLoad ticket.load (.error (.taskFailed (.panickedWith text))))
  | .clean due => e.clean t.number due

/-- Notes that a task runs for the first time. -/
def begin (e : Engine α) (t : Task α) : Engine α :=
  if t.begun then e
  else (e.adjust t.number fun t => { t with begun := true }).mark (some t.number) .began

/-- What a task does in its turn. -/
def poll (e : Engine α) (t : Task α) : Engine α :=
  if t.aborted then e.drop t else (e.begin t).runJob t

/-- Takes a task out of the queue. -/
def called (e : Engine α) (task : Nat) : Engine α :=
  { e with ready := e.ready.filter (· != task) }

/-- The turn of a task, if it is in the queue. -/
def turn (e : Engine α) (task : Nat) : Engine α :=
  if e.ready.contains task then
    match e.task? task with
    | none => e.called task
    | some t => (e.called task).poll t
  else e

/-- Lets the first in the queue have its turn until no task can run, or for `fuel` turns. -/
def drain : Nat → Engine α → Engine α
  | 0, e => e
  | fuel + 1, e =>
    match e.ready with
    | [] => e
    | task :: _ => drain fuel (e.turn task)

/-- Takes turns until no task can run. A task is woken at most once by a slot or a load while the
clocks stand still, so two turns for each are enough. -/
def settle (e : Engine α) : Engine α :=
  drain (e.ready.length + 2 * e.tasks.length + 1) e

/-- Moves the clocks by one step and wakes the tasks whose sleep is over. -/
def tick (e : Engine α) : Engine α :=
  let now := e.ledger.elapsed + e.ledger.tick
  let due := e.timers.filter fun t => t.1 ≤ now
  { e with
    ledger := { e.ledger with elapsed := now }
    timers := e.timers.filter fun t => now < t.1 }.wakeAll (due.map Prod.snd)

/-- Moves the clocks by some steps; after each, tasks take turns. -/
def ticks : Nat → Engine α → Engine α
  | 0, e => e
  | n + 1, e => ticks n e.tick.settle

/-- Lets tasks run, and then moves the clocks by some steps. -/
def advance (e : Engine α) (n : Nat) : Engine α :=
  ticks n e.settle

/-- Spawns a task. Where no task can run any more it is dropped at once. -/
def spawn (e : Engine α) (job : Job α) : Engine α :=
  let t : Task α := ⟨e.spawned, job, false, false⟩
  let e := { e with tasks := e.tasks ++ [t], spawned := e.spawned + 1 }
  if e.stopped then e.drop t else { e with ready := e.ready ++ [t.number] }

/-- Adds a future, and gives its number. -/
def addFuture (e : Engine α) (c : Completion α) : Engine α × Nat :=
  ({ e with futures := e.futures ++ [c] }, e.futures.length)

/-- Remembers the task that drives a future, unless the future is decided. -/
def attach (e : Engine α) (future task : Nat) : Engine α :=
  match e.futures[future]? with
  | none => e
  | some c => e.setFuture future (c.attach task)

/-- Spawns a task for a new future, and gives the number of the future. -/
def spawnFuture (e : Engine α) (job : Nat → Job α) : Engine α × Nat :=
  let (e, future) := e.addFuture .pending
  let task := e.spawned
  ((e.spawn (job future)).attach future task, future)

/-- Spawns a task that drives a new future. -/
def driveFuture (e : Engine α) (work : Program (Outcome α)) : Engine α × Nat :=
  e.spawnFuture fun future => .drive future work

/-- A future that is decided from the start. -/
def decidedFuture (e : Engine α) (result : Outcome α) : Engine α × Nat :=
  e.addFuture (.decided result)

/-- Cancels a future. Tells whether that decided it. -/
def cancel (e : Engine α) (future : Nat) : Engine α × Bool :=
  match e.futures[future]? with
  | none => (e, false)
  | some c =>
    match c.cancel with
    | (_, none) => (e, false)
    | (c, some s) => ((e.setFuture future c).follow s, true)

/-- Asks a future for its result; whoever asks is known by a waker. -/
def pollFuture (e : Engine α) (future waker : Nat) : Engine α × Option (Outcome α) :=
  match e.futures[future]? with
  | none => (e, none)
  | some c =>
    let (c, result) := c.poll waker
    (e.setFuture future c, result)

/-- Waits for a future for no longer than some time that ends before anything else happens. -/
def waitFuture (e : Engine α) (future : Nat) : Engine α × Outcome α :=
  match e.futures[future]? with
  | none => (e, .error .waitTimeout)
  | some c =>
    let (c, result) := c.waitTimeout
    (e.setFuture future c, result)

/-- Drops all tasks, in the order they were spawned; none can run any more. -/
def shutdown (e : Engine α) : Engine α :=
  e.tasks.foldl (fun e t => e.drop t) { e with stopped := true }

/-- Spawns the task that cleans the cache up. -/
def startCleaner (e : Engine α) : Engine α :=
  e.spawn (.clean none)

/-- The engine of a cache alone, with its cleanup. Refuses invalid settings. -/
def ofCache (config : CacheConfig) (parts : Parts) (loader : Request → Program (Outcome Response))
    (epoch : Int) : Outcome (Engine Response) :=
  config.validate.map fun () => (new parts loader id (.start epoch 0) config).startCleaner

/-- Tells the cleanup to stop. -/
def stopCleaner (e : Engine α) : Engine α :=
  if e.cleanerStopped then e
  else
    let cleaners := e.tasks.filterMap fun t =>
      match t.job with
      | .clean _ => some t.number
      | _ => none
    { e with cleanerStopped := true }.wakeAll cleaners

/-- Asks the cache for a request, and gives the number of the load whose outcome is the answer. -/
def lookup (e : Engine α) (request : Request) : Engine α × Nat :=
  let (cache, found) := e.cache.get e.ledger.elapsed request
  let e := { e with cache := cache, ledger := e.ledger.tellAll none found.told }
  match found.started with
  | none => (e, found.load)
  | some ticket =>
    let e := { e with loads := e.loads ++ [LoadState.running []] }
    (e.spawn (.load ticket (e.loader request).timed), found.load)

/-- The outcome of a load, once it has ended. -/
def loadResult? (e : Engine α) (load : Nat) : Option (Outcome Response) :=
  match e.loads[load]? with
  | some (.ended (.ok r)) => some (.ok r)
  | some (.ended (.error f)) => some (.error (.sharedLoad f))
  | _ => none

end Engine

end Courier
