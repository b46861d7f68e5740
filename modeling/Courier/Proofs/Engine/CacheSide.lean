import Courier.Client

/-!
# The cache side of an engine

Most of what an engine does does not concern its cache.  The `CacheSide` of an engine is what does:
the cache, the loads, the clock, and which tasks there are and what they load.  Every operation is
described by what it does to the cache side, and most leave it alone.
-/

namespace Courier

variable {α β : Type}

/-- The load a job runs, if it runs one. -/
def Job.ticket? : Job α → Option Ticket
  | .load ticket _ => some ticket
  | _ => none

/-- The outcome of a load, once it has ended. -/
def LoadState.outcome? : LoadState → Option (Outcome Response)
  | .running _ => none
  | .ended outcome => some outcome

/-- What of an engine concerns its cache. -/
structure CacheSide where
  cache : Cache
  /-- The outcomes of the loads that have ended. -/
  loads : List (Option (Outcome Response))
  elapsed : Nat
  /-- The tasks that have not ended, by number, with the loads they run. -/
  tasks : List (Nat × Option Ticket)
  spawned : Nat

namespace CacheSide

/-- Forgets a task. -/
def retire (s : CacheSide) (task : Nat) : CacheSide :=
  { s with tasks := s.tasks.filter fun t => t.1 != task }

/-- Gives a task another job. -/
def setJob (s : CacheSide) (task : Nat) (ticket : Option Ticket) : CacheSide :=
  { s with tasks := s.tasks.map fun t => if t.1 = task then (t.1, ticket) else t }

/-- Ends a load. -/
def endLoad (s : CacheSide) (load : Nat) (outcome : Outcome Response) : CacheSide :=
  { s with loads := s.loads.set load (some outcome) }

/-- Adds a load. -/
def addLoad (s : CacheSide) : CacheSide :=
  { s with loads := s.loads ++ [none] }

/-- Adds a task. -/
def spawn (s : CacheSide) (ticket : Option Ticket) : CacheSide :=
  { s with tasks := s.tasks ++ [(s.spawned, ticket)], spawned := s.spawned + 1 }

end CacheSide

namespace Ledger

variable (l : Ledger) (task : Nat)

/-- Whatever is told to the log, the clocks stand still. -/
theorem elapsed_tellAll (teller : Option Nat) (entries : List Log) :
    (l.tellAll teller entries).elapsed = l.elapsed := by
  rw [tellAll]
  induction entries generalizing l with
  | nil => rfl
  | cons entry rest ih => exact ih (l.tell teller entry)

/-- They stand still when a call gives its outcome. -/
theorem elapsed_answered : (l.answered task).elapsed = l.elapsed := by
  rw [answered]
  split <;> rfl

/-- They stand still when a call is cut off. -/
theorem elapsed_cut : (l.cut task).elapsed = l.elapsed := by
  rw [cut]
  split <;> rfl

/-- They stand still when a record is handed over. -/
theorem elapsed_record (parts : Parts) (r : Record) :
    (l.record parts task r).1.elapsed = l.elapsed := by
  rw [record]
  split <;> rfl

end Ledger

/-- A task that runs does not move the clock. -/
theorem Program.elapsed_run (parts : Parts) (task : Nat) (l : Ledger) (p : Program β) :
    (p.run parts task l).1.elapsed = l.elapsed := by
  induction p generalizing l with
  | done value => rfl
  | panic text => rfl
  | stall => rfl
  | note what next ih => exact ih _
  | clock next ih => exact ih _ l
  | sleep length next ih =>
      rw [run]
      split
      · exact ih l
      · rfl
  | pause attempt next ih =>
      rw [run]
      dsimp only [Ledger.pause]
      split
      · exact ih _
      · rfl
  | closed next ih => exact ih _ l
  | slot next ih =>
      rw [run]
      split
      · exact ih _ _
      · exact ih _ _
      · rfl
  | call request next ih => exact ih _ _
  | answered next ih => exact (ih _).trans (l.elapsed_answered task)
  | record r next ih => exact (ih _ _).trans (l.elapsed_record task parts r)

namespace Engine

/-- The cache side of an engine. -/
def cacheSide (e : Engine α) : CacheSide where
  cache := e.cache
  loads := e.loads.map LoadState.outcome?
  elapsed := e.ledger.elapsed
  tasks := e.tasks.map fun t => (t.number, t.job.ticket?)
  spawned := e.spawned

variable (e : Engine α) (task future load : Nat)

/-! ## What leaves the cache side alone -/

/-- Notes do not concern the cache. -/
@[simp] theorem cacheSide_mark (marker : Option Nat) (what : Happening) :
    (e.mark marker what).cacheSide = e.cacheSide := rfl

@[simp] theorem cacheSide_tell (teller : Option Nat) (entry : Log) :
    (e.tell teller entry).cacheSide = e.cacheSide := rfl

/-- Nor does it who sleeps. -/
@[simp] theorem cacheSide_sleep (due : Nat) : (e.sleep task due).cacheSide = e.cacheSide := rfl

/-- Nor do the futures. -/
@[simp] theorem cacheSide_setFuture (c : Completion α) :
    (e.setFuture future c).cacheSide = e.cacheSide := rfl

/-- Nor does it who is woken. -/
@[simp] theorem cacheSide_wake : (e.wake task).cacheSide = e.cacheSide := by
  rw [wake]
  split <;> rfl

@[simp] theorem cacheSide_wakeAll (tasks : List Nat) :
    (e.wakeAll tasks).cacheSide = e.cacheSide := by
  rw [wakeAll]
  induction tasks generalizing e with
  | nil => rfl
  | cons task rest ih => exact (ih (e.wake task)).trans (e.cacheSide_wake task)

/-- Changing a task leaves the cache side alone where its number and its job stay. -/
theorem cacheSide_adjust (change : Task α → Task α)
    (hc : ∀ t, (change t).number = t.number ∧ (change t).job = t.job) :
    (e.adjust task change).cacheSide = e.cacheSide := by
  have htasks : (e.adjust task change).tasks.map (fun t => (t.number, t.job.ticket?))
      = e.tasks.map fun t => (t.number, t.job.ticket?) := by
    rw [adjust, List.map_map]
    refine List.map_congr_left fun t _ => ?_
    show ((if t.number = task then change t else t).number,
      (if t.number = task then change t else t).job.ticket?) = _
    by_cases ht : t.number = task
    · rw [if_pos ht, (hc t).1, (hc t).2]
    · rw [if_neg ht]
  exact congrArg (fun tasks => { e.cacheSide with tasks := tasks }) htasks

/-- A task that is to be dropped still has its job. -/
@[simp] theorem cacheSide_abort : (e.abort task).cacheSide = e.cacheSide := by
  rw [abort, cacheSide_wake]
  exact e.cacheSide_adjust task _ fun _ => ⟨rfl, rfl⟩

/-- A task that begins has the job it had. -/
@[simp] theorem cacheSide_begin (t : Task α) : (e.begin t).cacheSide = e.cacheSide := by
  rw [begin]
  split
  · rfl
  · exact e.cacheSide_adjust t.number _ fun _ => ⟨rfl, rfl⟩

/-- Whatever follows the decision of a future does not concern the cache. -/
@[simp] theorem cacheSide_follow (s : Settled) : (e.follow s).cacheSide = e.cacheSide := by
  rw [follow]
  cases s.abort <;> cases s.wake <;> simp

/-- Nor does it that a future is decided. -/
@[simp] theorem cacheSide_complete (result : Outcome α) :
    (e.complete future result).1.cacheSide = e.cacheSide := by
  rw [complete]
  split
  · rfl
  · split
    · rfl
    · simp

/-- A guard may decide the future of its task. -/
@[simp] theorem cacheSide_guardEnd (how : TaskEnd) :
    (e.guardEnd task future how).cacheSide = e.cacheSide := by
  have hcomplete := e.cacheSide_complete future (.error (.taskFailed how))
  rw [guardEnd]
  split
  · rename_i e' heq
    rw [heq] at hcomplete
    exact hcomplete
  · rename_i e' heq
    rw [heq] at hcomplete
    exact hcomplete

@[simp] theorem cacheSide_attach (driver : Nat) :
    (e.attach future driver).cacheSide = e.cacheSide := by
  rw [attach]
  split <;> rfl

/-- A cancel may decide a future. -/
@[simp] theorem cacheSide_cancel : (e.cancel future).1.cacheSide = e.cacheSide := by
  rw [cancel]
  split
  · rfl
  · split
    · rfl
    · simp

/-- Whoever asks a future does not ask the cache. -/
@[simp] theorem cacheSide_pollFuture (waker : Nat) :
    (e.pollFuture future waker).1.cacheSide = e.cacheSide := by
  rw [pollFuture]
  split <;> rfl

/-- Whoever waits for a future does not either. -/
@[simp] theorem cacheSide_waitFuture : (e.waitFuture future).1.cacheSide = e.cacheSide := by
  rw [waitFuture]
  split <;> rfl

/-- The cache stays as it is when its cleanup is told to stop. -/
@[simp] theorem cacheSide_stopCleaner : e.stopCleaner.cacheSide = e.cacheSide := by
  rw [stopCleaner]
  split
  · rfl
  · exact cacheSide_wakeAll _ _

/-- The cache stays as it is when the client is closed. -/
@[simp] theorem cacheSide_close : e.close.cacheSide = e.cacheSide := by
  rw [close]
  split
  · rfl
  · rw [cacheSide_tell, cacheSide_stopCleaner, cacheSide_mark]
    exact cacheSide_wakeAll _ _

/-! ## What changes it -/

/-- A task that is forgotten runs no load any more. -/
@[simp] theorem cacheSide_retire : (e.retire task).cacheSide = e.cacheSide.retire task := by
  rw [retire]
  refine (cacheSide_wakeAll _ _).trans ?_
  have htasks : (e.tasks.filter (·.number != task)).map (fun t => (t.number, t.job.ticket?))
      = (e.tasks.map fun t => (t.number, t.job.ticket?)).filter fun t => t.1 != task := by
    rw [List.filter_map]
    rfl
  have helapsed := e.ledger.elapsed_cut task
  rw [cacheSide, CacheSide.retire]
  simp only [htasks, helapsed, cacheSide]

/-- A task with another job may run another load. -/
@[simp] theorem cacheSide_setJob (job : Job α) :
    (e.setJob task job).cacheSide = e.cacheSide.setJob task job.ticket? := by
  have htasks : (e.setJob task job).tasks.map (fun t => (t.number, t.job.ticket?))
      = (e.tasks.map fun t => (t.number, t.job.ticket?)).map fun t =>
        if t.1 = task then (t.1, job.ticket?) else t := by
    rw [setJob, adjust, List.map_map, List.map_map]
    refine List.map_congr_left fun t _ => ?_
    show ((if t.number = task then { t with job := job } else t).number,
      (if t.number = task then { t with job := job } else t).job.ticket?) = if _ then _ else _
    by_cases ht : t.number = task
    · rw [if_pos ht, if_pos ht]
    · rw [if_neg ht, if_neg ht]
  exact congrArg (fun tasks => { e.cacheSide with tasks := tasks }) htasks

/-- The cleanup that waits is a task without a load. -/
@[simp] theorem cacheSide_await (due : Nat) :
    (e.await task due).cacheSide = e.cacheSide.setJob task none := by
  rw [await]
  split
  · rw [cacheSide_wake, cacheSide_setJob]
    rfl
  · rw [cacheSide_sleep, cacheSide_setJob]
    rfl

/-- A load that ends has its outcome. -/
@[simp] theorem cacheSide_endLoad (outcome : Outcome Response) :
    (e.endLoad load outcome).cacheSide = e.cacheSide.endLoad load outcome := by
  rw [endLoad]
  refine (cacheSide_wakeAll _ _).trans ?_
  rw [cacheSide, CacheSide.endLoad]
  simp only [List.map_set, cacheSide]
  rfl

/-- Dropping a task ends its load without an outcome, if it runs one. -/
theorem cacheSide_drop (t : Task α) : (e.drop t).cacheSide =
    match t.job.ticket? with
    | some ticket =>
      (e.cacheSide.retire t.number).endLoad ticket.load (.error (.taskFailed .dropped))
    | none => e.cacheSide.retire t.number := by
  rw [drop]
  cases t.job with
  | drive future work => simp [Job.ticket?]
  | deliver future load => simp [Job.ticket?]
  | load ticket work => simp [Job.ticket?]
  | clean due => simp [Job.ticket?]

/-- A task that is spawned is there, or is dropped at once. -/
theorem cacheSide_spawn (job : Job α) : (e.spawn job).cacheSide =
    if e.stopped then
      match job.ticket? with
      | some ticket => ((e.cacheSide.spawn job.ticket?).retire e.spawned).endLoad ticket.load
          (.error (.taskFailed .dropped))
      | none => (e.cacheSide.spawn job.ticket?).retire e.spawned
    else e.cacheSide.spawn job.ticket? := by
  have hadded : cacheSide { e with
      tasks := e.tasks ++ [⟨e.spawned, job, false, false⟩], spawned := e.spawned + 1 }
      = e.cacheSide.spawn job.ticket? := by
    rw [cacheSide, CacheSide.spawn]
    simp only [List.map_append, List.map_cons, List.map_nil, cacheSide]
  rw [spawn]
  split
  · rw [cacheSide_drop, hadded]
  · exact hadded

/-- A task that asks for a load that runs waits for it. -/
theorem cacheSide_deliver : (e.deliver task future load).cacheSide =
    match e.loads[load]? with
    | some (.ended _) => e.cacheSide.retire task
    | _ => e.cacheSide := by
  rw [deliver]
  split
  · rename_i h
    rw [h]
  · rename_i h
    rw [h]
    simp
  · rename_i waiting h
    rw [h]
    have hloads : (e.loads.set load (.running (waiting ++ [task]))).map LoadState.outcome?
        = e.loads.map LoadState.outcome? := by
      refine List.ext_getElem? fun n => ?_
      rw [List.map_set]
      by_cases hn : load = n
      · subst hn
        rw [List.getElem?_set_self', List.getElem?_map, h]
        rfl
      · rw [List.getElem?_set_ne hn]
    exact congrArg (fun loads => { e.cacheSide with loads := loads }) hloads

/-- The cache takes note of the outcome of a load. -/
theorem cacheSide_finishLoad (ticket : Ticket) (value : Outcome Response × Duration) :
    (e.finishLoad task ticket value).cacheSide =
      CacheSide.endLoad { e.cacheSide with
        cache := (e.cacheSide.cache.finish e.cacheSide.elapsed ticket value.1 value.2).1 }
        ticket.load value.1 := by
  have hside : cacheSide { e with
      cache := (e.cache.finish e.ledger.elapsed ticket value.1 value.2).1
      ledger := e.ledger.tellAll (some task)
        (e.cache.finish e.ledger.elapsed ticket value.1 value.2).2 }
      = { e.cacheSide with
        cache := (e.cache.finish e.ledger.elapsed ticket value.1 value.2).1 } :=
    congrArg (fun elapsed => { e.cacheSide with
      cache := (e.cache.finish e.ledger.elapsed ticket value.1 value.2).1, elapsed := elapsed })
      (e.ledger.elapsed_tellAll (some task) _)
  show (endLoad { e with
    cache := (e.cache.finish e.ledger.elapsed ticket value.1 value.2).1
    ledger := e.ledger.tellAll (some task)
      (e.cache.finish e.ledger.elapsed ticket value.1 value.2).2 }
    ticket.load value.1).cacheSide = _
  rw [cacheSide_endLoad, hside]
  rfl

end Engine

end Courier
