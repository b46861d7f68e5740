import Courier.Proofs.Engine.Histories
import Courier.Proofs.Engine.Turns
import Courier.Proofs.Future.Decisions

/-!
# Acts — what can happen between the turns of tasks

An `Act` is one change of the tasks of an engine, of their futures and their loads, that is not a
turn, with all that has to hold for it to happen; remarks and wakes may go with it.  Every event of a
client is a turn or a chain of acts (`step_cases`).  What turns and acts keep is therefore kept by
every run, and no later proof has to look into the operations of the engine again.
-/

namespace Courier

variable {α β : Type}

/-- Whether an event is the turn of a task. -/
def EngineEvent.isTurn : EngineEvent α → Bool
  | .turn _ => true
  | _ => false

/-- Whether an event is one of a client whose tasks go on: no work from elsewhere is driven, and
    tasks are not dropped from outside. -/
def EngineEvent.isClient : EngineEvent α → Bool
  | .drive _ | .shutdown => false
  | _ => true

/-- The load that is started by asking for a request is one of that request. -/
theorem Cache.request_started {c : Cache} {now : Nat} {request : Request} {ticket : Ticket}
    (h : (c.get now request).2.started = some ticket) : ticket.request = request := by
  change (c.ask now request).2.started = some ticket at h
  rw [ask] at h
  split at h
  · cases h
    rfl
  · split at h
    · rw [askExpired] at h
      dsimp only at h
      split at h
      · cases h
      · cases h
        rfl
    · rw [askLive] at h
      dsimp only at h
      split at h
      · cases h
        rfl
      · cases h

namespace Engine

/-- The tasks that are spawned: what they do, the request they dispatch, if any, and the futures and
    loads that come with them. -/
inductive Spawns (e : Engine α) :
    Job α → Option Request → List (Completion α) → List LoadState → Prop where
  | dispatch (request : Request) (handler : Handler α) :
      Spawns e (.drive e.futures.length (dispatch request handler)) (some request)
        [⟨.pending, none, some e.spawned⟩] []
  | deliver {load : Nat} (hl : load < e.loads.length) :
      Spawns e (.deliver e.futures.length load) none [⟨.pending, none, some e.spawned⟩] []
  | load (ticket : Ticket) :
      Spawns e (.load ticket (e.loader ticket.request).timed) (some ticket.request) []
        [.running []]
  | clean : Spawns e (.clean none) none [] []

/-- What can happen to the tasks of an engine between their turns; a request that a task is spawned
    for is given. -/
inductive Act (e : Engine α) : Option Request → Engine α → Prop where
  | rest {e' : Engine α} (h : Rests e e') : Act e none e'
  | spawn {job : Job α} {asked : Option Request} {futures : List (Completion α)}
      {loads : List LoadState} {e' : Engine α} (hs : Spawns e job asked futures loads)
      (h : Rests { e with
        tasks := e.tasks ++ [⟨e.spawned, job, false, false⟩]
        spawned := e.spawned + 1
        ready := e.ready ++ [e.spawned]
        futures := e.futures ++ futures
        loads := e.loads ++ loads } e') : Act e asked e'
  /-- A future is cancelled, and its task is to be dropped. -/
  | cancel {future : Nat} {c : Completion α} {e' : Engine α} (hf : e.futures[future]? = some c)
      (hc : c.state = .pending)
      (h : Rests { e with
        futures := e.futures.set future ⟨.cancelled, none, none⟩
        tasks := e.tasks.map fun u =>
          if c.task = some u.number then { u with aborted := true } else u } e')
      (hwoken : ∀ n, c.task = some n → e'.Lives n → n ∈ e'.ready) : Act e none e'
  /-- Someone asks a future for its result. -/
  | ask {future : Nat} {c : Completion α} {ev : FutureEvent α} {e' : Engine α}
      (hf : e.futures[future]? = some c) (hev : ev.asks = true)
      (h : Rests { e with futures := e.futures.set future (c.step ev).1 } e') : Act e none e'
  | decide {result : Outcome α} {e' : Engine α}
      (h : Rests { e with futures := e.futures ++ [.decided result] } e') : Act e none e'
  | close {e' : Engine α} (ho : e.ledger.closed = false)
      (h : Rests { e with
        ledger := Ledger.mark { e.ledger with closed := true, pool := e.ledger.pool.close.1 }
          none .transportClosed } e')
      (hwoken : ∀ n ∈ e.ledger.pool.close.2, e'.Lives n → n ∈ e'.ready) : Act e none e'

/-- Acts one after the other, with the requests that tasks are spawned for, each with the number of
    its task. -/
inductive Acts : Engine α → List (Nat × Request) → Engine α → Prop where
  | refl (e : Engine α) : Acts e [] e
  | step {e e' e'' : Engine α} {asked : Option Request} {requests : List (Nat × Request)}
      (h : Act e asked e') (hs : Acts e' requests e'') :
      Acts e ((asked.map (e.spawned, ·)).toList ++ requests) e''

/-- The tasks are as they were when one is to be dropped, but for that. -/
theorem mem_cancelled {e : Engine α} {c : Completion α} {u : Task α} (hu : u ∈ e.tasks.map fun u =>
      if c.task = some u.number then { u with aborted := true } else u) :
    ∃ v ∈ e.tasks, u.number = v.number ∧ u.job = v.job ∧ u.begun = v.begun ∧
      ((c.task = some v.number ∧ u.aborted = true) ∨ (c.task ≠ some v.number ∧ u = v)) := by
  obtain ⟨v, hv, rfl⟩ := List.mem_map.mp hu
  refine ⟨v, hv, ?_⟩
  by_cases htask : c.task = some v.number
  · rw [if_pos htask]
    exact ⟨rfl, rfl, rfl, Or.inl ⟨htask, rfl⟩⟩
  · rw [if_neg htask]
    exact ⟨rfl, rfl, rfl, Or.inr ⟨htask, rfl⟩⟩

/-! ## Calls -/

section Calls

variable (e : Engine α)

/-- An act that asks for nothing, alone. -/
theorem Act.acts {e e' : Engine α} (h : Act e none e') : Acts e [] e' :=
  .step h (.refl e')

/-- Acts follow on acts, and their requests on the requests. -/
theorem Acts.trans {e e' e'' : Engine α} {before after : List (Nat × Request)}
    (h : Acts e before e') (h' : Acts e' after e'') : Acts e (before ++ after) e'' := by
  induction h with
  | refl e => exact h'
  | step h hs ih =>
      rw [List.append_assoc]
      exact .step h (ih h')

/-- A task is spawned where tasks can run. -/
theorem spawn_eq (hs : e.stopped = false) (job : Job α) :
    e.spawn job = { e with
      tasks := e.tasks ++ [⟨e.spawned, job, false, false⟩]
      spawned := e.spawned + 1
      ready := e.ready ++ [e.spawned] } := by
  rw [spawn, hs]
  rfl

/-- The cleaner is a task that dispatches nothing. -/
theorem act_startCleaner (hs : e.stopped = false) : Act e none e.startCleaner := by
  refine .spawn .clean ?_
  rw [startCleaner, e.spawn_eq hs, List.append_nil, List.append_nil]
  exact .refl _

/-- A future comes with the task that is to decide it. -/
theorem spawnFuture_eq (hs : e.stopped = false) (job : Nat → Job α) :
    (e.spawnFuture job).1 = { e with
      tasks := e.tasks ++ [⟨e.spawned, job e.futures.length, false, false⟩]
      spawned := e.spawned + 1
      ready := e.ready ++ [e.spawned]
      futures := e.futures ++ [⟨.pending, none, some e.spawned⟩] } := by
  have hlast : (e.futures ++ [Completion.pending])[e.futures.length]? = some .pending :=
    List.getElem?_concat_length
  have hset : (e.futures ++ [Completion.pending]).set e.futures.length
      ⟨.pending, none, some e.spawned⟩ = e.futures ++ [⟨.pending, none, some e.spawned⟩] := by
    simp
  show (attach (spawn (e.addFuture .pending).1 (job e.futures.length)) e.futures.length e.spawned)
    = _
  rw [spawn_eq (e.addFuture .pending).1 hs, attach, addFuture]
  dsimp only
  rw [hlast]
  exact congrArg (fun futures : List (Completion α) => ({ e with
    tasks := e.tasks ++ [(⟨e.spawned, job e.futures.length, false, false⟩ : Task α)]
    spawned := e.spawned + 1
    ready := e.ready ++ [e.spawned]
    futures := futures } : Engine α)) hset

/-- A dispatch whose future is handed out is a task for its request. -/
theorem act_driveFuture (hs : e.stopped = false) (request : Request) (handler : Handler α) :
    Act e (some request) (e.driveFuture (dispatch request handler)).1 := by
  refine .spawn (.dispatch request handler) ?_
  rw [driveFuture, e.spawnFuture_eq hs, List.append_nil]
  exact .refl _

/-- Whoever waits for a load has a task that dispatches nothing. -/
theorem act_deliverFuture (hs : e.stopped = false) {load : Nat} (hl : load < e.loads.length) :
    Act e none (e.spawnFuture fun future => .deliver future load).1 := by
  refine .spawn (.deliver hl) ?_
  rw [e.spawnFuture_eq hs, List.append_nil]
  exact .refl _

/-- A future that is decided from the start has no task. -/
theorem act_decidedFuture (result : Outcome α) : Act e none (e.decidedFuture result).1 :=
  .decide (.refl _)

/-- A future that is not decided is cancelled, and its task is to be dropped. -/
theorem rests_cancel {future : Nat} {c : Completion α} (hf : e.futures[future]? = some c)
    (hc : c.state = .pending) :
    (e.cancel future).2 = true ∧
    Rests { e with
      futures := e.futures.set future ⟨.cancelled, none, none⟩
      tasks := e.tasks.map fun u =>
        if c.task = some u.number then { u with aborted := true } else u } (e.cancel future).1 ∧
    ∀ n, c.task = some n → (e.cancel future).1.Lives n → n ∈ (e.cancel future).1.ready := by
  obtain ⟨state, waker, task⟩ := c
  cases hc
  have hcancel : e.cancel future
      = (follow (e.setFuture future ⟨.cancelled, none, none⟩) ⟨waker, task⟩, true) := by
    rw [cancel, hf]
    rfl
  rw [hcancel]
  refine ⟨rfl, ?_⟩
  cases task with
  | none =>
      refine ⟨?_, fun n hn => by cases hn⟩
      -- nobody drives it, and so there is nobody to drop
      have hsame : e.tasks.map (fun u =>
          if none = some u.number then { u with aborted := true } else u) = e.tasks := by
        simp
      show Rests { e with futures := _, tasks := e.tasks.map _ } _
      rw [hsame]
      exact rests_follow _ rfl
  | some n =>
      have hwake := rests_wake ((e.setFuture future ⟨.cancelled, none, none⟩).adjust n
        fun t => { t with aborted := true }) n
      have hfollow := rests_follow (s := ⟨waker, none⟩)
        ((e.setFuture future ⟨.cancelled, none, none⟩).abort n) rfl
      have hsame : e.tasks.map (fun u =>
          if some n = some u.number then { u with aborted := true } else u)
          = e.tasks.map fun u =>
            if u.number = n then { u with aborted := true } else u := by
        refine List.map_congr_left fun u _ => ?_
        simp only [Option.some.injEq, eq_comm]
      refine ⟨?_, ?_⟩
      · show Rests { e with futures := _, tasks := e.tasks.map _ } _
        rw [hsame]
        exact hwake.trans hfollow
      · intro m hm hlives
        cases hm
        refine hfollow.mem_ready (mem_ready_wake _ ?_)
        exact hwake.lives.mp (hfollow.lives.mp hlives)

/-- A future that is decided is not cancelled. -/
theorem cancel_of_done {future : Nat}
    (h : ∀ c, e.futures[future]? = some c → c.state ≠ .pending) : e.cancel future = (e, false) := by
  rw [cancel]
  split
  · rfl
  · rename_i c hc
    have hne := h c hc
    obtain ⟨state, waker, task⟩ := c
    cases state with
    | pending => exact absurd rfl hne
    | ready _ => rfl
    | cancelled => rfl
    | taken => rfl

/-- What a cancel decides was not decided. -/
theorem pending_of_cancel {future : Nat} (h : (e.cancel future).2 = true) :
    ∃ c, e.futures[future]? = some c ∧ c.state = .pending := by
  by_contra hnone
  rw [e.cancel_of_done fun c hf hpending => hnone ⟨c, hf, hpending⟩] at h
  cases h

/-- To cancel is one act, and does nothing to a future that is decided. -/
theorem act_cancel (future : Nat) : Act e none (e.cancel future).1 := by
  by_cases h : ∃ c, e.futures[future]? = some c ∧ c.state = .pending
  · obtain ⟨c, hf, hc⟩ := h
    obtain ⟨-, hrests, hwoken⟩ := e.rests_cancel hf hc
    exact .cancel hf hc hrests hwoken
  · rw [e.cancel_of_done fun c hf hc => h ⟨c, hf, hc⟩]
    exact .rest (.refl e)

/-- To poll a future is to ask it for its result. -/
theorem act_pollFuture (future waker : Nat) : Act e none (e.pollFuture future waker).1 := by
  rw [pollFuture]
  split
  · exact .rest (.refl e)
  · rename_i c hc
    have hasks : (FutureEvent.poll waker : FutureEvent α).asks = true := rfl
    exact .ask hc hasks (.refl _)

/-- To wait for it is, too. -/
theorem act_waitFuture (future : Nat) : Act e none (e.waitFuture future).1 := by
  rw [waitFuture]
  split
  · exact .rest (.refl e)
  · rename_i c hc
    have hasks : (FutureEvent.waitTimeout : FutureEvent α).asks = true := rfl
    exact .ask hc hasks (.refl _)

theorem rests_of_cache (cache : Cache) : Rests e { e with cache := cache } :=
  ⟨rfl, rfl, ⟨[], (List.append_nil _).symm⟩, rfl, rfl, rfl, rfl, .refl _ _, rfl, rfl⟩

/-- The clocks move, and the tasks whose time has come are woken. -/
theorem rests_tick : Rests e e.tick := by
  rw [tick]
  refine Rests.trans ?_ (rests_wakeAll _ _)
  exact ⟨rfl, rfl, ⟨[], (List.append_nil _).symm⟩, rfl, rfl, rfl, rfl, .refl _ _, rfl, rfl⟩

/-- Waking tasks has nothing to do with the ledger. -/
theorem withLedger_wakeAll (tasks : List Nat) (change : Ledger → Ledger) :
    { e.wakeAll tasks with ledger := change (e.wakeAll tasks).ledger }
      = wakeAll { e with ledger := change e.ledger } tasks := by
  rw [wakeAll, wakeAll]
  induction tasks generalizing e with
  | nil => rfl
  | cons task rest ih =>
      refine (ih (e.wake task)).trans (congrArg (fun x => rest.foldl wake x) ?_)
      show { e.wake task with ledger := change (e.wake task).ledger }
        = wake { e with ledger := change e.ledger } task
      rw [wake, wake]
      split
      · exact (if_pos ‹_›).symm
      · exact (if_neg ‹_›).symm

/-- A client that is open is closed: the transport is told, and whoever waits for a slot is woken. -/
theorem rests_close (ho : e.ledger.closed = false) :
    Rests { e with
      ledger := Ledger.mark { e.ledger with closed := true, pool := e.ledger.pool.close.1 }
        none .transportClosed } e.close ∧
    ∀ n ∈ e.ledger.pool.close.2, e.close.Lives n → n ∈ e.close.ready := by
  have hclose : e.close = (wakeAll { e with
      ledger := Ledger.mark { e.ledger with
        closed := true, pool := e.ledger.pool.close.1, shut := true } none .transportClosed }
      e.ledger.pool.close.2).stopCleaner.tell none .clientClosed := by
    rw [close, if_neg (by simp [isClosed, ho])]
    exact congrArg (fun x : Engine α => x.stopCleaner.tell none .clientClosed)
      (withLedger_wakeAll { e with
        ledger := { e.ledger with closed := true, pool := e.ledger.pool.close.1 } }
        e.ledger.pool.close.2 fun l => Ledger.mark { l with shut := true } none .transportClosed)
  rw [hclose]
  generalize hx : ({ e with
    ledger := Ledger.mark { e.ledger with
      closed := true, pool := e.ledger.pool.close.1, shut := true }
      none .transportClosed } : Engine α) = x
  have hwake := x.rests_wakeAll e.ledger.pool.close.2
  have hrest : Rests (x.wakeAll e.ledger.pool.close.2)
      ((x.wakeAll e.ledger.pool.close.2).stopCleaner.tell none .clientClosed) :=
    (rests_stopCleaner _).trans (rests_tell _ _ _)
  refine ⟨Rests.trans ?_ (hwake.trans hrest), fun n hn hlives => ?_⟩
  · subst hx
    exact ⟨rfl, rfl, ⟨[], (List.append_nil _).symm⟩, rfl, rfl, rfl, rfl, .refl _ _, rfl, rfl⟩
  · refine hrest.mem_ready (x.mem_ready_wakeAll hn ?_)
    exact hwake.lives.mp (hrest.lives.mp hlives)

/-- A client that is closed stays as it is when it is closed again. -/
theorem close_of_closed (hc : e.ledger.closed = true) : e.close = e :=
  if_pos hc

/-- A client that was closed is closed. -/
theorem closed_close : e.close.ledger.closed = true := by
  cases ho : e.ledger.closed with
  | false => exact (e.rests_close ho).1.closed
  | true =>
      rw [e.close_of_closed ho]
      exact ho

/-- To close is one act, and does nothing a second time. -/
theorem act_close : Act e none e.close := by
  cases ho : e.ledger.closed with
  | false => exact .close ho (e.rests_close ho).1 (e.rests_close ho).2
  | true =>
      rw [e.close_of_closed ho]
      exact .rest (.refl e)

/-- The tasks that an event spawns to dispatch requests. -/
def dispatched (e : Engine α) : EngineEvent α → List (Nat × Request)
  | .criticalExecuteWith request _ => if e.isClosed then [] else [(e.spawned, request)]
  | .execute request =>
    if e.isClosed then []
    else if !request.isCacheEligible then [(e.spawned, request)]
    else ((e.cache.get e.ledger.elapsed request).2.started.map fun ticket =>
      (e.spawned, ticket.request)).toList
  | .lookup request =>
    ((e.cache.get e.ledger.elapsed request).2.started.map fun ticket =>
      (e.spawned, ticket.request)).toList
  | _ => []

/-- A load has a task for the request of its ticket. -/
theorem act_spawnLoad (hs : e.stopped = false) (ticket : Ticket) :
    Act e (some ticket.request) (spawn { e with loads := e.loads ++ [.running []] }
      (.load ticket (e.loader ticket.request).timed)) := by
  refine .spawn (.load ticket) ?_
  rw [spawn_eq { e with loads := e.loads ++ [.running []] } hs, List.append_nil]
  exact .refl _

/-- Asking the cache spawns a task for the load that it starts, if it starts one. -/
theorem acts_lookup (hs : e.stopped = false) (request : Request) :
    Acts e (e.dispatched (.lookup request)) (e.lookup request).1 := by
  have htold := (e.rests_of_cache (e.cache.get e.ledger.elapsed request).1).trans
    (rests_tellAll _ none (e.cache.get e.ledger.elapsed request).2.told)
  have hspawn := act_spawnLoad { e with
    cache := (e.cache.get e.ledger.elapsed request).1
    ledger := e.ledger.tellAll none (e.cache.get e.ledger.elapsed request).2.told } hs
  rw [lookup, dispatched]
  dsimp only
  cases hstarted : (e.cache.get e.ledger.elapsed request).2.started with
  | none => exact Act.acts (.rest htold)
  | some ticket =>
      have hload := hspawn ticket
      rw [Cache.request_started hstarted] at hload
      rw [Option.map_some, Cache.request_started hstarted]
      exact .step (.rest htold) (.step hload (.refl _))

/-- A critical call is an act for its request, or for none where it is refused at once. -/
theorem act_criticalExecuteWith (hs : e.stopped = false) (request : Request)
    (handler : Handler α) :
    Acts e (e.dispatched (.criticalExecuteWith request handler))
      (e.criticalExecuteWith request handler).1 := by
  rw [criticalExecuteWith, dispatched]
  split
  · exact Act.acts (e.act_decidedFuture _)
  · exact .step (e.act_driveFuture hs request handler) (.refl _)

/-- No task is lost between turns, nor does its job change. -/
theorem Act.keeps {e e' : Engine α} {asked : Option Request} (h : Act e asked e') {t : Task α}
    (ht : t ∈ e.tasks) : ∃ t' ∈ e'.tasks, t'.number = t.number ∧ t'.job = t.job ∧
      t'.begun = t.begun ∧ (t.aborted = true → t'.aborted = true) := by
  have hsame : ∀ {tasks : List (Task α)}, t ∈ tasks → ∃ t' ∈ tasks, t'.number = t.number ∧
      t'.job = t.job ∧ t'.begun = t.begun ∧ (t.aborted = true → t'.aborted = true) :=
    fun h => ⟨t, h, rfl, rfl, rfl, id⟩
  cases h with
  | rest h => exact h.tasks ▸ hsame ht
  | spawn hs h => exact h.tasks ▸ hsame (List.mem_append_left _ ht)
  | cancel hf hc h hwoken =>
      rw [h.tasks]
      refine ⟨_, List.mem_map_of_mem ht, ?_⟩
      split
      · exact ⟨rfl, rfl, rfl, fun _ => rfl⟩
      · exact ⟨rfl, rfl, rfl, id⟩
  | ask hf hev h => exact h.tasks ▸ hsame ht
  | decide h => exact h.tasks ▸ hsame ht
  | close ho h hwoken => exact h.tasks ▸ hsame ht

/-- Between turns loads are only started. -/
theorem Act.loads {e e' : Engine α} {asked : Option Request} (h : Act e asked e') :
    ∃ more, e'.loads = e.loads ++ more := by
  have hsame : ∃ more, e.loads = e.loads ++ more := ⟨[], (List.append_nil _).symm⟩
  cases h with
  | rest h => exact h.loads ▸ hsame
  | spawn hs h => exact ⟨_, h.loads⟩
  | cancel hf hc h hwoken => exact h.loads ▸ hsame
  | ask hf hev h => exact h.loads ▸ hsame
  | decide h => exact h.loads ▸ hsame
  | close ho h hwoken => exact h.loads ▸ hsame

/-- No act stops the engine. -/
theorem Act.stopped {e e' : Engine α} {asked : Option Request} (h : Act e asked e') :
    e'.stopped = e.stopped := by
  cases h with
  | rest h => exact h.stopped
  | spawn hs h => exact h.stopped
  | cancel hf hc h hwoken => exact h.stopped
  | ask hf hev h => exact h.stopped
  | decide h => exact h.stopped
  | close ho h hwoken => exact h.stopped

/-- No number of acts does. -/
theorem Acts.stopped {e e' : Engine α} {requests : List (Nat × Request)}
    (h : Acts e requests e') : e'.stopped = e.stopped := by
  induction h with
  | refl e => rfl
  | step h hs ih => exact ih.trans h.stopped

/-- Asking the cache has nothing to do with futures. -/
theorem futures_lookup (hs : e.stopped = false) (request : Request) :
    (e.lookup request).1.futures = e.futures := by
  rw [lookup]
  dsimp only
  split
  · rfl
  · rw [spawn_eq]
    exact hs

/-- Whoever asks the cache gets a load that there is. -/
theorem lookup_lt {config : CacheConfig} (hr : e.Recorded config) (hs : e.stopped = false)
    (request : Request) : (e.lookup request).2 < (e.lookup request).1.loads.length := by
  obtain ⟨events, hf⟩ := hr
  have ho := History.orderly_run config events
  obtain ⟨f, hflight⟩ := History.answered ho (History.sound_run config events) request
  rw [lookup_eq_answer hf]
  have hlt := (List.getElem?_eq_some_iff.mp hflight).1
  have hloads := length_loads hf
  have hcache : e.cache = (History.run config events).cache := hf.cache
  have hnow : e.ledger.elapsed = (History.run config events).now := hf.now
  -- the cache starts a load exactly where its history does
  refine Nat.lt_of_lt_of_eq hlt ?_
  rw [History.get, List.length_append, List.length_map, ← hloads, ← hcache, ← hnow, lookup]
  dsimp only
  cases (e.cache.get e.ledger.elapsed request).2.started with
  | none => rfl
  | some ticket =>
      dsimp only
      rw [spawn_eq]
      · show _ = (e.loads ++ [LoadState.running []]).length
        rw [List.length_append]
        rfl
      · exact hs

/-- A call makes the acts of its lookup, or those of a critical call. -/
theorem acts_execute {config : CacheConfig} (hr : e.Recorded config) (hs : e.stopped = false)
    (request : Request) :
    Acts e (e.dispatched (.execute request)) (e.execute request).1 := by
  rw [execute, dispatched]
  split
  · exact Act.acts (e.act_decidedFuture _)
  · rename_i hopen
    split
    · have hcall := e.act_criticalExecuteWith hs request (Handler.response.map e.present)
      rw [dispatched, if_neg hopen] at hcall
      exact hcall
    · have htell : Act e none (e.tell none (.throughCache request.urlText)) :=
        .rest (e.rests_tell _ _)
      have hlookup := (e.tell none (.throughCache request.urlText)).acts_lookup hs request
      have hstopped := hlookup.stopped.trans hs
      have hr' : (e.tell none (.throughCache request.urlText)).Recorded config :=
        hr.continues (.of_eq rfl)
      have hdeliver := act_deliverFuture _ hstopped (lookup_lt _ hr' hs request)
      have hchain := htell.acts.trans (hlookup.trans hdeliver.acts)
      rw [List.append_nil] at hchain
      exact hchain

end Calls

/-- Whatever happens between turns is a chain of acts. -/
theorem acts_step {e : Engine α} {config : CacheConfig} (hr : e.Recorded config)
    (hs : e.stopped = false) {ev : EngineEvent α} (hc : ev.isClient = true)
    (ht : ev.isTurn = false) :
    Acts e (e.dispatched ev) (e.step ev) := by
  cases ev with
  | turn n => cases ht
  | tick => exact Act.acts (.rest e.rests_tick)
  | startCleaner => exact (e.act_startCleaner hs).acts
  | stopCleaner => exact Act.acts (.rest e.rests_stopCleaner)
  | execute request => exact e.acts_execute hr hs request
  | criticalExecuteWith request handler => exact e.act_criticalExecuteWith hs request handler
  | drive work => cases hc
  | decide result => exact (e.act_decidedFuture result).acts
  | lookup request => exact e.acts_lookup hs request
  | cancel future => exact (e.act_cancel future).acts
  | pollFuture future waker => exact (e.act_pollFuture future waker).acts
  | waitFuture future => exact (e.act_waitFuture future).acts
  | invalidate request => exact Act.acts (.rest (e.rests_of_cache _))
  | invalidateAll => exact Act.acts (.rest (e.rests_of_cache _))
  | cleanup => exact Act.acts (.rest (e.rests_of_cache _))
  | close => exact e.act_close.acts
  | shutdown => cases hc

/-- **EVERY EVENT OF A CLIENT IS A TURN OR A CHAIN OF ACTS.** -/
theorem step_cases {e : Engine α} {config : CacheConfig} (hr : e.Recorded config)
    (hs : e.stopped = false) (hn : (e.tasks.map Task.number).Nodup) {ev : EngineEvent α}
    (hc : ev.isClient = true) :
    (∃ n, ev = .turn n ∧ Turn e n (e.step ev) ∧ e.dispatched ev = []) ∨
      (ev.isTurn = false ∧ Acts e (e.dispatched ev) (e.step ev)) := by
  cases ht : ev.isTurn with
  | false => exact Or.inr ⟨rfl, acts_step hr hs hc ht⟩
  | true =>
      cases ev with
      | turn n => exact Or.inl ⟨n, rfl, turn_step hn n, rfl⟩
      | _ => cases ht

/-- The tasks that events spawn to dispatch requests. -/
def dispatches (e : Engine α) : List (EngineEvent α) → List (Nat × Request)
  | [] => []
  | ev :: rest => e.dispatched ev ++ (e.step ev).dispatches rest

end Engine

end Courier
