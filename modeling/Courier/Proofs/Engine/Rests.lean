import Courier.Proofs.Engine.Runs
import Courier.Proofs.Program.Stages

/-!
# Rests — remarks and wakes

Much of what an engine does changes neither its tasks nor their futures, their loads or the pool: it
notes something, wakes a task, lets one sleep, or works on the cache.  One engine `Rests` on another
if there is nothing more between them.  Every operation of the engine is a change of a few lists that
can be written down, and the rest is of this kind.
-/

namespace Courier

variable {α β : Type}

namespace Engine

/-- Whether a task has not ended. -/
def Lives (e : Engine α) (n : Nat) : Prop :=
  ∃ t ∈ e.tasks, t.number = n

/-- One engine comes from another by remarks and wakes alone. -/
structure Rests (e e' : Engine α) : Prop where
  tasks : e'.tasks = e.tasks
  spawned : e'.spawned = e.spawned
  ready : ∃ more, e'.ready = e.ready ++ more
  futures : e'.futures = e.futures
  loads : e'.loads = e.loads
  pool : e'.ledger.pool = e.ledger.pool
  closed : e'.ledger.closed = e.ledger.closed
  notes : Adds (fun _ => False) e.ledger.notes e'.ledger.notes
  loader : e'.loader = e.loader
  stopped : e'.stopped = e.stopped

namespace Rests

variable {e e' e'' : Engine α}

/-- Nothing has happened. -/
theorem refl (e : Engine α) : Rests e e :=
  ⟨rfl, rfl, ⟨[], (List.append_nil _).symm⟩, rfl, rfl, rfl, rfl, .refl _ _, rfl, rfl⟩

/-- What leaves the tasks alone twice leaves them alone. -/
theorem trans (h : Rests e e') (h' : Rests e' e'') : Rests e e'' := by
  obtain ⟨more, hmore⟩ := h.ready
  obtain ⟨more', hmore'⟩ := h'.ready
  refine ⟨h'.tasks.trans h.tasks, h'.spawned.trans h.spawned, ⟨more ++ more', ?_⟩,
    h'.futures.trans h.futures, h'.loads.trans h.loads, h'.pool.trans h.pool,
    h'.closed.trans h.closed, h.notes.trans h'.notes, h'.loader.trans h.loader,
    h'.stopped.trans h.stopped⟩
  rw [hmore', hmore, List.append_assoc]

/-- Nobody leaves the queue. -/
theorem mem_ready (h : Rests e e') {n : Nat} (hn : n ∈ e.ready) : n ∈ e'.ready := by
  obtain ⟨more, hmore⟩ := h.ready
  rw [hmore]
  exact List.mem_append_left _ hn

/-- The same tasks have not ended. -/
theorem lives (h : Rests e e') {n : Nat} : e'.Lives n ↔ e.Lives n := by
  rw [Lives, Lives, h.tasks]

/-- Once the queue is as long as in the end, the rest leaves it alone. -/
theorem withReady (h : Rests e e') : Rests { e with ready := e'.ready } e' :=
  ⟨h.tasks, h.spawned, ⟨[], (List.append_nil _).symm⟩, h.futures, h.loads, h.pool, h.closed,
    h.notes, h.loader, h.stopped⟩

/-- It does not matter what becomes of the futures, if it becomes of both. -/
theorem withFutures (h : Rests e e') (futures : List (Completion α)) :
    Rests { e with futures := futures } { e' with futures := futures } :=
  ⟨h.tasks, h.spawned, h.ready, rfl, h.loads, h.pool, h.closed, h.notes, h.loader, h.stopped⟩

theorem withLoads (h : Rests e e') (loads : List LoadState) :
    Rests { e with loads := loads } { e' with loads := loads } :=
  ⟨h.tasks, h.spawned, h.ready, h.futures, rfl, h.pool, h.closed, h.notes, h.loader, h.stopped⟩

/-- Nor what becomes of the tasks. -/
theorem withTasks (h : Rests e e') (tasks : List (Task α)) :
    Rests { e with tasks := tasks } { e' with tasks := tasks } :=
  ⟨rfl, h.spawned, h.ready, h.futures, h.loads, h.pool, h.closed, h.notes, h.loader, h.stopped⟩

/-- Nor which job a task is given. -/
theorem setJob (h : Rests e e') (task : Nat) (job : Job α) :
    Rests (e.setJob task job) (e'.setJob task job) := by
  rw [Engine.setJob, Engine.setJob, adjust, adjust, h.tasks]
  exact h.withTasks _

end Rests

/-- The tasks that wait for a load. -/
def waiters (loads : List LoadState) (load : Nat) : List Nat :=
  match loads[load]? with
  | some (.running waiting) => waiting
  | _ => []

/-! ## What the operations of an engine do -/

section Operations

variable (e : Engine α)

/-- Whatever is noted, but that the transport is closed, leaves the tasks alone. -/
theorem rests_mark (task : Option Nat) {what : Happening} (hclosed : what ≠ .transportClosed)
    (hcall : what.isCall = false) : Rests e (e.mark task what) :=
  ⟨rfl, rfl, ⟨[], (List.append_nil _).symm⟩, rfl, rfl, rfl, rfl,
    .one _ hclosed (fun h => nomatch hcall.symm.trans h), rfl, rfl⟩

theorem rests_tell (task : Option Nat) (entry : Log) : Rests e (e.tell task entry) :=
  e.rests_mark task (fun h => nomatch h) rfl

theorem rests_tellAll (task : Option Nat) (entries : List Log) :
    Rests e { e with ledger := e.ledger.tellAll task entries } := by
  rw [Ledger.tellAll]
  induction entries generalizing e with
  | nil => exact .refl e
  | cons entry rest ih => exact (e.rests_tell task entry).trans (ih (e.tell task entry))

/-- Whoever is woken is only put into the queue. -/
theorem rests_wake (task : Nat) : Rests e (e.wake task) := by
  rw [wake]
  split
  · exact ⟨rfl, rfl, ⟨[task], rfl⟩, rfl, rfl, rfl, rfl, .refl _ _, rfl, rfl⟩
  · exact .refl e

theorem rests_wakeAll (tasks : List Nat) : Rests e (e.wakeAll tasks) := by
  rw [wakeAll]
  induction tasks generalizing e with
  | nil => exact .refl e
  | cons task rest ih => exact (e.rests_wake task).trans (ih (e.wake task))

/-- A task that has not ended is in the queue when it is woken. -/
theorem mem_ready_wake {task : Nat} (h : e.Lives task) : task ∈ (e.wake task).ready := by
  have hfound : (e.task? task).isSome = true := by
    rw [task?, List.find?_isSome]
    obtain ⟨t, ht, hn⟩ := h
    exact ⟨t, ht, beq_iff_eq.mpr hn⟩
  rw [wake]
  split
  · exact List.mem_append_right _ List.mem_cons_self
  · rename_i hready
    simpa [hfound] using hready

/-- Whoever is woken, and has not ended, is in the queue. -/
theorem mem_ready_wakeAll {tasks : List Nat} {task : Nat} (hmem : task ∈ tasks)
    (h : e.Lives task) : task ∈ (e.wakeAll tasks).ready := by
  rw [wakeAll]
  induction tasks generalizing e with
  | nil => exact nomatch hmem
  | cons first rest ih =>
      rcases List.mem_cons.mp hmem with rfl | hmem
      · exact ((e.wake task).rests_wakeAll rest).mem_ready (e.mem_ready_wake h)
      · exact ih (e.wake first) hmem ((e.rests_wake first).lives.mpr h)

/-- A task that sleeps is only to be woken some time. -/
theorem rests_sleep (task due : Nat) : Rests e (e.sleep task due) :=
  ⟨rfl, rfl, ⟨[], (List.append_nil _).symm⟩, rfl, rfl, rfl, rfl, .refl _ _, rfl, rfl⟩

/-- The cleanup is told to stop, and whoever cleans up is woken. -/
theorem rests_stopCleaner : Rests e e.stopCleaner := by
  rw [stopCleaner]
  split
  · exact .refl e
  · refine Rests.trans ?_ (rests_wakeAll _ _)
    exact ⟨rfl, rfl, ⟨[], (List.append_nil _).symm⟩, rfl, rfl, rfl, rfl, .refl _ _, rfl, rfl⟩

/-- What happens to the cache happens to nothing else. -/
theorem rests_withCache (cache : Cache) : Rests e { e with cache := cache } :=
  ⟨rfl, rfl, ⟨[], (List.append_nil _).symm⟩, rfl, rfl, rfl, rfl, .refl _ _, rfl, rfl⟩

/-- A pass over the cache is told. -/
theorem rests_pass (task : Nat) : Rests e (e.pass task) :=
  (e.rests_withCache _).trans (rests_tell _ _ _)

/-- The cleanup waits for its next time. -/
theorem rests_await (task due : Nat) :
    Rests (e.setJob task (.clean (some due))) (e.await task due) := by
  rw [await]
  split
  · exact rests_wake _ _
  · exact rests_sleep _ _ _

/-- What follows the decision of a future leaves the tasks alone, unless one is to be dropped. -/
theorem rests_follow {s : Settled} (hs : s.abort = none) : Rests e (e.follow s) := by
  rw [follow, hs]
  cases s.wake with
  | none => exact .refl e
  | some waker => exact e.rests_mark none (fun h => nomatch h) rfl

/-- A future gets a result. -/
theorem rests_complete (future : Nat) (result : Outcome α) :
    Rests { e with futures := e.futures.modify future fun c => (c.complete result).1 }
      (e.complete future result).1 := by
  rw [complete, List.modify_eq_set_getElem?]
  split
  · rename_i hnone
    rw [hnone]
    exact .refl e
  · rename_i c hc
    have hsame : e.futures.set future c = e.futures := by
      obtain ⟨hlt, rfl⟩ := List.getElem?_eq_some_iff.mp hc
      exact List.set_getElem_self hlt
    rw [hc]
    obtain ⟨state, waker, task⟩ := c
    cases state with
    | pending => exact rests_follow _ rfl
    | ready _ | cancelled | taken =>
        exact (congrArg (fun futures => Rests { e with futures := futures } e) hsame).mpr (.refl e)

/-- The guard of a future decides it, and that is all. -/
theorem rests_guardEnd (task future : Nat) (how : TaskEnd) :
    Rests { e with
      futures := e.futures.modify future fun c => (c.complete (.error (.taskFailed how))).1 }
      (e.guardEnd task future how) := by
  have hcomplete := e.rests_complete future (.error (.taskFailed how))
  rw [guardEnd]
  split
  · rename_i e' heq
    rw [heq] at hcomplete
    exact hcomplete.trans (e'.rests_tell _ _)
  · rename_i e' heq
    rw [heq] at hcomplete
    exact hcomplete

/-- A load ends, and that is all but for those who are woken. -/
theorem rests_endLoad (load : Nat) (outcome : Outcome Response) :
    Rests { e with loads := e.loads.set load (.ended outcome) } (e.endLoad load outcome) :=
  rests_wakeAll _ _

/-- Whoever waits for a load is in the queue when it has ended. -/
theorem mem_ready_endLoad {load n : Nat} (outcome : Outcome Response)
    (hn : n ∈ waiters e.loads load) (h : e.Lives n) : n ∈ (e.endLoad load outcome).ready :=
  mem_ready_wakeAll _ hn h

/-- An engine without a task that left the pool. -/
def without (e : Engine α) (n : Nat) : Engine α :=
  { e with
    ledger := { e.ledger with pool := (e.ledger.pool.leave n).1 }
    tasks := e.tasks.filter (·.number != n)
    ready := e.ready.filter (· != n) }

/-- A call that is cut off has nothing to do with the pool. -/
theorem pool_cut (l : Ledger) (n : Nat) : (l.cut n).pool = l.pool := by
  rw [Ledger.cut]
  split <;> rfl

/-- A task is forgotten, and that is all but for who gets its slot. -/
theorem rests_retire (n : Nat) : Rests (e.without n) (e.retire n) := by
  have hcut : Adds (fun _ => False) e.ledger.notes (e.ledger.cut n).notes ∧
      (e.ledger.cut n).closed = e.ledger.closed := by
    rw [Ledger.cut]
    split
    · exact ⟨.refl _ _, rfl⟩
    · exact ⟨.one _ (fun h => nomatch h) (fun h => nomatch h), rfl⟩
  rw [retire]
  refine Rests.trans ?_ (rests_wakeAll _ _)
  refine ⟨rfl, rfl, ⟨[], (List.append_nil _).symm⟩, rfl, rfl, ?_, hcut.2, hcut.1, rfl, rfl⟩
  show ((e.ledger.cut n).pool.leave n).1 = _
  rw [pool_cut]
  rfl

/-- Whoever gets the slot of a task that is forgotten is in the queue. -/
theorem mem_ready_retire {n m : Nat} (hm : (e.ledger.pool.leave n).2 = some m)
    (h : (e.without n).Lives m) : m ∈ (e.retire n).ready := by
  rw [retire]
  refine mem_ready_wakeAll _ ?_ h
  show m ∈ ((e.ledger.cut n).pool.leave n).2.toList
  rw [pool_cut, hm]
  exact List.mem_singleton_self m

/-- The ledger in which a task runs. -/
def begunLedger (e : Engine α) (t : Task α) : Ledger :=
  if t.begun then e.ledger else e.ledger.mark (some t.number) .began

/-- A task that begins is that task, only begun. -/
theorem begin_eq {e : Engine α} {t : Task α} (hn : (e.tasks.map Task.number).Nodup)
    (ht : t ∈ e.tasks) :
    e.begin t = { e with
      ledger := e.begunLedger t
      tasks := e.tasks.map fun u => if u.number = t.number then { t with begun := true } else u } := by
  have heq : ∀ u ∈ e.tasks, u.number = t.number → u = t :=
    fun u hu h => List.inj_on_of_nodup_map hn hu ht h
  rw [begin, begunLedger]
  cases hb : t.begun with
  | false =>
      have htasks : e.tasks.map (fun u =>
          if u.number = t.number then { u with begun := true } else u)
          = e.tasks.map fun u => if u.number = t.number then { t with begun := true } else u := by
        refine List.map_congr_left fun u hu => ?_
        by_cases h : u.number = t.number
        · rw [if_pos h, if_pos h, heq u hu h]
        · rw [if_neg h, if_neg h]
      exact congrArg (fun tasks => { e with
        ledger := e.ledger.mark (some t.number) .began, tasks := tasks }) htasks
  | true =>
      have htasks : e.tasks.map (fun u =>
          if u.number = t.number then { t with begun := true } else u) = e.tasks := by
        refine (List.map_congr_left fun u hu => ?_).trans (List.map_id _)
        by_cases h : u.number = t.number
        · rw [if_pos h, heq u hu h, ← hb]
          rfl
        · exact if_neg h
      exact congrArg (fun tasks => { e with tasks := tasks }) htasks.symm

end Operations

end Engine

end Courier
