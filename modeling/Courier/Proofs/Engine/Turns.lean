import Courier.Proofs.Engine.Rests

/-!
# Turns — what the turn of a task can be

In its turn a task ends and leaves something behind, or goes on; or there is no such task any more,
or it is not in the queue and nothing happens.  A `Turn` is one of these, with all that has to hold
for it to happen, and every turn of an engine is one (`turn_step`), whichever task has it.  No later
proof has to look into the jobs of tasks again.
-/

namespace Courier

variable {α β : Type}

/-- The future that a job is to decide, if there is one. -/
def Job.future? : Job α → Option Nat
  | .drive future _ | .deliver future _ => some future
  | _ => none

/-- The load that a job runs or waits for, if there is one. -/
def Job.load? : Job α → Option Nat
  | .load ticket _ => some ticket.load
  | .deliver _ number => some number
  | _ => none

/-- Only a job that runs a load has one and no future. -/
theorem Job.eq_load {job : Job α} {load : Nat} (hl : job.load? = some load)
    (hf : job.future? = none) : ∃ ticket work, job = .load ticket work ∧ ticket.load = load := by
  cases job with
  | load ticket work => exact ⟨ticket, work, rfl, Option.some.inj hl⟩
  | deliver => cases hf
  | drive => cases hl
  | clean => cases hl

/-- Only a job that waits for a load has one and a future. -/
theorem Job.eq_deliver {job : Job α} {load future : Nat} (hl : job.load? = some load)
    (hf : job.future? = some future) : job = .deliver future load := by
  cases job with
  | deliver => rw [Option.some.inj hl, Option.some.inj hf]
  | load => cases hf
  | drive => cases hl
  | clean => cases hl

/-- What a task leaves behind when it ends. -/
inductive Remains (α : Type) where
  | future (future : Nat) (result : Outcome α)
  | load (load : Nat) (outcome : Outcome Response)
  | nothing

namespace Remains

/-- The futures when something is left behind for one of them. -/
def futures : Remains α → List (Completion α) → List (Completion α)
  | future n result, futures => futures.modify n fun c => (c.complete result).1
  | _, futures => futures

/-- The loads when something is left behind for one of them. -/
def loads : Remains α → List LoadState → List LoadState
  | load n outcome, loads => loads.set n (.ended outcome)
  | _, loads => loads

/-- Who waits for what is left behind. -/
def waiters : Remains α → List LoadState → List Nat
  | load n _, loads => Engine.waiters loads n
  | _, _ => []

/-- What is pending after something was left behind was pending before. -/
theorem pending {remains : Remains α} {futures : List (Completion α)} {future : Nat}
    {c : Completion α} (hc : (remains.futures futures)[future]? = some c)
    (hpending : c.state = .pending) : futures[future]? = some c := by
  cases remains with
  | load load outcome => exact hc
  | nothing => exact hc
  | future own result =>
      change (futures.modify own fun c => (c.complete result).1)[future]? = some c at hc
      rw [List.getElem?_modify] at hc
      by_cases heq : own = future
      · obtain ⟨⟨state, waker, task⟩, hold, hnew⟩ := Option.map_eq_some_iff.mp hc
        rw [if_pos heq] at hnew
        cases state with
        | pending =>
            cases hnew
            cases hpending
        | ready _ | cancelled | taken =>
            cases hnew
            cases hpending
      · simpa [heq] using hc

end Remains

namespace Engine

/-- The ways a task ends in its turn: the ledger as the task leaves it, and what it leaves behind. -/
inductive Ends (e : Engine α) (t : Task α) : Ledger → Remains α → Prop where
  | dropped {future : Nat} (ha : t.aborted = true) (hj : t.job.future? = some future) :
      Ends e t e.ledger (.future future (.error (.taskFailed .dropped)))
  | droppedLoad {ticket : Ticket} {work : Program (Outcome Response × Duration)}
      (ha : t.aborted = true) (hj : t.job = .load ticket work) :
      Ends e t e.ledger (.load ticket.load (.error (.taskFailed .dropped)))
  | droppedClean {due : Option Nat} (ha : t.aborted = true) (hj : t.job = .clean due) :
      Ends e t e.ledger .nothing
  | finished {future : Nat} {work : Program (Outcome α)} {l : Ledger} {result : Outcome α}
      (ha : t.aborted = false) (hj : t.job = .drive future work)
      (hrun : work.run e.parts t.number (e.begunLedger t) = (l, .done result)) :
      Ends e t l (.future future result)
  | panicked {future : Nat} {work : Program (Outcome α)} {l : Ledger} {text : String}
      (ha : t.aborted = false) (hj : t.job = .drive future work)
      (hrun : work.run e.parts t.number (e.begunLedger t) = (l, .panicked text)) :
      Ends e t l (.future future (.error (.taskFailed .panicked)))
  | delivered {future load : Nat} {outcome : Outcome Response} (ha : t.aborted = false)
      (hj : t.job = .deliver future load) (hl : e.loads[load]? = some (.ended outcome)) :
      Ends e t (e.begunLedger t) (.future future (e.sharedResult outcome))
  | loaded {ticket : Ticket} {work : Program (Outcome Response × Duration)} {l : Ledger}
      {value : Outcome Response × Duration} (ha : t.aborted = false)
      (hj : t.job = .load ticket work)
      (hrun : work.run e.parts t.number (e.begunLedger t) = (l, .done value)) :
      Ends e t l (.load ticket.load value.1)
  | loadPanicked {ticket : Ticket} {work : Program (Outcome Response × Duration)} {l : Ledger}
      {text : String} (ha : t.aborted = false) (hj : t.job = .load ticket work)
      (hrun : work.run e.parts t.number (e.begunLedger t) = (l, .panicked text)) :
      Ends e t l (.load ticket.load (.error (.taskFailed (.panickedWith text))))
  | cleaned {due : Option Nat} (ha : t.aborted = false) (hj : t.job = .clean due) :
      Ends e t (e.begunLedger t) .nothing

/-- A task that is to be dropped does nothing in its turn. -/
theorem Ends.ledger_eq {e : Engine α} {t : Task α} {l : Ledger} {remains : Remains α}
    (h : Ends e t l remains) (ha : t.aborted = true) : l = e.ledger := by
  cases h with
  | dropped => rfl
  | droppedLoad => rfl
  | droppedClean => rfl
  | finished ha' => cases ha.symm.trans ha'
  | panicked ha' => cases ha.symm.trans ha'
  | delivered ha' => cases ha.symm.trans ha'
  | loaded ha' => cases ha.symm.trans ha'
  | loadPanicked ha' => cases ha.symm.trans ha'
  | cleaned ha' => cases ha.symm.trans ha'

/-- How a task ends that is not dropped, as its job has it. -/
def Finishes (e : Engine α) (t : Task α) (l : Ledger) (remains : Remains α) : Prop :=
  match t.job with
  | .drive future work => ∃ stopped, work.run e.parts t.number (e.begunLedger t) = (l, stopped) ∧
      ((∃ v, stopped = .done v ∧ remains = .future future v) ∨
        ∃ text, stopped = .panicked text ∧
          remains = .future future (.error (.taskFailed .panicked)))
  | .deliver future load => l = e.begunLedger t ∧ ∃ outcome,
      e.loads[load]? = some (.ended outcome) ∧ remains = .future future (e.sharedResult outcome)
  | .load ticket work => ∃ stopped, work.run e.parts t.number (e.begunLedger t) = (l, stopped) ∧
      ((∃ v, stopped = .done v ∧ remains = .load ticket.load v.1) ∨
        ∃ text, stopped = .panicked text ∧
          remains = .load ticket.load (.error (.taskFailed (.panickedWith text))))
  | .clean _ => l = e.begunLedger t ∧ remains = .nothing

theorem Ends.finishes {e : Engine α} {t : Task α} {l : Ledger} {remains : Remains α}
    (h : Ends e t l remains) (ha : t.aborted = false) : Finishes e t l remains := by
  rw [Finishes]
  cases h with
  | dropped ha' => cases ha.symm.trans ha'
  | droppedLoad ha' => cases ha.symm.trans ha'
  | droppedClean ha' => cases ha.symm.trans ha'
  | finished _ hj hrun =>
      rw [hj]
      exact ⟨_, hrun, Or.inl ⟨_, rfl, rfl⟩⟩
  | panicked _ hj hrun =>
      rw [hj]
      exact ⟨_, hrun, Or.inr ⟨_, rfl, rfl⟩⟩
  | delivered _ hj hl =>
      rw [hj]
      exact ⟨rfl, _, hl, rfl⟩
  | loaded _ hj hrun =>
      rw [hj]
      exact ⟨_, hrun, Or.inl ⟨_, rfl, rfl⟩⟩
  | loadPanicked _ hj hrun =>
      rw [hj]
      exact ⟨_, hrun, Or.inr ⟨_, rfl, rfl⟩⟩
  | cleaned _ hj =>
      rw [hj]
      exact ⟨rfl, rfl⟩

/-- A task leaves something behind for no future but its own. -/
theorem future?_of_ends {e : Engine α} {t : Task α} {l : Ledger} {future : Nat}
    {result : Outcome α} (he : Ends e t l (.future future result)) :
    t.job.future? = some future := by
  cases he with
  | dropped ha hj => exact hj
  | finished ha hj hrun => rw [hj]; rfl
  | panicked ha hj hrun => rw [hj]; rfl
  | delivered ha hj hl => rw [hj]; rfl

/-- A task ends no load but the one it runs. -/
theorem load_of_ends {e : Engine α} {t : Task α} {l : Ledger} {load : Nat}
    {outcome : Outcome Response} (he : Ends e t l (.load load outcome)) :
    ∃ ticket work, t.job = .load ticket work ∧ ticket.load = load := by
  cases he with
  | droppedLoad ha hj => exact ⟨_, _, hj, rfl⟩
  | loaded ha hj hrun => exact ⟨_, _, hj, rfl⟩
  | loadPanicked ha hj hrun => exact ⟨_, _, hj, rfl⟩

/-- The ways a task goes on after its turn: the ledger as the task leaves it, what its job is now,
    and the loads, since it may wait for one. -/
inductive Stays (e : Engine α) (t : Task α) : Ledger → Job α → List LoadState → Prop where
  | drive {future : Nat} {work next : Program (Outcome α)} {l : Ledger}
      {stopped : Stopped (Outcome α)} (hj : t.job = .drive future work)
      (hrun : work.run e.parts t.number (e.begunLedger t) = (l, stopped))
      (hnext : stopped.rest? = some next) : Stays e t l (.drive future next) e.loads
  | load {ticket : Ticket} {work next : Program (Outcome Response × Duration)} {l : Ledger}
      {stopped : Stopped (Outcome Response × Duration)} (hj : t.job = .load ticket work)
      (hrun : work.run e.parts t.number (e.begunLedger t) = (l, stopped))
      (hnext : stopped.rest? = some next) : Stays e t l (.load ticket next) e.loads
  | deliver {future load : Nat} {waiting : List Nat} (hj : t.job = .deliver future load)
      (hl : e.loads[load]? = some (.running waiting)) :
      Stays e t (e.begunLedger t) (.deliver future load)
        (e.loads.set load (.running (waiting ++ [t.number])))
  /-- There is no such load. -/
  | lost {future load : Nat} (hj : t.job = .deliver future load) (hl : e.loads[load]? = none) :
      Stays e t (e.begunLedger t) (.deliver future load) e.loads
  | clean {due due' : Option Nat} (hj : t.job = .clean due) :
      Stays e t (e.begunLedger t) (.clean due') e.loads

/-- How a task goes on, as its job has it. -/
def Proceeds (e : Engine α) (t : Task α) (l : Ledger) (job : Job α) : Prop :=
  match t.job with
  | .drive future work => ∃ stopped next,
      work.run e.parts t.number (e.begunLedger t) = (l, stopped) ∧ stopped.rest? = some next ∧
        job = .drive future next
  | .load ticket work => ∃ stopped next,
      work.run e.parts t.number (e.begunLedger t) = (l, stopped) ∧ stopped.rest? = some next ∧
        job = .load ticket next
  | .deliver future load => l = e.begunLedger t ∧ job = .deliver future load
  | .clean _ => l = e.begunLedger t ∧ ∃ due, job = .clean due

theorem Stays.proceeds {e : Engine α} {t : Task α} {l : Ledger} {job : Job α}
    {loads : List LoadState} (h : Stays e t l job loads) : Proceeds e t l job := by
  rw [Proceeds]
  cases h with
  | drive hj hrun hnext =>
      rw [hj]
      exact ⟨_, _, hrun, hnext, rfl⟩
  | load hj hrun hnext =>
      rw [hj]
      exact ⟨_, _, hrun, hnext, rfl⟩
  | deliver hj =>
      rw [hj]
      exact ⟨rfl, rfl⟩
  | lost hj =>
      rw [hj]
      exact ⟨rfl, rfl⟩
  | clean hj =>
      rw [hj]
      exact ⟨rfl, _, rfl⟩

/-- A task that goes on has the future it had. -/
theorem future?_of_stays {e : Engine α} {t : Task α} {l : Ledger} {job : Job α}
    {loads : List LoadState} (hs : Stays e t l job loads) : job.future? = t.job.future? := by
  cases hs with
  | drive hj => rw [hj]; rfl
  | load hj => rw [hj]; rfl
  | deliver hj => rw [hj]
  | lost hj => rw [hj]
  | clean hj => rw [hj]; rfl

/-- An engine in which a task has had its turn, and goes on. -/
def goneOn (e : Engine α) (t : Task α) (l : Ledger) (job : Job α)
    (loads : List LoadState) : Engine α :=
  { e.called t.number with
    ledger := l
    loads := loads
    tasks := e.tasks.map fun u =>
      if u.number = t.number then { t with job := job, begun := true } else u }

section GoneOn

variable {e : Engine α} {t : Task α} {l : Ledger} {job : Job α}
  {loads : List LoadState}

/-- What holds of the tasks when one has gone on: it is another, and the others are as they were. -/
theorem mem_goneOn {u : Task α} (hu : u ∈ (e.goneOn t l job loads).tasks) :
    u = { t with job := job, begun := true } ∨ (u ∈ e.tasks ∧ u.number ≠ t.number) := by
  obtain ⟨v, hv, rfl⟩ := List.mem_map.mp hu
  by_cases hn : v.number = t.number
  · rw [if_pos hn]
    exact Or.inl rfl
  · rw [if_neg hn]
    exact Or.inr ⟨hv, hn⟩

theorem numbers_goneOn :
    (e.goneOn t l job loads).tasks.map Task.number = e.tasks.map Task.number := by
  rw [goneOn, List.map_map]
  refine List.map_congr_left fun u _ => ?_
  by_cases hn : u.number = t.number <;> simp [hn]

theorem lives_goneOn {n : Nat} : (e.goneOn t l job loads).Lives n ↔ e.Lives n := by
  have hnumbers : (e.goneOn t l job loads).tasks.map Task.number = e.tasks.map Task.number :=
    numbers_goneOn
  have h := congrArg (fun numbers => n ∈ numbers) hnumbers
  simpa [Lives, List.mem_map] using h

end GoneOn

/-- The others are left when a task is forgotten. -/
theorem mem_left {e : Engine α} {u : Task α} {n : Nat} :
    u ∈ e.tasks.filter (·.number != n) ↔ u ∈ e.tasks ∧ u.number ≠ n := by
  rw [List.mem_filter, bne_iff_ne]

/-- A task that was forgotten is no more. -/
theorem not_lives_of_left {e e' : Engine α} {n : Nat}
    (h : e'.tasks = e.tasks.filter (·.number != n)) : ¬ e'.Lives n := by
  rintro ⟨u, hu, hnumber⟩
  rw [h] at hu
  exact (mem_left.mp hu).2 hnumber

/-- The turn of a task, whether or not it is in the queue. -/
inductive Turn (e : Engine α) (n : Nat) : Engine α → Prop where
  /-- Nobody in the queue has this number. -/
  | idle (hr : n ∉ e.ready) : Turn e n e
  /-- The turn of a task that has ended. -/
  | skip {e' : Engine α} (hr : n ∈ e.ready) (hn : ¬ e.Lives n) (h : Rests (e.called n) e') :
      Turn e n e'
  /-- The turn of a task that goes on. -/
  | stay {t : Task α} {l : Ledger} {job : Job α} {loads : List LoadState} {e' : Engine α}
      (hn : t.number = n) (hr : n ∈ e.ready) (ht : t ∈ e.tasks) (ha : t.aborted = false)
      (hs : Stays e t l job loads) (h : Rests (e.goneOn t l job loads) e') : Turn e n e'
  /-- The turn in which a task ends; whoever gets its slot or waits for its load is woken. -/
  | leave {t : Task α} {l : Ledger} {remains : Remains α} {e' : Engine α}
      (hn : t.number = n) (hr : n ∈ e.ready) (ht : t ∈ e.tasks) (he : Ends e t l remains)
      (h : Rests { e.called t.number with
        ledger := { l with pool := (l.pool.leave t.number).1 }
        tasks := e.tasks.filter (·.number != t.number)
        futures := remains.futures e.futures
        loads := remains.loads e.loads } e')
      (hwoken : ∀ m, (l.pool.leave t.number).2 = some m ∨ m ∈ remains.waiters e.loads →
        e'.Lives m → m ∈ e'.ready) : Turn e n e'

section Turns

variable {e e' : Engine α} {t : Task α} {n : Nat} {l l' : Ledger} {remains : Remains α}

/-- The task that has its turn leaves the queue, and the others stay in it. -/
theorem mem_called {m : Nat} : m ∈ (e.called n).ready ↔ m ∈ e.ready ∧ m ≠ n := by
  rw [called, List.mem_filter, bne_iff_ne]

/-- Nothing happens in the turn of a task that is not in the queue. -/
theorem turn_of_not_ready (h : n ∉ e.ready) : e.turn n = e := by
  rw [turn, if_neg fun hr => h (List.contains_iff_mem.mp hr)]

/-- A task that does not have its turn is left alone. -/
theorem Turn.keeps (h : Turn e n e') (ht : t ∈ e.tasks) (hr : t.number ≠ n) : t ∈ e'.tasks := by
  cases h with
  | idle hready => exact ht
  | skip hready hn hrests =>
      rw [hrests.tasks]
      exact ht
  | stay hn hready hu ha hs hrests =>
      rw [hrests.tasks]
      exact List.mem_map.mpr ⟨t, ht, if_neg (hn ▸ hr)⟩
  | leave hn hready hu he hrests hwoken =>
      rw [hrests.tasks]
      exact mem_left.mpr ⟨ht, hn ▸ hr⟩

/-- Nor is a task that is not in the queue. -/
theorem Turn.keeps_of_not_ready (h : Turn e n e') (hr : n ∉ e.ready) (ht : t ∈ e.tasks) :
    t ∈ e'.tasks := by
  cases h with
  | idle hready => exact ht
  | skip hready | stay hn hready | leave hn hready => exact absurd hready hr

/-- Nobody leaves the queue but the task that has its turn. -/
theorem Turn.queues (h : Turn e n e') {m : Nat} (hm : m ∈ e.ready) (hne : m ≠ n) :
    m ∈ e'.ready := by
  cases h with
  | idle hready => exact hm
  | skip hready hn hrests => exact hrests.mem_ready (mem_called.mpr ⟨hm, hne⟩)
  | stay hn hready hu ha hs hrests => exact hrests.mem_ready (mem_called.mpr ⟨hm, hn ▸ hne⟩)
  | leave hn hready hu he hrests hwoken => exact hrests.mem_ready (mem_called.mpr ⟨hm, hn ▸ hne⟩)

/-- A task that has its turn goes on, or ends. -/
theorem Turn.own (h : Turn e t.number e') (hn : (e.tasks.map Task.number).Nodup)
    (ht : t ∈ e.tasks) (hr : t.number ∈ e.ready) :
    (t.aborted = false ∧ ∃ l job loads, Stays e t l job loads ∧
      Rests (e.goneOn t l job loads) e') ∨
    ∃ l remains, Ends e t l remains ∧ Rests { e.called t.number with
      ledger := { l with pool := (l.pool.leave t.number).1 }
      tasks := e.tasks.filter (·.number != t.number)
      futures := remains.futures e.futures
      loads := remains.loads e.loads } e' := by
  cases h with
  | idle hready => exact absurd hr hready
  | skip hready hm hrests => exact absurd ⟨t, ht, rfl⟩ hm
  | stay hnumber hready hu ha hs hrests =>
      cases List.inj_on_of_nodup_map hn hu ht hnumber
      exact Or.inl ⟨ha, _, _, _, hs, hrests⟩
  | leave hnumber hready hu he hrests hwoken =>
      cases List.inj_on_of_nodup_map hn hu ht hnumber
      exact Or.inr ⟨_, _, he, hrests⟩

/-! ## Every turn is one of these -/

/-- An engine at the end of the turn of a task, with a ledger that says no less than another. -/
structure AtEnd (e : Engine α) (t : Task α) (l : Ledger) (x : Engine α) : Prop where
  same : x = { e.called t.number with ledger := x.ledger, tasks := x.tasks }
  tasks : x.tasks.filter (·.number != t.number) = e.tasks.filter (·.number != t.number)
  pool : x.ledger.pool = l.pool
  closed : x.ledger.closed = l.closed
  notes : Adds (fun _ => False) l.notes x.ledger.notes

/-- One more remark at the end of a turn. -/
theorem AtEnd.mark {x : Engine α} (hx : AtEnd e t l x) (task : Option Nat)
    {what : Happening} (hclosed : what ≠ .transportClosed) (hcall : what.isCall = false) :
    AtEnd e t l (x.mark task what) := by
  refine ⟨?_, hx.tasks, hx.pool, hx.closed, hx.notes.trans (x.rests_mark task hclosed hcall).notes⟩
  exact congrArg (fun y : Engine α => y.mark task what) hx.same

/-- A task is forgotten, and leaves something behind. -/
theorem turn_leave {x : Engine α} (hr : t.number ∈ e.ready) (ht : t ∈ e.tasks)
    (he : Ends e t l remains) (hx : AtEnd e t l x)
    (h : Rests { x.retire t.number with
      futures := remains.futures (x.retire t.number).futures
      loads := remains.loads (x.retire t.number).loads } e')
    (hwaiters : ∀ m ∈ remains.waiters (x.retire t.number).loads, e'.Lives m → m ∈ e'.ready) :
    Turn e t.number e' := by
  have hretire := x.rests_retire t.number
  have hleft : Rests { e.called t.number with
      ledger := { l with pool := (l.pool.leave t.number).1 }
      tasks := e.tasks.filter (·.number != t.number) } (x.without t.number) := by
    -- the task that has its turn is not in the queue any more
    have hready : (e.called t.number).ready.filter (· != t.number) = (e.called t.number).ready :=
      List.filter_eq_self.mpr fun m hm => bne_iff_ne.mpr (mem_called.mp hm).2
    rw [hx.same]
    refine ⟨hx.tasks, rfl, ⟨[], ?_⟩, rfl, rfl, ?_, hx.closed, hx.notes, rfl, rfl⟩
    · exact hready.trans (List.append_nil _).symm
    · exact congrArg (fun pool => (pool.leave t.number).1) hx.pool
  have hfutures : (x.retire t.number).futures = e.futures := by
    rw [hretire.futures, hx.same]
    rfl
  have hloads : (x.retire t.number).loads = e.loads := by
    rw [hretire.loads, hx.same]
    rfl
  rw [hfutures, hloads] at h
  rw [hloads] at hwaiters
  -- what is left behind changes futures and loads alone, and what is forgotten changes neither
  refine .leave rfl hr ht he ((((hleft.trans hretire).withFutures _).withLoads _).trans h) ?_
  rintro m (hm | hm) hlives
  · refine h.mem_ready (x.mem_ready_retire (hx.pool ▸ hm) ?_)
    exact hretire.lives.mp (h.lives.mp hlives)
  · exact hwaiters m hm hlives

/-- A task whose load ends with it. -/
theorem turn_leave_endLoad {x y : Engine α} {load : Nat} {outcome : Outcome Response}
    (hr : t.number ∈ e.ready) (ht : t ∈ e.tasks) (he : Ends e t l (.load load outcome))
    (hx : AtEnd e t l x) (hy : Rests (x.retire t.number) y) :
    Turn e t.number (y.endLoad load outcome) := by
  refine turn_leave hr ht he hx ((hy.withLoads _).trans ?_) fun m hm hlives => ?_
  · show Rests { y with loads := (x.retire t.number).loads.set load (.ended outcome) } _
    rw [← hy.loads]
    exact rests_endLoad y load outcome
  · refine y.mem_ready_endLoad outcome ?_ ((rests_endLoad y load outcome).lives.mp hlives)
    rw [hy.loads]
    exact hm

/-- The turn of a task that is to be dropped. -/
theorem turn_drop (hr : t.number ∈ e.ready) (ht : t ∈ e.tasks) (ha : t.aborted = true) :
    Turn e t.number (drop (e.called t.number) t) := by
  have hready : AtEnd e t e.ledger (e.called t.number) :=
    ⟨rfl, rfl, rfl, rfl, .refl _ _⟩
  have hx : AtEnd e t e.ledger (mark (e.called t.number) (some t.number) .dropped) :=
    hready.mark (some t.number) nofun rfl
  rw [drop]
  cases hj : t.job with
  | drive future work =>
      exact turn_leave hr ht (.dropped ha (by rw [hj]; rfl)) hx (rests_guardEnd _ _ future _) nofun
  | deliver future load =>
      exact turn_leave hr ht (.dropped ha (by rw [hj]; rfl)) hx (rests_guardEnd _ _ future _) nofun
  | load ticket work => exact turn_leave_endLoad hr ht (.droppedLoad ha hj) hx (.refl _)
  | clean due => exact turn_leave hr ht (.droppedClean ha hj) hx (.refl _) nofun

theorem setJob_goneOn (e : Engine α) (t : Task α) (l : Ledger) (job job' : Job α)
    (loads : List LoadState) :
    (e.goneOn t l job loads).setJob t.number job' = e.goneOn t l job' loads := by
  have htasks : (e.goneOn t l job loads).tasks.map
        (fun u => if u.number = t.number then { u with job := job' } else u)
      = (e.goneOn t l job' loads).tasks := by
    rw [goneOn, List.map_map]
    refine List.map_congr_left fun u _ => ?_
    by_cases hu : u.number = t.number <;> simp [hu]
  exact congrArg (fun tasks => { e.goneOn t l job loads with tasks := tasks }) htasks

section Begun

variable (hn : (e.tasks.map Task.number).Nodup) (ht : t ∈ e.tasks)

include hn ht

theorem begin_eq_goneOn : begin (e.called t.number) t
    = e.goneOn t (e.begunLedger t) t.job e.loads :=
  begin_eq (e := e.called t.number) hn ht

/-- A task that begins its turn, in the ledger it leaves. -/
theorem atEnd_begin (l : Ledger) :
    AtEnd e t l { begin (e.called t.number) t with ledger := l } := by
  rw [begin_eq_goneOn hn ht]
  refine ⟨rfl, ?_, rfl, rfl, .refl _ _⟩
  show (e.tasks.map _).filter _ = _
  induction e.tasks with
  | nil => rfl
  | cons u tasks ih =>
      rw [List.map_cons]
      by_cases hu : u.number = t.number
      · rw [if_pos hu, List.filter_cons_of_neg (by simp), List.filter_cons_of_neg (by simp [hu]), ih]
      · rw [if_neg hu, List.filter_cons_of_pos (by simp [hu]),
          List.filter_cons_of_pos (by simp [hu]), ih]

/-- The turn of a task that runs a program: it ends with a value or in a panic, or goes on. -/
theorem turn_resume (hr : t.number ∈ e.ready) (ha : t.aborted = false)
    {work : Program β} {job : Program β → Job α}
    {done : Engine α → β → Engine α} {panicked : Engine α → String → Engine α}
    (hdone : ∀ l v x, work.run e.parts t.number (e.begunLedger t) = (l, .done v) →
      AtEnd e t l x → Turn e t.number (done (x.retire t.number) v))
    (hpanicked : ∀ l text x, work.run e.parts t.number (e.begunLedger t) = (l, .panicked text) →
      AtEnd e t l x → Turn e t.number (panicked (x.retire t.number) text))
    (hstays : ∀ l stopped next, work.run e.parts t.number (e.begunLedger t) = (l, stopped) →
      stopped.rest? = some next → Stays e t l (job next) e.loads) :
    Turn e t.number ((begin (e.called t.number) t).resume t.number work job done panicked) := by
  have hrun : work.run (begin (e.called t.number) t).parts t.number
      (begin (e.called t.number) t).ledger
      = work.run e.parts t.number (e.begunLedger t) := by
    rw [begin_eq_goneOn hn ht]
    rfl
  have hend : ∀ l : Ledger, AtEnd e t l
      (mark { begin (e.called t.number) t with ledger := l } (some t.number) .ended) :=
    fun l => (atEnd_begin hn ht l).mark _ nofun rfl
  have hset : ∀ (l : Ledger) (stopped : Stopped β) (next : Program β) (e' : Engine α),
      work.run e.parts t.number (e.begunLedger t) = (l, stopped) → stopped.rest? = some next →
      Rests (setJob { begin (e.called t.number) t with ledger := l } t.number (job next)) e' →
      Turn e t.number e' := by
    intro l stopped next e' hrun hnext h
    rw [begin_eq_goneOn hn ht] at h
    have hjob := setJob_goneOn e t l t.job (job next) e.loads
    exact .stay rfl hr ht ha (hstays l stopped next hrun hnext) (hjob ▸ h)
  -- whether the task ends or goes on is told by how its program stopped
  rw [resume, hrun]
  generalize work.run e.parts t.number (e.begunLedger t) = result at hdone hpanicked hset
  obtain ⟨l, stopped⟩ := result
  cases stopped with
  | done v => exact hdone l v _ rfl (hend l)
  | panicked text => exact hpanicked l text _ rfl (hend l)
  | stalled => exact hset l _ _ _ rfl rfl (.refl _)
  | asleep due next => exact hset l _ _ _ rfl rfl (rests_sleep _ _ _)
  | queued next => exact hset l _ _ _ rfl rfl (.refl _)

/-- The turn of a task that gives the outcome of a load to a future: it waits, or ends. -/
theorem turn_deliver (hr : t.number ∈ e.ready) (ha : t.aborted = false) {future load : Nat}
    (hj : t.job = .deliver future load) :
    Turn e t.number ((begin (e.called t.number) t).deliver t.number future load) := by
  have hloads : (begin (e.called t.number) t).loads = e.loads := by
    rw [begin_eq_goneOn hn ht]
    rfl
  rw [deliver, hloads]
  cases hl : e.loads[load]? with
  | none =>
      rw [begin_eq_goneOn hn ht, hj]
      exact .stay rfl hr ht ha (.lost hj hl) (.refl _)
  | some state =>
      cases state with
      | running waiting =>
          rw [begin_eq_goneOn hn ht, hj]
          exact .stay rfl hr ht ha (.deliver hj hl) (.refl _)
      | ended outcome =>
          have hresult : (begin (e.called t.number) t).sharedResult outcome
              = e.sharedResult outcome := by
            rw [begin_eq_goneOn hn ht]
            rfl
          have hledger : (begin (e.called t.number) t).ledger = e.begunLedger t := by
            rw [begin_eq_goneOn hn ht]
            rfl
          have hx : AtEnd e t (e.begunLedger t)
              (mark (begin (e.called t.number) t) (some t.number) .ended) := by
            rw [← hledger]
            exact (atEnd_begin hn ht _).mark _ nofun rfl
          show Turn e t.number (((mark _ _ _).retire t.number).complete future
            ((begin (e.called t.number) t).sharedResult outcome)).1
          rw [hresult]
          exact turn_leave hr ht (.delivered ha hj hl) hx (rests_complete _ future _) nofun

/-- The turn of a task that cleans up: it sleeps again, or ends. -/
theorem turn_clean (hr : t.number ∈ e.ready) (ha : t.aborted = false) {due : Option Nat}
    (hj : t.job = .clean due) :
    Turn e t.number ((begin (e.called t.number) t).clean t.number due) := by
  have hset : ∀ (due' : Option Nat) (x e' : Engine α),
      Rests (begin (e.called t.number) t) x → Rests (x.setJob t.number (.clean due')) e' →
      Turn e t.number e' := by
    intro due' x e' hx h
    have hjob := hx.setJob t.number (.clean due')
    rw [begin_eq_goneOn hn ht, setJob_goneOn] at hjob
    exact .stay rfl hr ht ha (.clean hj) (hjob.trans h)
  have hledger : (begin (e.called t.number) t).ledger = e.begunLedger t := by
    rw [begin_eq_goneOn hn ht]
    rfl
  have hx : AtEnd e t (e.begunLedger t) (begin (e.called t.number) t) := by
    rw [← hledger]
    exact atEnd_begin hn ht _
  have hleave : ∀ x : Engine α, Rests ((begin (e.called t.number) t).retire t.number) x →
      Turn e t.number (x.tell (some t.number) .cleanupStopped) :=
    fun x hrests => turn_leave hr ht (.cleaned ha hj) hx (hrests.trans (rests_tell _ _ _)) nofun
  rw [clean.eq_def]
  dsimp only
  split
  · split
    · exact hleave _ (.refl _)
    · exact hset _ _ _ (.refl _) (rests_await _ _ _)
  · split
    · exact hset _ _ _ (rests_pass _ _) (rests_await _ _ _)
    · split
      · refine hleave _ ?_
        split
        · exact rests_pass _ _
        · exact .refl _
      · have hs : Stays e t (e.begunLedger t) t.job e.loads := by
          rw [hj]
          exact .clean hj
        rw [begin_eq_goneOn hn ht]
        exact .stay rfl hr ht ha hs (.refl _)

end Begun

/-- **THE TURN OF A TASK** is the turn in which it ends, or goes on. -/
theorem turn_poll (hr : t.number ∈ e.ready) (ht : t ∈ e.tasks)
    (hn : (e.tasks.map Task.number).Nodup) : Turn e t.number (poll (e.called t.number) t) := by
  rw [poll]
  cases ha : t.aborted with
  | true => exact turn_drop hr ht ha
  | false =>
      rw [if_neg Bool.false_ne_true, runJob]
      cases hj : t.job with
      | drive future work =>
          refine turn_resume hn ht hr ha ?_ ?_ ?_
          · exact fun l v x hrun hx =>
              turn_leave hr ht (.finished ha hj hrun) hx (rests_complete _ future v) nofun
          · exact fun l text x hrun hx =>
              turn_leave hr ht (.panicked ha hj hrun) hx (rests_guardEnd _ _ future _) nofun
          · exact fun l stopped next hrun hnext => .drive hj hrun hnext
      | deliver future load => exact turn_deliver hn ht hr ha hj
      | load ticket work =>
          refine turn_resume hn ht hr ha ?_ ?_ ?_
          · intro l v x hrun hx
            refine turn_leave_endLoad hr ht (.loaded ha hj hrun) hx ?_
            exact (rests_tellAll _ _ _).trans
              ⟨rfl, rfl, ⟨[], (List.append_nil _).symm⟩, rfl, rfl, rfl, rfl, .refl _ _, rfl, rfl⟩
          · exact fun l text x hrun hx =>
              turn_leave_endLoad hr ht (.loadPanicked ha hj hrun) hx (.refl _)
          · exact fun l stopped next hrun hnext => .load hj hrun hnext
      | clean due => exact turn_clean hn ht hr ha hj

/-- **EVERY TURN IS ONE OF THESE**, whichever task has it. -/
theorem turn_step (hn : (e.tasks.map Task.number).Nodup) (n : Nat) : Turn e n (e.turn n) := by
  rw [turn]
  split
  · rename_i hr
    have hready : n ∈ e.ready := List.contains_iff_mem.mp hr
    split
    · rename_i hnone
      refine .skip hready ?_ (.refl _)
      rintro ⟨t, ht, hnumber⟩
      have := List.find?_eq_none.mp hnone t ht
      exact this (beq_iff_eq.mpr hnumber)
    · rename_i t hfind
      have hnumber : t.number = n :=
        beq_iff_eq.mp (List.find?_some (p := fun u : Task α => u.number == n) hfind)
      subst hnumber
      exact turn_poll hready (List.mem_of_find?_eq_some hfind) hn
  · rename_i hr
    exact .idle fun hready => hr (List.contains_iff_mem.mpr hready)

end Turns

end Engine

end Courier
