import Courier.Proofs.Engine.Clients
import Courier.Proofs.Future.Driving

/-!
# Drivers — every future of an engine has a task until it is decided

A future of an engine is decided from the start, or it is spawned with a task that drives it.  The
latter goes through the steps of `Driven.Runs`, whatever happens to the engine: turns and ticks,
calls and cancels, work from elsewhere, and the end of the engine itself, when all tasks are dropped
and a task that is spawned later is dropped before it is stored.

Of all an engine does, only a few changes count here: `Shift` is one of them, and every event is a
chain of shifts (`shifts_step`).  What every shift keeps is `Manned`.
-/

namespace Courier

variable {α : Type}

/-- Whoever has a future can cancel it, or ask for its result. -/
def FutureEvent.ByHolder (ev : FutureEvent α) : Prop :=
  ev = .cancel ∨ ev.asks = true

namespace Engine

/-- The tasks that have not ended, each with the future it drives. -/
def crew (e : Engine α) : List (Nat × Option Nat) :=
  e.tasks.map fun t => (t.number, t.job.future?)

/-- The events by which a task ends that leaves this result to its future. -/
inductive Endings : Outcome α → List (DrivenEvent α) → Prop where
  | result (result : Outcome α) : Endings result [.finish result, .leave]
  | panic : Endings (.error (.taskFailed .panicked)) [.panic]
  | drop : Endings (.error (.taskFailed .dropped)) [.drop]

/-- A future that was dropped with its task. -/
def droppedFuture : Completion α := ⟨.ready (.error (.taskFailed .dropped)), none, none⟩

/-- One change of the tasks and their futures. -/
inductive Shift (e : Engine α) : Engine α → Prop where
  | rest {e' : Engine α} (hc : e'.crew = e.crew) (hf : e'.futures = e.futures)
      (hs : e'.spawned = e.spawned) : Shift e e'
  /-- A task is spawned that drives no future. -/
  | hire {e' : Engine α} (hc : e'.crew = e.crew ++ [(e.spawned, none)])
      (hf : e'.futures = e.futures) (hs : e'.spawned = e.spawned + 1) : Shift e e'
  /-- A future is spawned, and its task stored before it runs. -/
  | man {e' : Engine α} (hc : e'.crew = e.crew ++ [(e.spawned, some e.futures.length)])
      (hf : e'.futures = e.futures ++ [⟨.pending, none, some e.spawned⟩])
      (hs : e'.spawned = e.spawned + 1) : Shift e e'
  /-- A future is spawned, and its task is dropped before it can be stored. -/
  | waste {e' : Engine α} (hc : e'.crew = e.crew.filter (·.1 != e.spawned))
      (hf : e'.futures = e.futures ++ [droppedFuture])
      (hs : e'.spawned = e.spawned + 1) : Shift e e'
  /-- A task ends, and leaves a result to its future. -/
  | leave {n own : Nat} {result : Outcome α} {ending : List (DrivenEvent α)} {e' : Engine α}
      (hmem : (n, some own) ∈ e.crew) (hend : Endings result ending)
      (hc : e'.crew = e.crew.filter (·.1 != n))
      (hf : e'.futures = e.futures.modify own fun c => (c.complete result).1)
      (hs : e'.spawned = e.spawned) : Shift e e'
  /-- A task ends that drives no future. -/
  | retire {n : Nat} {e' : Engine α} (hmem : (n, none) ∈ e.crew)
      (hc : e'.crew = e.crew.filter (·.1 != n)) (hf : e'.futures = e.futures)
      (hs : e'.spawned = e.spawned) : Shift e e'
  /-- Someone cancels a future, or asks for its result. -/
  | touch {own : Nat} {c : Completion α} {ev : FutureEvent α} {e' : Engine α}
      (hown : e.futures[own]? = some c) (hev : ev.ByHolder)
      (hc : e'.crew = e.crew) (hf : e'.futures = e.futures.set own (c.step ev).1)
      (hs : e'.spawned = e.spawned) : Shift e e'
  | decide {result : Outcome α} {e' : Engine α} (hc : e'.crew = e.crew)
      (hf : e'.futures = e.futures ++ [.decided result]) (hs : e'.spawned = e.spawned) : Shift e e'

/-- Changes one after the other. -/
inductive Shifts : Engine α → Engine α → Prop where
  | refl (e : Engine α) : Shifts e e
  | step {e e' e'' : Engine α} (h : Shift e e') (hs : Shifts e' e'') : Shifts e e''

section Shifts

variable {e e' e'' : Engine α}

theorem Shift.one (h : Shift e e') : Shifts e e' :=
  .step h (.refl e')

theorem Shifts.trans (h : Shifts e e') (h' : Shifts e' e'') : Shifts e e'' := by
  induction h with
  | refl e => exact h'
  | step h _ ih => exact .step h (ih h')

theorem Rests.crew (h : Rests e e') : e'.crew = e.crew := by
  rw [Engine.crew, Engine.crew, h.tasks]

/-- Remarks and wakes shift nothing. -/
theorem Rests.shift (h : Rests e e') : Shift e e' :=
  .rest h.crew h.futures h.spawned

end Shifts

/-! ## What the operations of an engine shift -/

section Operations

variable (e : Engine α)

theorem crew_filter (n : Nat) : (e.tasks.filter (·.number != n)).map
    (fun t => (t.number, t.job.future?)) = e.crew.filter (·.1 != n) := by
  rw [crew, List.filter_map]
  rfl

/-- A task that is dropped is forgotten, and its future gets what the guard says. -/
theorem drop_drives {t : Task α} {own : Nat} (hj : t.job.future? = some own) :
    (e.drop t).crew = e.crew.filter (·.1 != t.number) ∧
    (e.drop t).futures
      = e.futures.modify own (fun c => (c.complete (.error (.taskFailed .dropped))).1) ∧
    (e.drop t).spawned = e.spawned := by
  have hretire := (e.mark (some t.number) .dropped).rests_retire t.number
  have hdrop : e.drop t
      = ((e.mark (some t.number) .dropped).retire t.number).guardEnd t.number own .dropped := by
    rw [drop]
    cases hjob : t.job with
    | drive future work =>
        rw [hjob] at hj
        cases hj
        rfl
    | deliver future load =>
        rw [hjob] at hj
        cases hj
        rfl
    | load _ _ | clean _ =>
        rw [hjob] at hj
        cases hj
  have hguard := ((e.mark (some t.number) .dropped).retire t.number).rests_guardEnd t.number own
    .dropped
  rw [hdrop]
  refine ⟨?_, ?_, hguard.spawned.trans hretire.spawned⟩
  · rw [hguard.crew, ← e.crew_filter]
    exact congrArg (List.map _) hretire.tasks
  · rw [hguard.futures, hretire.futures]
    rfl

/-- A task that is dropped and drives no future leaves all futures alone. -/
theorem drop_idle {t : Task α} (hj : t.job.future? = none) :
    (e.drop t).crew = e.crew.filter (·.1 != t.number) ∧ (e.drop t).futures = e.futures ∧
    (e.drop t).spawned = e.spawned := by
  have hretire := (e.mark (some t.number) .dropped).rests_retire t.number
  have hcrew : ((e.mark (some t.number) .dropped).retire t.number).crew
      = e.crew.filter (·.1 != t.number) := by
    rw [← e.crew_filter]
    exact congrArg (List.map _) hretire.tasks
  rw [drop]
  cases hjob : t.job with
  | load ticket work =>
      have hend := ((e.mark (some t.number) .dropped).retire t.number).rests_endLoad ticket.load
        (.error (.taskFailed .dropped))
      exact ⟨hend.crew.trans hcrew, hend.futures.trans hretire.futures,
        hend.spawned.trans hretire.spawned⟩
  | clean due => exact ⟨hcrew, hretire.futures, hretire.spawned⟩
  | drive _ _ | deliver _ _ =>
      rw [hjob] at hj
      cases hj

theorem shift_drop {t : Task α} (hmem : (t.number, t.job.future?) ∈ e.crew) :
    Shift e (e.drop t) := by
  cases hj : t.job.future? with
  | none =>
      rw [hj] at hmem
      obtain ⟨hc, hf, hs⟩ := e.drop_idle hj
      exact .retire hmem hc hf hs
  | some own =>
      rw [hj] at hmem
      obtain ⟨hc, hf, hs⟩ := e.drop_drives hj
      exact .leave hmem .drop hc hf hs

/-- An engine with one more task. -/
def joined (job : Job α) : Engine α :=
  { e with
    tasks := e.tasks ++ [⟨e.spawned, job, false, false⟩]
    spawned := e.spawned + 1 }

theorem crew_joined (job : Job α) :
    (e.joined job).crew = e.crew ++ [(e.spawned, job.future?)] := by
  rw [crew, crew, joined, List.map_append, List.map_singleton]

theorem shifts_spawn (job : Job α) (hj : job.future? = none) : Shifts e (e.spawn job) := by
  have hcrew := e.crew_joined job
  have hmem : (e.spawned, job.future?) ∈ (e.joined job).crew := by
    rw [hcrew]
    exact List.mem_append_right _ List.mem_cons_self
  rw [hj] at hcrew
  rw [spawn]
  split
  · exact .step (.hire hcrew rfl rfl)
      (shift_drop (t := ⟨e.spawned, job, false, false⟩) (e.joined job) hmem).one
  · exact Shift.one (.hire hcrew rfl rfl)

/-- A future is spawned with its task, which is dropped at once where no task can run any more. -/
theorem shifts_spawnFuture {job : Nat → Job α} (hj : ∀ future, (job future).future? = some future) :
    Shifts e (e.spawnFuture job).1 := by
  have hcrew := e.crew_joined (job e.futures.length)
  rw [hj] at hcrew
  cases hs : e.stopped with
  | false =>
      rw [e.spawnFuture_eq hs]
      exact Shift.one (.man hcrew rfl rfl)
  | true =>
      -- the task is dropped by the one who spawns it, and nothing is stored afterwards
      have hdrop : (e.spawnFuture job).1
          = attach (((e.addFuture .pending).1.joined (job e.futures.length)).drop
            ⟨e.spawned, job e.futures.length, false, false⟩) e.futures.length e.spawned := by
        show attach (spawn (e.addFuture .pending).1 (job e.futures.length)) _ _ = _
        rw [spawn]
        dsimp only
        rw [if_pos (show (e.addFuture .pending).1.stopped = true from hs)]
        rfl
      obtain ⟨hc, hf, hn⟩ := drop_drives ((e.addFuture .pending).1.joined (job e.futures.length))
        (t := ⟨e.spawned, job e.futures.length, false, false⟩) (hj e.futures.length)
      have hfutures : (e.futures ++ [Completion.pending]).modify e.futures.length
          (fun c => (c.complete (.error (.taskFailed .dropped))).1)
            = e.futures ++ [droppedFuture] := by
        rw [List.modify_eq_set_getElem?, List.getElem?_concat_length]
        simp [Completion.pending, Completion.complete, droppedFuture]
      rw [hdrop]
      generalize drop _ _ = x at hc hf hn ⊢
      have hf' : x.futures = e.futures ++ [droppedFuture] := hf.trans hfutures
      rw [attach, hf', List.getElem?_concat_length]
      refine Shift.one (.waste ?_ ?_ hn)
      · have hleft : x.crew = (e.crew ++ [(e.spawned, some e.futures.length)]).filter
            (·.1 != e.spawned) := by
          rw [hc, ← hcrew]
          rfl
        rw [List.filter_append] at hleft
        show x.crew = _
        simpa using hleft
      · show x.futures.set e.futures.length droppedFuture = _
        rw [hf']
        simp

theorem shift_cancel (future : Nat) : Shift e (e.cancel future).1 := by
  by_cases h : ∃ c, e.futures[future]? = some c ∧ c.state = .pending
  · obtain ⟨c, hf, hc⟩ := h
    obtain ⟨-, hrests, -⟩ := e.rests_cancel hf hc
    have hev : (FutureEvent.cancel : FutureEvent α).ByHolder := Or.inl rfl
    refine .touch hf hev ?_ ?_ hrests.spawned
    · rw [crew, crew, hrests.tasks, List.map_map]
      refine List.map_congr_left fun t _ => ?_
      by_cases htask : c.task = some t.number <;> simp [htask]
    · rw [hrests.futures, (Completion.step_of_decides hc rfl).1]
      rfl
  · rw [e.cancel_of_done fun c hf hc => h ⟨c, hf, hc⟩]
    exact .rest rfl rfl rfl

theorem shift_pollFuture (future waker : Nat) : Shift e (e.pollFuture future waker).1 := by
  rw [pollFuture]
  split
  · exact .rest rfl rfl rfl
  · have hev : (FutureEvent.poll waker : FutureEvent α).ByHolder := Or.inr rfl
    exact .touch ‹_› hev rfl rfl rfl

theorem shift_waitFuture (future : Nat) : Shift e (e.waitFuture future).1 := by
  rw [waitFuture]
  split
  · exact .rest rfl rfl rfl
  · have hev : (FutureEvent.waitTimeout : FutureEvent α).ByHolder := Or.inr rfl
    exact .touch ‹_› hev rfl rfl rfl

theorem shift_close : Shift e e.close := by
  cases ho : e.ledger.closed with
  | true =>
      rw [e.close_of_closed ho]
      exact .rest rfl rfl rfl
  | false =>
      have hrests := (e.rests_close ho).1
      exact .rest hrests.crew hrests.futures hrests.spawned

theorem shifts_lookup (request : Request) : Shifts e (e.lookup request).1 := by
  have htold := (e.rests_of_cache (e.cache.get e.ledger.elapsed request).1).trans
    (rests_tellAll _ none (e.cache.get e.ledger.elapsed request).2.told)
  rw [lookup]
  dsimp only
  split
  · exact htold.shift.one
  · rename_i ticket hstarted
    have hload : Shift { e with
        cache := (e.cache.get e.ledger.elapsed request).1
        ledger := e.ledger.tellAll none (e.cache.get e.ledger.elapsed request).2.told } { e with
        cache := (e.cache.get e.ledger.elapsed request).1
        ledger := e.ledger.tellAll none (e.cache.get e.ledger.elapsed request).2.told
        loads := e.loads ++ [.running []] } := .rest rfl rfl rfl
    exact .step htold.shift (.step hload
      (shifts_spawn _ (.load ticket (e.loader request).timed) rfl))

theorem shifts_criticalExecuteWith (request : Request) (handler : Handler α) :
    Shifts e (e.criticalExecuteWith request handler).1 := by
  rw [criticalExecuteWith]
  split
  · exact Shift.one (.decide rfl rfl rfl)
  · exact e.shifts_spawnFuture fun _ => rfl

theorem shifts_execute (request : Request) : Shifts e (e.execute request).1 := by
  rw [execute]
  split
  · exact Shift.one (.decide rfl rfl rfl)
  · split
    · exact e.shifts_criticalExecuteWith request _
    · refine .step (e.rests_tell none (.throughCache request.urlText)).shift ?_
      exact (shifts_lookup _ request).trans (shifts_spawnFuture _ fun _ => rfl)

/-- All tasks are dropped, one after the other. -/
theorem shifts_shutdown (hn : (e.tasks.map Task.number).Nodup) : Shifts e e.shutdown := by
  have hdrops : ∀ (tasks : List (Task α)) (x : Engine α), (tasks.map Task.number).Nodup →
      (∀ t ∈ tasks, (t.number, t.job.future?) ∈ x.crew) →
      Shifts x (tasks.foldl (fun x t => x.drop t) x) := by
    intro tasks
    induction tasks with
    | nil => exact fun x _ _ => .refl x
    | cons t rest ih =>
        intro x hn hmem
        obtain ⟨ht, hrest⟩ := List.forall_mem_cons.mp hmem
        obtain ⟨hnew, hn'⟩ := List.nodup_cons.mp hn
        have hcrew : (x.drop t).crew = x.crew.filter (·.1 != t.number) := by
          cases hj : t.job.future? with
          | none => exact (x.drop_idle hj).1
          | some own => exact (x.drop_drives hj).1
        refine .step (x.shift_drop ht) (ih _ hn' fun u hu => ?_)
        rw [hcrew]
        refine List.mem_filter.mpr ⟨hrest u hu, bne_iff_ne.mpr fun heq => hnew ?_⟩
        exact heq ▸ List.mem_map_of_mem hu
  have hstop : Shift e { e with stopped := true } := .rest rfl rfl rfl
  refine .step hstop ?_
  exact hdrops e.tasks _ hn fun t ht => List.mem_map_of_mem ht

end Operations

section Turns

variable {e e' : Engine α} {t : Task α} {l : Ledger}

/-- A task that leaves a result to its future ends with one, panics, or is dropped. -/
theorem Ends.endings {own : Nat} {result : Outcome α} (h : Ends e t l (.future own result)) :
    ∃ ending, Endings result ending := by
  cases h with
  | dropped => exact ⟨_, .drop⟩
  | finished => exact ⟨_, .result result⟩
  | panicked => exact ⟨_, .panic⟩
  | delivered => exact ⟨_, .result _⟩

/-- A task that leaves nothing to a future drives none. -/
theorem Ends.idle {remains : Remains α} (h : Ends e t l remains)
    (hr : ∀ own result, remains ≠ .future own result) : t.job.future? = none := by
  cases h with
  | dropped | finished | panicked | delivered => exact absurd rfl (hr _ _)
  | droppedLoad _ hj | loaded _ hj | loadPanicked _ hj => rw [hj]; rfl
  | droppedClean _ hj | cleaned _ hj => rw [hj]; rfl

theorem Turn.shift {n : Nat} (h : Turn e n e') (hn : (e.tasks.map Task.number).Nodup) :
    Shift e e' := by
  cases h with
  | idle hr => exact .rest rfl rfl rfl
  | skip hr hlives hrests => exact .rest hrests.crew hrests.futures hrests.spawned
  | @stay t l job loads e' hnumber hr ht ha hs hrests =>
      have hcrew : (e.goneOn t l job loads).crew = e.crew := by
        rw [crew, crew, goneOn, List.map_map]
        refine List.map_congr_left fun u hu => ?_
        by_cases heq : u.number = t.number
        · cases List.inj_on_of_nodup_map hn hu ht heq
          simp [future?_of_stays hs]
        · simp [heq]
      exact .rest (hrests.crew.trans hcrew) hrests.futures hrests.spawned
  | @leave t l remains e' hnumber hr ht he hrests hwoken =>
      have hmem : (t.number, t.job.future?) ∈ e.crew := List.mem_map_of_mem ht
      have hcrew : e'.crew = e.crew.filter (·.1 != t.number) := by
        rw [hrests.crew, ← e.crew_filter]
        rfl
      cases remains with
      | future own result =>
          obtain ⟨ending, hend⟩ := he.endings
          rw [future?_of_ends he] at hmem
          exact .leave hmem hend hcrew hrests.futures hrests.spawned
      | load _ _ | nothing =>
          rw [he.idle fun _ _ heq => by cases heq] at hmem
          exact .retire hmem hcrew hrests.futures hrests.spawned

end Turns

/-- **EVERY EVENT OF AN ENGINE IS A CHAIN OF SHIFTS.** -/
theorem shifts_step {e : Engine α} (hn : (e.tasks.map Task.number).Nodup) (ev : EngineEvent α) :
    Shifts e (e.step ev) := by
  cases ev with
  | turn n => exact ((turn_step hn n).shift hn).one
  | tick => exact e.rests_tick.shift.one
  | startCleaner => exact e.shifts_spawn (.clean none) rfl
  | stopCleaner => exact e.rests_stopCleaner.shift.one
  | execute request => exact e.shifts_execute request
  | criticalExecuteWith request handler => exact e.shifts_criticalExecuteWith request handler
  | drive work => exact e.shifts_spawnFuture fun _ => rfl
  | decide result => exact Shift.one (.decide rfl rfl rfl)
  | lookup request => exact e.shifts_lookup request
  | cancel future => exact (e.shift_cancel future).one
  | pollFuture future waker => exact (e.shift_pollFuture future waker).one
  | waitFuture future => exact (e.shift_waitFuture future).one
  | invalidate request => exact (e.rests_of_cache _).shift.one
  | invalidateAll => exact (e.rests_of_cache _).shift.one
  | cleanup => exact (e.rests_of_cache _).shift.one
  | close => exact e.shift_close.one
  | shutdown => exact e.shifts_shutdown hn

/-! ## What every shift keeps -/

/-- Where a future of an engine comes from. -/
inductive Originates (e : Engine α) (future : Nat) : Completion α → Prop where
  /-- It had a result from the start, and no task drives it. -/
  | decided (result : Outcome α) (past : List (FutureEvent α))
      (hfree : ∀ n, (n, some future) ∉ e.crew) :
      Originates e future ((Completion.start (some result)).after past)
  /-- It was spawned with a task, which has not ended as long as it is among the tasks. -/
  | driven {task : Nat} {past : List (DrivenEvent α)} {d : Driven α} {told : List Settled}
      (hruns : Driven.Runs task past d told) (hgiven : d.given = true)
      (hguarded : d.ended = false → d.guarded = true) (htask : task < e.spawned)
      (hcrew : ∀ n, (n, some future) ∈ e.crew ↔ n = task ∧ d.ended = false) :
      Originates e future d.future

/-- **WHAT EVERY SHIFT KEEPS.** -/
structure Manned (e : Engine α) : Prop where
  numbers : (e.crew.map Prod.fst).Nodup
  spawned : ∀ x ∈ e.crew, x.1 < e.spawned
  /-- No task drives a future that there is not. -/
  known : ∀ n future, (n, some future) ∈ e.crew → future < e.futures.length
  futures : ∀ (future : Nat) (c : Completion α), e.futures[future]? = some c →
    Originates e future c

/-- A task has one entry among the tasks. -/
theorem Manned.same {e : Engine α} (h : Manned e) {n : Nat} {job job' : Option Nat}
    (hj : (n, job) ∈ e.crew) (hj' : (n, job') ∈ e.crew) : job = job' :=
  congrArg Prod.snd (List.inj_on_of_nodup_map h.numbers hj hj' rfl)

/-- Whoever has a future does with it what can be done with a future that is driven. -/
theorem exists_holder {ev : FutureEvent α} (hev : ev.ByHolder) (task : Nat) :
    ∃ dev : DrivenEvent α, ∀ d : Driven α, d.may dev = d.given ∧
      (d.step task dev).1 = { d with future := (d.future.step ev).1 } := by
  rcases hev with rfl | hasks
  · exact ⟨.cancel, fun d => ⟨rfl, rfl⟩⟩
  · rcases FutureEvent.asks_cases hasks with ⟨waker, rfl⟩ | rfl | rfl
    · exact ⟨.poll waker, fun d => ⟨rfl, rfl⟩⟩
    · exact ⟨.wait, fun d => ⟨rfl, rfl⟩⟩
    · exact ⟨.waitTimeout, fun d => ⟨rfl, rfl⟩⟩

/-- A task that has its guard ends, and its future is told how. -/
theorem exists_ending {result : Outcome α} {ending : List (DrivenEvent α)}
    (hend : Endings result ending) {task : Nat} {past : List (DrivenEvent α)} {d : Driven α}
    {told : List Settled} (hruns : Driven.Runs task past d told) (hguarded : d.guarded = true)
    (hended : d.ended = false) : ∃ d' told', Driven.Runs task (past ++ ending) d' told' ∧
      d'.future = (d.future.complete result).1 ∧ d'.given = d.given ∧ d'.ended = true := by
  obtain ⟨future, given, guarded, ended⟩ := d
  cases hguarded
  cases hended
  cases hend with
  | result =>
      have hleave := (hruns.step (.finish result) rfl).step .leave rfl
      rw [List.append_assoc] at hleave
      exact ⟨_, _, hleave, rfl, rfl, rfl⟩
  | panic => exact ⟨_, _, hruns.step .panic rfl, rfl, rfl, rfl⟩
  | drop => exact ⟨_, _, hruns.step .drop rfl, rfl, rfl, rfl⟩

section Kept

variable {e e' : Engine α} {future : Nat} {c : Completion α}

/-- A future comes from where it came from, if its task has not ended since. -/
theorem Originates.mono (h : Originates e future c)
    (hcrew : ∀ n, (n, some future) ∈ e'.crew ↔ (n, some future) ∈ e.crew)
    (hs : e.spawned ≤ e'.spawned) : Originates e' future c := by
  cases h with
  | decided result past hfree => exact .decided result past fun n hn => hfree n ((hcrew n).mp hn)
  | driven hruns hgiven hguarded htask hown =>
      exact .driven hruns hgiven hguarded (Nat.lt_of_lt_of_le htask hs)
        fun n => (hcrew n).trans (hown n)

/-- A future that someone cancels or asks comes from where it came from. -/
theorem Originates.touch (h : Originates e future c) {ev : FutureEvent α} (hev : ev.ByHolder) :
    Originates e future (c.step ev).1 := by
  cases h with
  | decided result past hfree =>
      have hafter := (Completion.start (some result)).after_append past [ev]
      exact (show Completion.after _ (past ++ [ev]) = (Completion.step _ ev).1 from hafter)
        ▸ .decided result (past ++ [ev]) hfree
  | @driven task past d told hruns hgiven hguarded htask hown =>
      obtain ⟨dev, hdev⟩ := exists_holder hev task
      obtain ⟨hmay, hstep⟩ := hdev d
      have hnext := hruns.step dev (hmay.trans hgiven)
      rw [hstep] at hnext
      exact .driven hnext hgiven hguarded htask hown

/-- What is in a list without some number is in the list, and has another number. -/
theorem mem_crew_left {n m : Nat} {job : Option Nat} (h : e'.crew = e.crew.filter (·.1 != n)) :
    (m, job) ∈ e'.crew ↔ (m, job) ∈ e.crew ∧ m ≠ n := by
  rw [h, List.mem_filter, bne_iff_ne]

/-- A task that ends makes room for no other. -/
theorem Manned.left (h : Manned e) {n : Nat} (hc : e'.crew = e.crew.filter (·.1 != n))
    (hs : e.spawned ≤ e'.spawned) : (e'.crew.map Prod.fst).Nodup ∧
      (∀ x ∈ e'.crew, x.1 < e'.spawned) := by
  rw [hc]
  refine ⟨h.numbers.sublist (List.filter_sublist.map _), fun x hx => ?_⟩
  exact Nat.lt_of_lt_of_le (h.spawned x (List.mem_filter.mp hx).1) hs

/-- A task that ends leaves those of the futures that it did not drive. -/
theorem Manned.spares (h : Manned e) {n : Nat} {job : Option Nat} (hmem : (n, job) ∈ e.crew)
    (hc : e'.crew = e.crew.filter (·.1 != n)) (hjob : job ≠ some future) (m : Nat) :
    (m, some future) ∈ e'.crew ↔ (m, some future) ∈ e.crew := by
  refine (mem_crew_left hc).trans (and_iff_left_of_imp fun hm hmn => ?_)
  subst hmn
  exact hjob (h.same hmem hm)

/-- A task that is spawned has a number of its own. -/
theorem Manned.hired (h : Manned e) {job : Option Nat}
    (hc : e'.crew = e.crew ++ [(e.spawned, job)]) (hs : e'.spawned = e.spawned + 1) :
    (e'.crew.map Prod.fst).Nodup ∧ (∀ x ∈ e'.crew, x.1 < e'.spawned) := by
  rw [hc, hs]
  refine ⟨?_, fun x hx => ?_⟩
  · rw [List.map_append, List.map_singleton, List.nodup_append]
    refine ⟨h.numbers, List.nodup_singleton _, fun a ha b hb => ?_⟩
    obtain ⟨x, hx, rfl⟩ := List.mem_map.mp ha
    rw [List.mem_singleton.mp hb]
    exact Nat.ne_of_lt (h.spawned x hx)
  · rcases List.mem_append.mp hx with hold | hnew
    · exact Nat.lt_succ_of_lt (h.spawned x hold)
    · rw [List.mem_singleton.mp hnew]
      exact Nat.lt_succ_self _

/-- A new future comes from somewhere, and the others from where they came from. -/
theorem Manned.append (h : Manned e) {own : Completion α} (hf : e'.futures = e.futures ++ [own])
    (hcrew : ∀ n future, future < e.futures.length →
      ((n, some future) ∈ e'.crew ↔ (n, some future) ∈ e.crew))
    (hs : e.spawned ≤ e'.spawned) (hnew : Originates e' e.futures.length own) :
    ∀ (future : Nat) (c : Completion α), e'.futures[future]? = some c →
      Originates e' future c := by
  intro future c hown
  rw [hf] at hown
  rcases Nat.lt_or_ge future e.futures.length with hlt | hge
  · rw [List.getElem?_append_left hlt] at hown
    exact (h.futures future c hown).mono (fun n => hcrew n future hlt) hs
  · rw [List.getElem?_append_right hge] at hown
    have hzero := (List.getElem?_eq_some_iff.mp hown).1
    rw [List.length_singleton] at hzero
    obtain rfl : future = e.futures.length := by omega
    rw [List.mem_singleton.mp (List.mem_of_getElem? hown)]
    exact hnew

/-- **WHAT IS MANNED STAYS MANNED**, whatever shifts. -/
theorem Manned.shift (h : Manned e) (hshift : Shift e e') : Manned e' := by
  have hfresh : ∀ n, (n, some e.futures.length) ∉ e.crew :=
    fun n hn => absurd (h.known n _ hn) (Nat.lt_irrefl _)
  cases hshift with
  | rest hc hf hs =>
      refine ⟨hc ▸ h.numbers, fun x hx => hs ▸ h.spawned x (hc ▸ hx), fun n future hn => ?_,
        fun future c hown => ?_⟩
      · rw [hf]
        exact h.known n future (hc ▸ hn)
      · exact (h.futures future c (hf ▸ hown)).mono (fun n => by rw [hc]) (Nat.le_of_eq hs.symm)
  | hire hc hf hs =>
      obtain ⟨hnumbers, hspawned⟩ := h.hired hc hs
      have hcrew : ∀ n future, (n, some future) ∈ e'.crew ↔ (n, some future) ∈ e.crew := by
        intro n future
        rw [hc]
        simp
      refine ⟨hnumbers, hspawned, fun n future hn => ?_, fun future c hown => ?_⟩
      · rw [hf]
        exact h.known n future ((hcrew n future).mp hn)
      · exact (h.futures future c (hf ▸ hown)).mono (fun n => hcrew n future)
          (hs ▸ Nat.le_succ _)
  | man hc hf hs =>
      obtain ⟨hnumbers, hspawned⟩ := h.hired hc hs
      have hcrew : ∀ n future, (n, some future) ∈ e'.crew ↔ (n, some future) ∈ e.crew ∨
          (n = e.spawned ∧ future = e.futures.length) := by
        intro n future
        rw [hc]
        simp
      refine ⟨hnumbers, hspawned, fun n future hn => ?_, h.append hf (fun n future hlt => ?_)
        (hs ▸ Nat.le_succ _) ?_⟩
      · rw [hf, List.length_append]
        rcases (hcrew n future).mp hn with hold | ⟨-, rfl⟩
        · exact Nat.lt_succ_of_lt (h.known n future hold)
        · exact Nat.lt_succ_self _
      · exact (hcrew n future).trans (or_iff_left fun hnew => absurd hnew.2 (Nat.ne_of_lt hlt))
      · -- its task is the new one, since no other drives a future to come
        have hstart : Driven.Runs e.spawned [] (Driven.spawned : Driven α) [] := .start
        have hruns := hstart.step .store rfl
        refine .driven hruns rfl (fun _ => rfl) (hs ▸ Nat.lt_succ_self _) fun n => ?_
        rw [hcrew]
        refine ⟨fun hn => ?_, fun hn => Or.inr ⟨hn.1, rfl⟩⟩
        exact ⟨(hn.resolve_left (hfresh n)).1, rfl⟩
  | waste hc hf hs =>
      obtain ⟨hnumbers, hspawned⟩ := h.left hc (hs ▸ Nat.le_succ _)
      refine ⟨hnumbers, hspawned, fun n future hn => ?_, h.append hf (fun n future hlt => ?_)
        (hs ▸ Nat.le_succ _) ?_⟩
      · rw [hf, List.length_append]
        exact Nat.lt_succ_of_lt (h.known n future ((mem_crew_left hc).mp hn).1)
      · refine (mem_crew_left hc).trans (and_iff_left_of_imp fun hn => ?_)
        exact Nat.ne_of_lt (h.spawned _ hn)
      · -- the task ended before it was stored, and with it the guard
        have hstart : Driven.Runs e.spawned [] (Driven.spawned : Driven α) [] := .start
        have hruns := (hstart.step .drop rfl).step .store rfl
        refine .driven hruns rfl (fun h => nomatch h) (hs ▸ Nat.lt_succ_self _) fun n => ?_
        exact ⟨fun hn => absurd ((mem_crew_left hc).mp hn).1 (hfresh n), fun hn => nomatch hn.2⟩
  | @leave n own result ending e' hmem hend hc hf hs =>
      obtain ⟨hnumbers, hspawned⟩ := h.left hc (Nat.le_of_eq hs.symm)
      refine ⟨hnumbers, hspawned, fun m future hm => ?_, fun future c hown => ?_⟩
      · rw [hf, List.length_modify]
        exact h.known m future ((mem_crew_left hc).mp hm).1
      · rw [hf, List.getElem?_modify] at hown
        obtain ⟨c₀, hold, hnew⟩ := Option.map_eq_some_iff.mp hown
        have horiginates := h.futures future c₀ hold
        by_cases heq : own = future
        · -- the future of the task that ends
          subst heq
          rw [if_pos rfl] at hnew
          subst hnew
          cases horiginates with
          | decided result past hfree => exact absurd hmem (hfree n)
          | driven hruns hgiven hguarded htask hcrew =>
              obtain ⟨rfl, hended⟩ := (hcrew n).mp hmem
              obtain ⟨d', told', hruns', hfuture, hgiven', hended'⟩ :=
                exists_ending hend hruns (hguarded hended) hended
              rw [← hfuture]
              refine .driven hruns' (hgiven'.trans hgiven) (fun h => nomatch hended'.symm.trans h)
                (hs ▸ htask) fun m => ?_
              refine ⟨fun hm => ?_, fun hm => nomatch hended'.symm.trans hm.2⟩
              obtain ⟨hm, hne⟩ := (mem_crew_left hc).mp hm
              exact absurd ((hcrew m).mp hm).1 hne
        · rw [if_neg heq] at hnew
          cases hnew
          have hjob : some own ≠ some future := fun hsome => heq (Option.some.inj hsome)
          exact horiginates.mono (h.spares hmem hc hjob) (Nat.le_of_eq hs.symm)
  | @retire n e' hmem hc hf hs =>
      obtain ⟨hnumbers, hspawned⟩ := h.left hc (Nat.le_of_eq hs.symm)
      refine ⟨hnumbers, hspawned, fun m future hm => ?_, fun future c hown => ?_⟩
      · rw [hf]
        exact h.known m future ((mem_crew_left hc).mp hm).1
      · have hjob : none ≠ some future := fun hsome => by cases hsome
        exact (h.futures future c (hf ▸ hown)).mono (h.spares hmem hc hjob) (Nat.le_of_eq hs.symm)
  | @touch own c₀ ev e' hold hev hc hf hs =>
      have hmono : ∀ {future c}, Originates e future c → Originates e' future c :=
        fun ho => ho.mono (fun n => by rw [hc]) (Nat.le_of_eq hs.symm)
      refine ⟨hc ▸ h.numbers, fun x hx => hs ▸ h.spawned x (hc ▸ hx), fun n future hn => ?_,
        fun future c hown => ?_⟩
      · rw [hf, List.length_set]
        exact h.known n future (hc ▸ hn)
      · rw [hf] at hown
        by_cases heq : own = future
        · subst heq
          rw [List.getElem?_set_self (List.getElem?_eq_some_iff.mp hold).1] at hown
          cases hown
          exact hmono ((h.futures own c₀ hold).touch hev)
        · rw [List.getElem?_set_ne heq] at hown
          exact hmono (h.futures future c hown)
  | @decide result e' hc hf hs =>
      refine ⟨hc ▸ h.numbers, fun x hx => hs ▸ h.spawned x (hc ▸ hx), fun n future hn => ?_,
        h.append hf (fun n future _ => by rw [hc]) (Nat.le_of_eq hs.symm) ?_⟩
      · rw [hf, List.length_append]
        exact Nat.lt_succ_of_lt (h.known n future (hc ▸ hn))
      · exact .decided result [] fun n => hc ▸ hfresh n

theorem Manned.shifts (h : Manned e) (hshifts : Shifts e e') : Manned e' := by
  induction hshifts with
  | refl e => exact h
  | step hs _ ih => exact ih (h.shift hs)

theorem Manned.nodup (h : Manned e) : (e.tasks.map Task.number).Nodup := by
  have hnumbers := h.numbers
  rw [crew, List.map_map] at hnumbers
  exact hnumbers

/-- **WHATEVER HAPPENS TO AN ENGINE, IT STAYS MANNED.** -/
theorem Manned.steps (h : Manned e) (events : List (EngineEvent α)) :
    Manned (e.steps events) := by
  induction events generalizing e with
  | nil => exact h
  | cons ev rest ih => exact ih (h.shifts (shifts_step h.nodup ev))

end Kept

/-- A client is built with no futures. -/
theorem manned_ofConfig {config : Config} {hasEngine : Bool} {parts : Parts}
    {present : Response → α} {epoch : Int} {e : Engine α}
    (h : ofConfig config hasEngine parts present epoch = .ok e) : Manned e := by
  rw [ofConfig] at h
  cases hv : config.check hasEngine with
  | error cause =>
      rw [hv] at h
      cases h
  | ok _ =>
      rw [hv] at h
      cases h
      have hnew : Manned (new parts (fun request => dispatch request .response) present
          (.start epoch config.retryPoolSize) config.cache) :=
        ⟨List.nodup_nil, List.forall_mem_nil _, fun _ _ hn => absurd hn List.not_mem_nil,
          fun _ _ hown => by cases hown⟩
      exact (hnew.shifts (shifts_spawn _ _ rfl)).shift (rests_tell _ _ _).shift

/-- **NO FUTURE IS STUCK.**  Whatever the order in which the task of a future runs, ends or is
    stored, and the future is polled and cancelled, a pending future has a task that has not ended
    and has the guard, and whoever polled it last is woken once (`Driven.NeverStuck`).  Every future
    of a client goes through such a run or had a result from the start, whatever has happened to the
    client; so the task of a pending one is among its tasks. -/
theorem never_stuck {config : Config} {hasEngine : Bool} {parts : Parts}
    {present : Response → α} {epoch : Int} {e₀ : Engine α}
    (h : ofConfig config hasEngine parts present epoch = .ok e₀) (events : List (EngineEvent α)) :
    (∀ (task : Nat) (past : List (DrivenEvent α)) (d : Driven α) (told : List Settled),
      Driven.Runs task past d told → Driven.NeverStuck task past d told) ∧
    ∀ (future : Nat) (c : Completion α), (e₀.steps events).futures[future]? = some c →
      Originates (e₀.steps events) future c ∧
      (c.state = .pending → ∃ t ∈ (e₀.steps events).tasks,
        t.job.future? = some future ∧ c.task = some t.number) := by
  refine ⟨fun task past d told hruns => hruns.neverStuck, fun future c hown => ?_⟩
  have horiginates := ((manned_ofConfig h).steps events).futures future c hown
  refine ⟨horiginates, fun hpending => ?_⟩
  cases horiginates with
  | decided result past hfree =>
      exact absurd hpending (Completion.after_of_done (by simp [Completion.start,
        Completion.decided]) past).1
  | driven hruns hgiven hguarded htask hcrew =>
      have hnever := hruns.neverStuck
      obtain ⟨hended, -⟩ := hnever.manned hpending
      obtain ⟨t, ht, heq⟩ := List.mem_map.mp ((hcrew _).mpr ⟨rfl, hended⟩)
      have hnumber := congrArg Prod.fst heq
      have hfuture := congrArg Prod.snd heq
      refine ⟨t, ht, hfuture, ?_⟩
      rw [hnever.stored hgiven hpending]
      exact congrArg some hnumber.symm

/-- A future is polled by two, cancelled, and its task dropped: the second is woken, once, and the
    task aborted.  The future of the rival that waits has its task. -/
theorem never_stuck_of_rivals :
    ofConfig narrow true Retry.wavering id 0 = .ok narrowEngine ∧
    (∃ (d : Driven Response) (told : List Settled),
      Driven.Runs 0 [.run, .store, .poll 3, .poll 4, .cancel, .drop] d told ∧
      Driven.NeverStuck 0 [.run, .store, .poll 3, .poll 4, .cancel, .drop] d told ∧
      told = [⟨some 4, some 0⟩]) ∧
    ∃ c, (narrowEngine.steps rivals).futures[1]? = some c ∧ c.state = .pending ∧
      ∃ t ∈ (narrowEngine.steps rivals).tasks,
        t.job.future? = some 1 ∧ c.task = some t.number := by
  obtain ⟨hruns, hfutures⟩ := never_stuck ofConfig_narrow rivals
  refine ⟨ofConfig_narrow, ?_, ?_⟩
  · have hstart : Driven.Runs 0 [] (Driven.spawned : Driven Response) [] := .start
    have hpolled := (((hstart.step .run rfl).step .store rfl).step (.poll 3) rfl).step (.poll 4) rfl
    have hrun := (hpolled.step .cancel rfl).step .drop rfl
    exact ⟨_, _, hrun, hruns 0 _ _ _ hrun, rfl⟩
  · have hpending : (narrowEngine.steps rivals).futures[1]?.any (·.isPending) = true := by
      decide +kernel
    cases hfuture : (narrowEngine.steps rivals).futures[1]? with
    | none =>
        rw [hfuture] at hpending
        cases hpending
    | some c =>
        rw [hfuture] at hpending
        have hstate : c.state = .pending := by
          obtain ⟨state, waker, task⟩ := c
          cases state with
          | pending => rfl
          | ready _ | cancelled | taken => cases hpending
        exact ⟨c, rfl, hstate, (hfutures 1 c hfuture).2 hstate⟩

end Engine

end Courier
