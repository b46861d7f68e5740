import Courier.Proofs.Engine.Acts
import Courier.Proofs.Program.Books

/-!
# Jottings — what an engine notes while no task works

Between the turns of tasks an engine makes remarks, of no task in particular (`jots_step`): calls,
answers and records come about where tasks work, in their turns.  When a task has worked, all that is
still noted in its turn are remarks, of that task or of none; but if it ends, it is cut off if it is
inside a call (`Closes`, `closes_turn`).
-/

namespace Courier

variable {α β : Type}

namespace Engine

/-- Nothing but remarks lies between two engines, of one task or of none. -/
structure Jots (m : Option Nat) (e e' : Engine α) : Prop where
  ledger : e.ledger.Jots m e'.ledger
  parts : e'.parts = e.parts

namespace Jots

variable {m : Option Nat} {e e' e'' : Engine α}

/-- Nothing has been jotted down. -/
theorem refl (m : Option Nat) (e : Engine α) : Jots m e e :=
  ⟨.refl m e.ledger, rfl⟩

/-- Where the ledger is the same, nothing has been jotted down. -/
theorem of_same (hledger : e'.ledger = e.ledger) (hparts : e'.parts = e.parts) : Jots m e e' :=
  ⟨hledger ▸ .refl m e.ledger, hparts⟩

/-- What is jotted down in turn is jotted down. -/
theorem trans (h : Jots m e e') (h' : Jots m e' e'') : Jots m e e'' :=
  ⟨h.ledger.trans h'.ledger, h'.parts.trans h.parts⟩

/-- What is no work of anybody is no work of this task. -/
theorem mono (h : Jots none e e') (m : Option Nat) : Jots m e e' :=
  ⟨h.ledger.mono m, h.parts⟩

/-- A remark is jotted down. -/
theorem mark (e : Engine α) {task : Option Nat} (hm : task = none ∨ task = m) {what : Happening}
    (hwhat : what.isEntry = false) : Jots m e (e.mark task what) :=
  ⟨.mark e.ledger hm hwhat, rfl⟩

end Jots

/-! ## What leaves ledger and parts alone -/

section Ledgers

variable (e : Engine α) (task future : Nat)

/-- To wake a task is noted nowhere. -/
@[simp] theorem ledger_wake : (e.wake task).ledger = e.ledger := by
  rw [wake]
  split <;> rfl

@[simp] theorem parts_wake : (e.wake task).parts = e.parts := by
  rw [wake]
  split <;> rfl

/-- Nor is it to wake several. -/
@[simp] theorem ledger_wakeAll (tasks : List Nat) : (e.wakeAll tasks).ledger = e.ledger := by
  rw [wakeAll]
  induction tasks generalizing e with
  | nil => rfl
  | cons task rest ih => exact (ih (e.wake task)).trans (e.ledger_wake task)

@[simp] theorem parts_wakeAll (tasks : List Nat) : (e.wakeAll tasks).parts = e.parts := by
  rw [wakeAll]
  induction tasks generalizing e with
  | nil => rfl
  | cons task rest ih => exact (ih (e.wake task)).trans (e.parts_wake task)

/-- That a load ends is noted nowhere; whoever ran it has noted what it came to. -/
@[simp] theorem ledger_endLoad (load : Nat) (outcome : Outcome Response) :
    (e.endLoad load outcome).ledger = e.ledger :=
  ledger_wakeAll _ _

@[simp] theorem parts_endLoad (load : Nat) (outcome : Outcome Response) :
    (e.endLoad load outcome).parts = e.parts :=
  parts_wakeAll _ _

/-- A task that runs for the first time notes that it does. -/
theorem ledger_begin (t : Task α) : (e.begin t).ledger = e.begunLedger t := by
  rw [begin, begunLedger]
  split <;> rfl

/-- No task changes who the client works with. -/
theorem parts_begin (t : Task α) : (e.begin t).parts = e.parts := by
  rw [begin]
  split <;> rfl

/-- The ledger when a task is forgotten. -/
theorem ledger_retire :
    (e.retire task).ledger
      = { e.ledger.cut task with pool := ((e.ledger.cut task).pool.leave task).1 } :=
  ledger_wakeAll _ _

end Ledgers

/-! ## Remarks of no task -/

section Outside

variable (e : Engine α)

/-- Whoever waits for a future is not a task. -/
theorem jots_follow (s : Settled) : Jots none e (e.follow s) := by
  have hwoken : ∀ (x : Engine α) (waker : Nat), Jots none x (x.mark none (.woken waker)) :=
    fun x waker => .mark x (Or.inl rfl) rfl
  rw [follow]
  cases s.abort with
  | none =>
      cases s.wake with
      | none => exact .refl none e
      | some waker => exact hwoken e waker
  | some task =>
      have habort : Jots none e (e.abort task) := .of_same (ledger_wake _ task) (parts_wake _ task)
      cases s.wake with
      | none => exact habort
      | some waker => exact habort.trans (hwoken _ waker)

/-- A future is decided. -/
theorem jots_complete (future : Nat) (result : Outcome α) :
    Jots none e (e.complete future result).1 := by
  rw [complete]
  split
  · exact .refl none e
  · split
    · exact .refl none e
    · rename_i c settled _
      have hset : Jots none e (e.setFuture future c) := .of_same rfl rfl
      exact hset.trans (jots_follow _ settled)

/-- A future is cancelled, and its task is to be dropped. -/
theorem jots_cancel (future : Nat) : Jots none e (e.cancel future).1 := by
  rw [cancel]
  split
  · exact .refl none e
  · split
    · exact .refl none e
    · rename_i c settled _
      have hset : Jots none e (e.setFuture future c) := .of_same rfl rfl
      exact hset.trans (jots_follow _ settled)

/-- The cleanup is told to stop. -/
theorem jots_stopCleaner : Jots none e e.stopCleaner := by
  rw [stopCleaner]
  split
  · exact .refl none e
  · exact .of_same (ledger_wakeAll _ _) (parts_wakeAll _ _)

/-- The client is closed, which it tells the log. -/
theorem jots_close : Jots none e e.close := by
  rw [close]
  split
  · exact .refl none e
  · dsimp only
    refine Jots.trans ?_ ((jots_stopCleaner _).trans (.mark _ (Or.inl rfl) rfl))
    refine Jots.trans ?_ (.mark _ (Or.inl rfl) rfl)
    refine ⟨?_, parts_wakeAll _ _⟩
    dsimp only
    rw [ledger_wakeAll]
    exact .of_same rfl rfl rfl rfl

/-- The clocks move, and nothing is noted. -/
theorem jots_tick : Jots none e e.tick := by
  rw [tick]
  refine ⟨?_, parts_wakeAll _ _⟩
  rw [ledger_wakeAll]
  exact .of_same rfl rfl rfl rfl

theorem jots_pollFuture (future waker : Nat) : Jots none e (e.pollFuture future waker).1 := by
  rw [pollFuture]
  split <;> exact .of_same rfl rfl

theorem jots_waitFuture (future : Nat) : Jots none e (e.waitFuture future).1 := by
  rw [waitFuture]
  split <;> exact .of_same rfl rfl

end Outside

/-! ## Remarks of a task -/

section Inside

variable (e : Engine α) (n : Nat)

/-- The guard of a future decides it, and tells so. -/
theorem jots_guardEnd (future : Nat) (how : TaskEnd) :
    Jots (some n) e (e.guardEnd n future how) := by
  have hcomplete := (e.jots_complete future (.error (.taskFailed how))).mono (some n)
  rw [guardEnd]
  split
  · rename_i e' heq
    rw [heq] at hcomplete
    exact hcomplete.trans (.mark e' (Or.inr rfl) rfl)
  · rename_i e' heq
    rw [heq] at hcomplete
    exact hcomplete

/-- That a task begins is a remark. -/
theorem jots_begunLedger (t : Task α) : e.ledger.Jots (some t.number) (e.begunLedger t) := by
  rw [begunLedger]
  split
  · exact .refl _ e.ledger
  · exact .mark e.ledger (Or.inr rfl) rfl

/-- A load gives its outcome to the cache, which may tell the log about it. -/
theorem jots_finishLoad (ticket : Ticket) (value : Outcome Response × Duration) :
    Jots (some n) e (e.finishLoad n ticket value) := by
  rw [finishLoad]
  refine ⟨?_, parts_endLoad _ _ _⟩
  dsimp only
  rw [ledger_endLoad]
  exact .tellAll e.ledger (Or.inr rfl) _

/-- A pass over the cache is told by the task that makes it. -/
theorem jots_pass : Jots (some n) e (e.pass n) :=
  ⟨.mark e.ledger (Or.inr rfl) rfl, rfl⟩

/-- To wait for the next pass is noted nowhere. -/
theorem jots_await (due : Nat) : Jots (some n) e (e.await n due) := by
  rw [await]
  split
  · exact .of_same (ledger_wake _ n) (parts_wake _ n)
  · exact .of_same rfl rfl

/-- When a task is forgotten, its call is cut off, and it leaves the pool. -/
theorem jots_retire :
    Jots (some n) { e with ledger := e.ledger.cut n } (e.retire n) := by
  refine ⟨?_, parts_wakeAll _ _⟩
  rw [ledger_retire]
  exact .of_same rfl rfl rfl rfl

end Inside

/-! ## Between turns -/

section Calls

variable {e : Engine α} (hs : e.stopped = false)

include hs

/-- The cache is asked for a request, and may tell the log about it. -/
theorem jots_lookup (request : Request) : Jots none e (e.lookup request).1 := by
  have htold : e.ledger.Jots none
      (e.ledger.tellAll none (e.cache.get e.ledger.elapsed request).2.told) :=
    .tellAll e.ledger (Or.inl rfl) _
  rw [lookup]
  dsimp only
  split
  · exact ⟨htold, rfl⟩
  · rw [spawn_eq]
    · exact ⟨htold, rfl⟩
    · exact hs

/-- A task is spawned for a new future. -/
theorem jots_spawnFuture (job : Nat → Job α) : Jots none e (e.spawnFuture job).1 := by
  rw [e.spawnFuture_eq hs]
  exact .of_same rfl rfl

/-- A call around the cache. -/
theorem jots_criticalExecuteWith (request : Request) (handler : Handler α) :
    Jots none e (e.criticalExecuteWith request handler).1 := by
  rw [criticalExecuteWith]
  split
  · exact .of_same rfl rfl
  · exact jots_spawnFuture hs _

/-- A call, through the cache or around it. -/
theorem jots_execute (request : Request) : Jots none e (e.execute request).1 := by
  rw [execute]
  split
  · exact .of_same rfl rfl
  · split
    · exact jots_criticalExecuteWith hs request _
    · dsimp only
      have htold : Jots none e (e.tell none (.throughCache request.urlText)) :=
        .mark e (Or.inl rfl) rfl
      have hlookup := jots_lookup (e := e.tell none (.throughCache request.urlText)) hs request
      have hstopped := (acts_lookup (e.tell none (.throughCache request.urlText)) hs request).stopped
      exact (htold.trans hlookup).trans (jots_spawnFuture (hstopped.trans hs) _)

/-- **BETWEEN TURNS NOTHING IS NOTED BUT REMARKS, OF NO TASK.** -/
theorem jots_step {ev : EngineEvent α} (hc : ev.isClient = true) (ht : ev.isTurn = false) :
    Jots none e (e.step ev) := by
  cases ev with
  | turn => cases ht
  | tick => exact e.jots_tick
  | startCleaner =>
      rw [Engine.step, startCleaner, e.spawn_eq hs]
      exact .of_same rfl rfl
  | stopCleaner => exact e.jots_stopCleaner
  | execute request => exact jots_execute hs request
  | criticalExecuteWith request handler => exact jots_criticalExecuteWith hs request handler
  | drive work => cases hc
  | decide result => exact .of_same rfl rfl
  | lookup request => exact jots_lookup hs request
  | cancel future => exact e.jots_cancel future
  | pollFuture future waker => exact e.jots_pollFuture future waker
  | waitFuture future => exact e.jots_waitFuture future
  | invalidate request => exact .of_same rfl rfl
  | invalidateAll => exact .of_same rfl rfl
  | cleanup => exact .of_same rfl rfl
  | close => exact e.jots_close
  | shutdown => cases hc

end Calls

/-! ## The turn of a task -/

/-- The ledger where the work of a task stops that has its turn. -/
def worked (e : Engine α) (t : Task α) : Ledger :=
  if t.aborted then e.ledger
  else
    match t.job with
    | .drive _ work => (work.run e.parts t.number (e.begunLedger t)).1
    | .load _ work => (work.run e.parts t.number (e.begunLedger t)).1
    | .deliver _ _ | .clean _ => e.begunLedger t

/-- **WHAT IS STILL NOTED WHEN A TASK HAS WORKED**: remarks, and if the task ends, that its call is
cut off, if it is inside one. -/
inductive Closes (n : Nat) (e e' : Engine α) : Prop where
  | goesOn (lives : e'.Lives n) (jots : Jots (some n) e e') : Closes n e e'
  | ends {last : Engine α} (gone : ¬ e'.Lives n) (before : Jots (some n) e last)
      (after : Jots (some n) { last with ledger := last.ledger.cut n } e') : Closes n e e'

section Turns

variable {e e' : Engine α} {t : Task α} {n : Nat}

/-- A task that has its turn does not change who the client works with. -/
theorem Closes.parts (h : Closes n e e') : e'.parts = e.parts := by
  cases h with
  | goesOn lives jots => exact jots.parts
  | ends gone before after => exact after.parts.trans before.parts

/-- Remarks come before it all. -/
theorem Closes.after_jots {x : Engine α} (hj : Jots (some n) e x) (h : Closes n x e') :
    Closes n e e' := by
  cases h with
  | goesOn lives jots => exact .goesOn lives (hj.trans jots)
  | ends gone before after => exact .ends gone (hj.trans before) after

/-- A task is forgotten. -/
theorem closes_of_retire {x : Engine α} (before : Jots (some n) e x)
    (after : Jots (some n) (x.retire n) e') (htasks : e'.tasks = (x.retire n).tasks) :
    Closes n e e' := by
  refine .ends ?_ before ((x.jots_retire n).trans after)
  rw [(x.rests_retire n).tasks] at htasks
  exact not_lives_of_left htasks

/-- A task that is dropped is cut off from the call it is inside. -/
theorem closes_drop (e : Engine α) (t : Task α) : Closes t.number e (e.drop t) := by
  have hdropped : Jots (some t.number) e (e.mark (some t.number) .dropped) :=
    .mark e (Or.inr rfl) rfl
  rw [drop]
  cases t.job with
  | drive future work =>
      exact closes_of_retire hdropped (jots_guardEnd _ _ future .dropped)
        (rests_guardEnd _ _ future .dropped).tasks
  | deliver future load =>
      exact closes_of_retire hdropped (jots_guardEnd _ _ future .dropped)
        (rests_guardEnd _ _ future .dropped).tasks
  | load ticket work =>
      exact closes_of_retire hdropped (.of_same (ledger_endLoad _ _ _) (parts_endLoad _ _ _))
        (rests_endLoad _ _ _).tasks
  | clean due => exact closes_of_retire hdropped (.refl _ _) rfl

theorem lives_setJob (hl : e.Lives n) (task : Nat) (job : Job α) : (e.setJob task job).Lives n := by
  obtain ⟨t, ht, rfl⟩ := hl
  refine ⟨_, List.mem_map_of_mem ht, ?_⟩
  split <;> rfl

/-- A task runs a program, and notes no more than remarks when it ends. -/
theorem closes_resume (hl : e.Lives n) (work : Program β) (job : Program β → Job α)
    {done : Engine α → β → Engine α} {panicked : Engine α → String → Engine α}
    (hdone : ∀ x v, Jots (some n) x (done x v) ∧ (done x v).tasks = x.tasks)
    (hpanicked : ∀ x text, Jots (some n) x (panicked x text) ∧ (panicked x text).tasks = x.tasks) :
    Closes n { e with ledger := (work.run e.parts n e.ledger).1 }
      (e.resume n work job done panicked) := by
  rw [resume]
  generalize work.run e.parts n e.ledger = result
  obtain ⟨l, stopped⟩ := result
  have hended : Jots (some n) { e with ledger := l } (mark { e with ledger := l } (some n) .ended) :=
    .mark _ (Or.inr rfl) rfl
  have hset : ∀ next, Lives (setJob { e with ledger := l } n (job next)) n :=
    fun next => lives_setJob (e := { e with ledger := l }) hl n (job next)
  cases stopped with
  | done v => exact closes_of_retire hended (hdone _ v).1 (hdone _ v).2
  | panicked text => exact closes_of_retire hended (hpanicked _ text).1 (hpanicked _ text).2
  | stalled => exact .goesOn (hset _) (.of_same rfl rfl)
  | asleep due next => exact .goesOn (hset next) (.of_same rfl rfl)
  | queued next => exact .goesOn (hset next) (.of_same rfl rfl)

/-- A task that waits for a load does no work itself. -/
theorem closes_deliver (hl : e.Lives n) (future load : Nat) :
    Closes n e (e.deliver n future load) := by
  rw [deliver]
  split
  · exact .goesOn hl (.refl _ _)
  · exact closes_of_retire (.mark e (Or.inr rfl) rfl) ((jots_complete _ future _).mono _)
      (rests_complete _ future _).tasks
  · exact .goesOn hl (.of_same rfl rfl)

/-- A task that cleans up notes its passes, and that it stops. -/
theorem closes_clean (hl : e.Lives n) (due : Option Nat) : Closes n e (e.clean n due) := by
  have hawait : ∀ (x : Engine α) (due : Nat), x.Lives n → Jots (some n) e x →
      Closes n e (x.await n due) := fun x due hx hj =>
    .goesOn ((x.rests_await n due).lives.mpr (lives_setJob hx n _)) (hj.trans (x.jots_await n due))
  rw [clean.eq_def]
  dsimp only
  split
  · split
    · exact closes_of_retire (.refl _ _) (.mark _ (Or.inr rfl) rfl) rfl
    · exact hawait e _ hl (.refl _ e)
  · split
    · exact hawait _ _ ((e.rests_pass n).lives.mpr hl) (e.jots_pass n)
    · split
      · refine closes_of_retire (x := e) (.refl _ e) (Jots.trans ?_ (.mark _ (Or.inr rfl) rfl)) ?_
        · split
          · exact jots_pass _ n
          · exact .refl _ _
        · split <;> rfl
      · exact .goesOn hl (.refl _ e)

/-- Whatever job a task has, it works, and then the rest is remarks and perhaps a cut. -/
theorem closes_poll (ht : t ∈ e.tasks) :
    Closes t.number { e with ledger := e.worked t } (e.poll t) := by
  rw [worked, poll]
  split
  · exact e.closes_drop t
  · have hlives : (e.begin t).Lives t.number := by
      rw [begin]
      split
      · exact ⟨t, ht, rfl⟩
      · refine ⟨_, List.mem_map_of_mem ht, ?_⟩
        split <;> rfl
    refine .after_jots (x := { e.begin t with ledger := _ }) (.of_same rfl (e.parts_begin t)) ?_
    rw [runJob, ← e.ledger_begin t, ← e.parts_begin t]
    cases t.job with
    | drive future work =>
        exact closes_resume hlives work _
          (fun x v => ⟨(x.jots_complete future v).mono _, (x.rests_complete future v).tasks⟩)
          fun x text => ⟨x.jots_guardEnd _ future _, (x.rests_guardEnd _ future _).tasks⟩
    | deliver future load => exact closes_deliver hlives future load
    | load ticket work =>
        exact closes_resume hlives work _
          (fun x v => ⟨x.jots_finishLoad _ ticket v, (rests_endLoad _ _ _).tasks⟩)
          fun x text => ⟨.of_same (ledger_endLoad _ _ _) (parts_endLoad _ _ _),
            (x.rests_endLoad _ _).tasks⟩
    | clean due => exact closes_clean hlives due

/-- A task that has not ended is found by its number. -/
theorem task?_eq (hn : (e.tasks.map Task.number).Nodup) (ht : t ∈ e.tasks) :
    e.task? t.number = some t := by
  rw [task?]
  cases hfind : e.tasks.find? (·.number == t.number) with
  | none => simpa using List.find?_eq_none.mp hfind t ht
  | some u =>
      have hnumber : u.number = t.number :=
        beq_iff_eq.mp (List.find?_some (p := fun u : Task α => u.number == t.number) hfind)
      rw [List.inj_on_of_nodup_map hn (List.mem_of_find?_eq_some hfind) ht hnumber]

/-- The turn of a task that is in the queue and has not ended. -/
theorem turn_eq_poll (hn : (e.tasks.map Task.number).Nodup) (ht : t ∈ e.tasks)
    (hr : t.number ∈ e.ready) : e.turn t.number = poll (e.called t.number) t := by
  rw [turn, if_pos (List.contains_iff_mem.mpr hr), task?_eq hn ht]

/-- **THE TURN OF A TASK**: it works, and the rest is remarks, and a cut if it ends. -/
theorem closes_turn (hn : (e.tasks.map Task.number).Nodup) (ht : t ∈ e.tasks)
    (hr : t.number ∈ e.ready) :
    Closes t.number { e with ledger := e.worked t } (e.turn t.number) := by
  rw [turn_eq_poll hn ht hr]
  have hpoll := closes_poll (e := e.called t.number) ht
  exact .after_jots (x := { e.called t.number with ledger := e.worked t }) (.of_same rfl rfl) hpoll

/-- No other turn notes anything. -/
theorem jots_turn_of_gone (h : n ∈ e.ready → ¬ e.Lives n) : Jots none e (e.turn n) := by
  rw [turn]
  split
  · rename_i hr
    have hnone : e.task? n = none := List.find?_eq_none.mpr fun t ht hnumber =>
      h (List.contains_iff_mem.mp hr) ⟨t, ht, beq_iff_eq.mp hnumber⟩
    rw [hnone]
    exact .of_same rfl rfl
  · exact .refl none e

end Turns

end Engine

end Courier
