import Courier.Proofs.Engine.Acts
import Courier.Proofs.Engine.Beside
import Courier.Proofs.Program.Junctures

/-!
# The side of a task

What of an engine concerns one of its tasks: the task itself, the times it sleeps up to, and what is
noted of it; and what stands for all of them, the clocks, whether the client is closed and whether
the cleanup is told to stop.  Whatever other tasks do in their turns leaves the side of a task alone
(`taskSide_turn`), and so does everything between turns but a tick, a cancel of its future, and an
event that closes the client or stops the cleanup (`taskSide_step`).
-/

namespace Courier

variable {α β : Type}

/-- What of a ledger concerns a task. -/
structure LedgerSide where
  elapsed : Nat
  tick : Nat
  closed : Bool
  /-- What was noted of the task, latest first. -/
  notes : List Note

/-- What of an engine concerns a task. -/
structure TaskSide (α : Type) where
  /-- The task, if it has not ended. -/
  tasks : List (Task α)
  /-- When the task is to be woken. -/
  alarms : List (Nat × Nat)
  ledger : LedgerSide
  cleanerStopped : Bool

/-- The task notes something. -/
def LedgerSide.note (s : LedgerSide) (n : Nat) (what : Happening) : LedgerSide :=
  { s with notes := ⟨s.elapsed, some n, what⟩ :: s.notes }

namespace TaskSide

/-- The task is changed. -/
def adjust (s : TaskSide α) (change : Task α → Task α) : TaskSide α :=
  { s with tasks := s.tasks.map change }

/-- The task sleeps up to a time. -/
def sleep (s : TaskSide α) (n due : Nat) : TaskSide α :=
  { s with alarms := s.alarms ++ [(due, n)] }

/-- The task is to clean up next at some time, and sleeps up to it unless it has come. -/
def await (s : TaskSide α) (n due : Nat) : TaskSide α :=
  let s := s.adjust fun t => { t with job := .clean (some due) }
  if due ≤ s.ledger.elapsed then s else s.sleep n due

/-- Whoever waits notes nothing. -/
@[simp] theorem ledger_await (s : TaskSide α) (n due : Nat) :
    (s.await n due).ledger = s.ledger := by
  rw [await]
  split <;> rfl

/-- The task notes something. -/
def note (s : TaskSide α) (n : Nat) (what : Happening) : TaskSide α :=
  { s with ledger := s.ledger.note n what }

/-- **WHAT LEAVES A TASK ALONE**: the client may be closed and the cleanup told to stop, and the
    cleanup of a client that is closed is. -/
structure Keeps (s s' : TaskSide α) : Prop where
  tasks : s'.tasks = s.tasks
  alarms : s'.alarms = s.alarms
  ledger : s'.ledger = { s.ledger with closed := s'.ledger.closed }
  stopped : s.cleanerStopped = true → s'.cleanerStopped = true
  closed : s'.ledger.closed = true → s.ledger.closed = true ∨ s'.cleanerStopped = true

theorem Keeps.refl (s : TaskSide α) : Keeps s s :=
  ⟨rfl, rfl, rfl, id, Or.inl⟩

end TaskSide

namespace Ledger

/-- What of a ledger concerns a task. -/
def side (l : Ledger) (n : Nat) : LedgerSide :=
  ⟨l.elapsed, l.tick, l.closed, l.notesOf n⟩

section Side

variable {n m : Nat} (l : Ledger)

/-- Whatever is noted of others does not concern the task. -/
theorem side_mark {task : Option Nat} (h : task ≠ some n) (what : Happening) :
    (l.mark task what).side n = l.side n :=
  congrArg (LedgerSide.mk l.elapsed l.tick l.closed) (notesOf_mark_of_ne h l what)

/-- Nor does whatever others tell the log. -/
theorem side_tellAll {task : Option Nat} (h : task ≠ some n) (entries : List Log) :
    (l.tellAll task entries).side n = l.side n := by
  rw [tellAll]
  induction entries generalizing l with
  | nil => rfl
  | cons entry rest ih => exact (ih (l.tell task entry)).trans (l.side_mark h (.told entry))

variable (h : (some m : Option Nat) ≠ some n)

include h

/-- A call of another task gives its outcome. -/
theorem side_answered : (l.answered m).side n = l.side n := by
  rw [answered]
  split
  · rfl
  · exact side_mark { l with running := l.running.filter (·.1 != m) } h _

/-- A call of another task is cut off. -/
theorem side_cut : (l.cut m).side n = l.side n := by
  rw [cut]
  split
  · rfl
  · exact side_mark { l with running := l.running.filter (·.1 != m) } h _

/-- A record of another task is handed over. -/
theorem side_record (parts : Parts) (r : Record) : (l.record parts m r).1.side n = l.side n := by
  have hrecorded : (mark { l with records := r :: l.records } (some m) (.recorded r)).side n
      = l.side n := side_mark { l with records := r :: l.records } h _
  rw [record]
  dsimp only
  split
  · exact (side_mark _ h _).trans hrecorded
  · exact hrecorded

end Side

end Ledger

/-- A task that runs leaves the sides of all others alone. -/
theorem Program.side_run {n m : Nat} (h : (some m : Option Nat) ≠ some n) (parts : Parts)
    (l : Ledger) (p : Program β) : (p.run parts m l).1.side n = l.side n := by
  induction p generalizing l with
  | done value => rfl
  | panic text => rfl
  | stall => rfl
  | note what next ih => exact (ih _).trans (l.side_mark h what)
  | clock next ih => exact ih _ l
  | sleep length next ih =>
      rw [run]
      split
      · exact ih l
      · rfl
  | pause attempt next ih =>
      have hpause : (l.pause parts m attempt).1.side n = l.side n :=
        Ledger.side_mark { l with pauses := attempt :: l.pauses } h _
      rw [run]
      dsimp only
      split
      · exact (ih _).trans hpause
      · exact hpause
  | closed next ih => exact ih _ l
  | slot next ih =>
      rw [run]
      split
      · exact ih _ _
      · exact ih _ _
      · rfl
  | call request next ih =>
      exact (ih _ _).trans (Ledger.side_mark { l with
        calls := l.nextCall request :: l.calls
        running := (m, (l.nextCall request).number) :: l.running } h _)
  | answered next ih => exact (ih _).trans (l.side_answered h)
  | record r next ih => exact (ih _ _).trans (l.side_record h parts r)

namespace Engine

/-- What of an engine concerns a task. -/
def taskSide (e : Engine α) (n : Nat) : TaskSide α where
  tasks := e.tasks.filter (·.number == n)
  alarms := e.timers.filter (·.2 == n)
  ledger := e.ledger.side n
  cleanerStopped := e.cleanerStopped

/-- A task that has not ended is on its own side. -/
theorem lives_iff_side {e : Engine α} {n : Nat} : e.Lives n ↔ (e.taskSide n).tasks ≠ [] := by
  refine ⟨fun ⟨t, ht, hnumber⟩ => ?_, fun hside => ?_⟩
  · exact List.ne_nil_of_mem (List.mem_filter.mpr ⟨ht, beq_iff_eq.mpr hnumber⟩)
  · obtain ⟨t, ht⟩ := List.exists_mem_of_ne_nil _ hside
    obtain ⟨hmem, hnumber⟩ := List.mem_filter.mp ht
    exact ⟨t, hmem, beq_iff_eq.mp hnumber⟩

theorem not_lives_iff_side {e : Engine α} {n : Nat} : ¬ e.Lives n ↔ (e.taskSide n).tasks = [] :=
  lives_iff_side.not.trans not_not

/-! ## What leaves the side of a task alone -/

section Operations

variable (e : Engine α) {n m : Nat}

theorem none_ne_some : (none : Option Nat) ≠ some n := nofun

/-- The ledger may change, if the task sees nothing of it. -/
theorem taskSide_withLedger {l : Ledger} (h : l.side n = e.ledger.side n) :
    ({ e with ledger := l } : Engine α).taskSide n = e.taskSide n :=
  congrArg (fun side => { e.taskSide n with ledger := side }) h

/-- Whatever is noted of others does not concern the task. -/
theorem taskSide_mark {task : Option Nat} (h : task ≠ some n) (what : Happening) :
    (e.mark task what).taskSide n = e.taskSide n :=
  e.taskSide_withLedger (e.ledger.side_mark h what)

/-- Whether a task is in the queue does not stand on its side. -/
@[simp] theorem taskSide_wake (task : Nat) : (e.wake task).taskSide n = e.taskSide n := by
  rw [wake]
  split <;> rfl

@[simp] theorem taskSide_wakeAll (tasks : List Nat) :
    (e.wakeAll tasks).taskSide n = e.taskSide n := by
  rw [wakeAll]
  induction tasks generalizing e with
  | nil => rfl
  | cons task rest ih => exact (ih (e.wake task)).trans (e.taskSide_wake task)

/-- Nor does what a load has come to. -/
@[simp] theorem taskSide_endLoad (load : Nat) (outcome : Outcome Response) :
    (e.endLoad load outcome).taskSide n = e.taskSide n :=
  taskSide_wakeAll _ _

/-- What follows the decision of a future does not concern the task, unless one is to be dropped. -/
theorem taskSide_follow {s : Settled} (h : s.abort = none) :
    (e.follow s).taskSide n = e.taskSide n := by
  rw [follow, h]
  cases s.wake with
  | none => rfl
  | some waker => exact e.taskSide_mark none_ne_some (.woken waker)

/-- A future gets its result, and nobody is to be dropped. -/
@[simp] theorem taskSide_complete (future : Nat) (result : Outcome α) :
    (e.complete future result).1.taskSide n = e.taskSide n := by
  rw [complete]
  split
  · rfl
  · split
    · rfl
    · rename_i c s hc
      exact taskSide_follow _ (Completion.abort_of_complete hc)

/-- A task is changed, or several are, but not this one. -/
theorem taskSide_map (change : Task α → Task α)
    (h : ∀ t ∈ e.tasks, (change t).number = t.number ∧ (t.number = n → change t = t)) :
    ({ e with tasks := e.tasks.map change } : Engine α).taskSide n = e.taskSide n := by
  have htasks : (e.tasks.map change).filter (·.number == n) = e.tasks.filter (·.number == n) := by
    generalize e.tasks = tasks at h
    induction tasks with
    | nil => rfl
    | cons t rest ih =>
        obtain ⟨⟨hnumber, hsame⟩, hrest⟩ := List.forall_mem_cons.mp h
        rw [List.map_cons, List.filter_cons, List.filter_cons, hnumber, ih hrest]
        split
        · rename_i hn
          rw [hsame (beq_iff_eq.mp hn)]
        · rfl
  exact congrArg (fun tasks => { e.taskSide n with tasks := tasks }) htasks

section Others

variable (h : m ≠ n)

include h

/-- Another task is changed. -/
theorem taskSide_adjust (change : Task α → Task α) (hc : ∀ t, (change t).number = t.number) :
    (e.adjust m change).taskSide n = e.taskSide n := by
  refine e.taskSide_map _ fun t _ => ?_
  by_cases ht : t.number = m
  · rw [if_pos ht]
    exact ⟨hc t, fun hn => absurd (ht.symm.trans hn) h⟩
  · rw [if_neg ht]
    exact ⟨rfl, fun _ => rfl⟩

/-- Another task is to be dropped. -/
theorem taskSide_abort : (e.abort m).taskSide n = e.taskSide n :=
  (taskSide_wake _ m).trans (e.taskSide_adjust h _ fun _ => rfl)

theorem taskSide_setJob (job : Job α) : (e.setJob m job).taskSide n = e.taskSide n :=
  e.taskSide_adjust h _ fun _ => rfl

/-- Another task sleeps up to some time. -/
theorem taskSide_sleep (due : Nat) : (e.sleep m due).taskSide n = e.taskSide n := by
  have halarms : (e.timers ++ [(due, m)]).filter (·.2 == n) = e.timers.filter (·.2 == n) := by
    rw [List.filter_append, List.filter_cons_of_neg (by simpa using h), List.filter_nil,
      List.append_nil]
  exact congrArg (fun alarms => { e.taskSide n with alarms := alarms }) halarms

/-- What is kept of a list without those of one task is kept of it without another's. -/
theorem filter_others {γ : Type} (key : γ → Nat) (xs : List γ) :
    (xs.filter (key · != m)).filter (key · == n) = xs.filter (key · == n) := by
  rw [List.filter_filter]
  refine List.filter_congr fun x _ => ?_
  by_cases hx : key x = n
  · simp [hx, Ne.symm h]
  · simp [hx]

/-- Another task is forgotten. -/
theorem taskSide_retire : (e.retire m).taskSide n = e.taskSide n := by
  have hm : (some m : Option Nat) ≠ some n := fun heq => h (Option.some.inj heq)
  have hledger : (e.ledger.cut m).side n = e.ledger.side n := e.ledger.side_cut hm
  rw [retire]
  refine (taskSide_wakeAll _ _).trans ?_
  show TaskSide.mk _ _ (Ledger.side { e.ledger.cut m with pool := _ } n) _ = TaskSide.mk _ _ _ _
  rw [filter_others h Task.number, filter_others h Prod.snd]
  exact congrArg (TaskSide.mk _ _ · _) hledger

/-- The guard of a future that another task drives decides it. -/
theorem taskSide_guardEnd (future : Nat) (how : TaskEnd) :
    (e.guardEnd m future how).taskSide n = e.taskSide n := by
  have hcomplete := e.taskSide_complete (n := n) future (.error (.taskFailed how))
  rw [guardEnd]
  split
  · rename_i e' heq
    rw [heq] at hcomplete
    exact (e'.taskSide_mark (fun heq => h (Option.some.inj heq)) _).trans hcomplete
  · rename_i e' heq
    rw [heq] at hcomplete
    exact hcomplete

/-- Another task is dropped. -/
theorem taskSide_drop {t : Task α} (ht : t.number = m) : (e.drop t).taskSide n = e.taskSide n := by
  subst ht
  have hdropped : ((e.mark (some t.number) .dropped).retire t.number).taskSide n = e.taskSide n :=
    (taskSide_retire _ h).trans (e.taskSide_mark (fun heq => h (Option.some.inj heq)) _)
  rw [drop]
  cases t.job with
  | drive future work => exact (taskSide_guardEnd _ h future _).trans hdropped
  | deliver future load => exact (taskSide_guardEnd _ h future _).trans hdropped
  | load ticket work => exact (taskSide_endLoad _ _ _).trans hdropped
  | clean due => exact hdropped

/-- A task runs a program, and leaves the sides of others alone when it ends. -/
theorem taskSide_resume (work : Program β) (job : Program β → Job α)
    {done : Engine α → β → Engine α} {panicked : Engine α → String → Engine α}
    (hdone : ∀ x v, (done x v).taskSide n = x.taskSide n)
    (hpanicked : ∀ x text, (panicked x text).taskSide n = x.taskSide n) :
    (e.resume m work job done panicked).taskSide n = e.taskSide n := by
  have hm : (some m : Option Nat) ≠ some n := fun heq => h (Option.some.inj heq)
  have hrun := e.taskSide_withLedger (Program.side_run hm e.parts e.ledger work)
  rw [resume]
  -- what the program did to the ledger is known from `hrun`, so only how it stopped matters
  generalize work.run e.parts m e.ledger = result at hrun ⊢
  obtain ⟨l, stopped⟩ := result
  have hended : (retire (mark { e with ledger := l } (some m) .ended) m).taskSide n
      = e.taskSide n := (taskSide_retire _ h).trans ((taskSide_mark _ hm _).trans hrun)
  have hset : ∀ next, (setJob { e with ledger := l } m (job next)).taskSide n = e.taskSide n :=
    fun next => (taskSide_setJob _ h _).trans hrun
  cases stopped with
  | done v => exact (hdone _ v).trans hended
  | panicked text => exact (hpanicked _ text).trans hended
  | stalled => exact hset _
  | asleep due next => exact (taskSide_sleep _ h due).trans (hset next)
  | queued next => exact hset next

/-- A load that another task runs gives its outcome to the cache. -/
theorem taskSide_finishLoad (ticket : Ticket) (value : Outcome Response × Duration) :
    (e.finishLoad m ticket value).taskSide n = e.taskSide n := by
  rw [finishLoad]
  dsimp only
  refine (taskSide_endLoad _ _ _).trans ?_
  exact e.taskSide_withLedger (e.ledger.side_tellAll (fun heq => h (Option.some.inj heq)) _)

/-- Another task waits for a load. -/
theorem taskSide_deliver (future load : Nat) :
    (e.deliver m future load).taskSide n = e.taskSide n := by
  rw [deliver]
  split
  · rfl
  · refine (taskSide_complete _ future _).trans ((taskSide_retire _ h).trans ?_)
    exact e.taskSide_mark (fun heq => h (Option.some.inj heq)) _
  · rfl

/-- Another task makes a pass. -/
theorem taskSide_pass : (e.pass m).taskSide n = e.taskSide n :=
  taskSide_mark { e with cache := (e.cache.purge e.ledger.elapsed).1 }
    (fun heq => h (Option.some.inj heq)) _

/-- Another task waits for its next pass. -/
theorem taskSide_await (due : Nat) : (e.await m due).taskSide n = e.taskSide n := by
  have hset : (e.setJob m (.clean (some due))).taskSide n = e.taskSide n := e.taskSide_setJob h _
  rw [await]
  split
  · exact (taskSide_wake _ m).trans hset
  · exact (taskSide_sleep _ h due).trans hset

/-- Another task cleans up. -/
theorem taskSide_clean (due : Option Nat) : (e.clean m due).taskSide n = e.taskSide n := by
  have htold : ∀ x : Engine α, (x.tell (some m) .cleanupStopped).taskSide n = x.taskSide n :=
    fun x => x.taskSide_mark (fun heq => h (Option.some.inj heq)) _
  have hretired := e.taskSide_retire h
  rw [clean.eq_def]
  dsimp only
  split
  · split
    · exact (htold _).trans hretired
    · exact e.taskSide_await h _
  · split
    · exact (taskSide_await _ h _).trans (e.taskSide_pass h)
    · split
      · refine (htold _).trans ?_
        split
        · exact (taskSide_pass _ h).trans hretired
        · exact hretired
      · rfl

/-- Whatever another task does in its turn does not concern the task. -/
theorem taskSide_poll {t : Task α} (ht : t.number = m) : (e.poll t).taskSide n = e.taskSide n := by
  subst ht
  have hbegun : (e.begin t).taskSide n = e.taskSide n := by
    rw [begin]
    split
    · rfl
    · refine (taskSide_mark _ (fun heq => h (Option.some.inj heq)) _).trans ?_
      exact e.taskSide_adjust h _ fun _ => rfl
  rw [poll]
  split
  · exact e.taskSide_drop h rfl
  · refine Eq.trans ?_ hbegun
    rw [runJob]
    cases t.job with
    | drive future work =>
        exact taskSide_resume _ h work _ (fun x v => x.taskSide_complete future v)
          fun x _ => x.taskSide_guardEnd h future _
    | deliver future load => exact taskSide_deliver _ h future load
    | load ticket work =>
        exact taskSide_resume _ h work _ (fun x v => x.taskSide_finishLoad h ticket v)
          fun x _ => x.taskSide_endLoad _ _
    | clean due => exact taskSide_clean _ h due

end Others

/-- **THE TURN OF ANOTHER TASK** leaves the side of a task alone. -/
theorem taskSide_turn (h : m ≠ n) : (e.turn m).taskSide n = e.taskSide n := by
  rw [turn]
  split
  · split
    · rfl
    · rename_i t hfind
      have hnumber : t.number = m :=
        beq_iff_eq.mp (List.find?_some (p := fun u : Task α => u.number == m) hfind)
      exact taskSide_poll (e.called m) h hnumber
  · rfl

/-- No turn moves the clocks, closes the client or stops the cleanup. -/
theorem turn_common (m : Nat) : (e.turn m).ledger.elapsed = e.ledger.elapsed ∧
    (e.turn m).ledger.tick = e.ledger.tick ∧ (e.turn m).ledger.closed = e.ledger.closed ∧
    (e.turn m).cleanerStopped = e.cleanerStopped := by
  -- it leaves the side of any other task alone
  have hside := e.taskSide_turn (Nat.succ_ne_self m).symm
  have hledger := congrArg TaskSide.ledger hside
  exact ⟨congrArg LedgerSide.elapsed hledger, congrArg LedgerSide.tick hledger,
    congrArg LedgerSide.closed hledger, congrArg TaskSide.cleanerStopped hside⟩

end Operations

/-! ## Between turns -/

/-- Tasks are numbered in the order they are spawned. -/
theorem Act.spawned_le {e e' : Engine α} {asked : Option Request} (h : Act e asked e') :
    e.spawned ≤ e'.spawned := by
  cases h with
  | rest h => exact Nat.le_of_eq h.spawned.symm
  | spawn hs h => exact Nat.le_trans (Nat.le_succ _) (Nat.le_of_eq h.spawned.symm)
  | cancel hf hc h hwoken => exact Nat.le_of_eq h.spawned.symm
  | ask hf hev h => exact Nat.le_of_eq h.spawned.symm
  | decide h => exact Nat.le_of_eq h.spawned.symm
  | close ho h hwoken => exact Nat.le_of_eq h.spawned.symm

theorem Acts.spawned_le {e e' : Engine α} {requests : List (Nat × Request)}
    (h : Acts e requests e') : e.spawned ≤ e'.spawned := by
  induction h with
  | refl e => exact Nat.le_refl _
  | step h hs ih => exact Nat.le_trans h.spawned_le ih

section Calls

variable {e : Engine α} {n : Nat} (hs : e.stopped = false) (hn : n < e.spawned)

/-- A task that is spawned is another. -/
theorem filter_spawned (hn : n < e.spawned) (job : Job α) :
    (e.tasks ++ [(⟨e.spawned, job, false, false⟩ : Task α)]).filter (·.number == n)
      = e.tasks.filter (·.number == n) := by
  rw [List.filter_append, List.filter_cons_of_neg (by simpa using Nat.ne_of_gt hn), List.filter_nil,
    List.append_nil]

include hs hn

/-- A task that is spawned has a number of its own. -/
theorem taskSide_spawn (job : Job α) : (e.spawn job).taskSide n = e.taskSide n := by
  rw [e.spawn_eq hs]
  exact congrArg (fun tasks => { e.taskSide n with tasks := tasks }) (filter_spawned hn job)

theorem taskSide_spawnFuture (job : Nat → Job α) :
    (e.spawnFuture job).1.taskSide n = e.taskSide n := by
  rw [e.spawnFuture_eq hs]
  exact congrArg (fun tasks => { e.taskSide n with tasks := tasks }) (filter_spawned hn _)

/-- The cache is asked for a request, and may start a load. -/
theorem taskSide_lookup (request : Request) :
    (e.lookup request).1.taskSide n = e.taskSide n := by
  have htold := e.taskSide_withLedger (e.ledger.side_tellAll none_ne_some
    (e.cache.get e.ledger.elapsed request).2.told) (n := n)
  rw [lookup]
  dsimp only
  split
  · exact htold
  · rename_i ticket _
    have hspawn := taskSide_spawn (e := { e with
      cache := (e.cache.get e.ledger.elapsed request).1
      ledger := e.ledger.tellAll none (e.cache.get e.ledger.elapsed request).2.told
      loads := e.loads ++ [LoadState.running []] }) hs hn (.load ticket (e.loader request).timed)
    exact hspawn.trans htold

theorem taskSide_criticalExecuteWith (request : Request) (handler : Handler α) :
    (e.criticalExecuteWith request handler).1.taskSide n = e.taskSide n := by
  rw [criticalExecuteWith]
  split
  · rfl
  · exact taskSide_spawnFuture hs hn _

/-- A call, through the cache or around it. -/
theorem taskSide_execute (request : Request) :
    (e.execute request).1.taskSide n = e.taskSide n := by
  rw [execute]
  split
  · rfl
  · split
    · exact taskSide_criticalExecuteWith hs hn request _
    · dsimp only
      have htold := e.taskSide_mark (n := n) none_ne_some (.told (.throughCache request.urlText))
      have hacts := acts_lookup (e.tell none (.throughCache request.urlText)) hs request
      have hlookup := taskSide_lookup (e := e.tell none (.throughCache request.urlText)) hs hn
        request
      have hspawn := taskSide_spawnFuture (hacts.stopped.trans hs)
        (Nat.lt_of_lt_of_le hn hacts.spawned_le)
        fun future => .deliver future
          ((e.tell none (.throughCache request.urlText)).lookup request).2
      exact hspawn.trans (hlookup.trans htold)

omit hs hn in
/-- The task is left alone if no future of it is cancelled. -/
theorem taskSide_cancel (h : ∀ c ∈ e.futures, c.task ≠ some n) (future : Nat) :
    (e.cancel future).1.taskSide n = e.taskSide n := by
  rw [cancel]
  split
  · rfl
  · rename_i c hc
    have hne := h c (List.mem_of_getElem? hc)
    split
    · rfl
    · rename_i c' s heq
      -- who is to be dropped is the task that the future remembers
      have habort : s.abort ≠ some n := by
        obtain ⟨state, waker, task⟩ := c
        cases state with
        | pending =>
            cases heq
            exact hne
        | ready _ | cancelled | taken => cases heq
      rw [follow]
      cases ha : s.abort with
      | none =>
          cases s.wake with
          | none => rfl
          | some waker => exact taskSide_mark _ none_ne_some (.woken waker)
      | some task =>
          have htask : task ≠ n := fun heq => habort (ha.trans (congrArg some heq))
          have haborted := taskSide_abort (e.setFuture future c') htask
          cases s.wake with
          | none => exact haborted
          | some waker => exact (taskSide_mark _ none_ne_some (.woken waker)).trans haborted

end Calls

end Engine

/-- Whether the clocks move. -/
def EngineEvent.isTick : EngineEvent α → Bool
  | .tick => true
  | _ => false

/-- Whether an event concerns every task: the clocks move, or the cleanup is told to stop. -/
def EngineEvent.concernsAll : EngineEvent α → Bool
  | .tick | .stopCleaner | .close => true
  | _ => false

namespace Engine

variable {e : Engine α} {n : Nat} {ev : EngineEvent α}

/-- **WHAT OTHERS DO** leaves the side of a task alone. -/
theorem taskSide_step (hs : e.stopped = false) (hn : n < e.spawned)
    (hfree : ∀ c ∈ e.futures, c.task ≠ some n) (hc : ev.isClient = true)
    (hall : ev.concernsAll = false) (hturn : ∀ m, ev = .turn m → m ≠ n) :
    (e.step ev).taskSide n = e.taskSide n := by
  cases ev with
  | turn m => exact e.taskSide_turn (hturn m rfl)
  | tick => cases hall
  | startCleaner => exact taskSide_spawn hs hn _
  | stopCleaner => cases hall
  | execute request => exact taskSide_execute hs hn request
  | criticalExecuteWith request handler => exact taskSide_criticalExecuteWith hs hn request handler
  | drive work => cases hc
  | decide result => rfl
  | lookup request => exact taskSide_lookup hs hn request
  | cancel future => exact taskSide_cancel hfree future
  | pollFuture future waker =>
      rw [step, pollFuture]
      split <;> rfl
  | waitFuture future =>
      rw [step, waitFuture]
      split <;> rfl
  | invalidate request => rfl
  | invalidateAll => rfl
  | cleanup => rfl
  | close => cases hall
  | shutdown => cases hc

/-! ## What concerns every task -/

/-- The clocks move, and who was to be woken by then is not to be woken any more. -/
theorem taskSide_tick (e : Engine α) (n : Nat) : e.tick.taskSide n = { e.taskSide n with
    alarms := (e.taskSide n).alarms.filter fun t => e.ledger.elapsed + e.ledger.tick < t.1
    ledger := { e.ledger.side n with elapsed := e.ledger.elapsed + e.ledger.tick } } := by
  rw [tick]
  refine (taskSide_wakeAll _ _).trans ?_
  exact congrArg (fun alarms => { e.taskSide n with
    alarms := alarms
    ledger := { e.ledger.side n with elapsed := e.ledger.elapsed + e.ledger.tick } })
    (List.filter_comm _ _ _)

/-- Who was to be woken by then can run. -/
theorem mem_ready_tick {due : Nat} (ht : (due, n) ∈ e.timers)
    (hdue : due ≤ e.ledger.elapsed + e.ledger.tick) (hl : e.Lives n) : n ∈ e.tick.ready := by
  rw [tick]
  have hmem : (due, n) ∈ e.timers.filter fun t => t.1 ≤ e.ledger.elapsed + e.ledger.tick :=
    List.mem_filter.mpr ⟨ht, decide_eq_true hdue⟩
  exact mem_ready_wakeAll _ (List.mem_map_of_mem (f := Prod.snd) hmem) hl

/-- The cleanup is told to stop. -/
theorem taskSide_stopCleaner (e : Engine α) (n : Nat) :
    e.stopCleaner.taskSide n = { e.taskSide n with cleanerStopped := true } := by
  rw [stopCleaner]
  split
  · rename_i hstopped
    rw [← hstopped]
    rfl
  · exact taskSide_wakeAll _ _

/-- The client is closed, and the cleanup told to stop. -/
theorem taskSide_close (hopen : e.ledger.closed = false) (n : Nat) :
    e.close.taskSide n = { e.taskSide n with
      ledger := { e.ledger.side n with closed := true }, cleanerStopped := true } := by
  rw [close, if_neg (by simpa [isClosed] using hopen)]
  dsimp only
  have hshut : ∀ x : Engine α,
      ({ x with ledger := { x.ledger with shut := true } } : Engine α).taskSide n = x.taskSide n :=
    fun _ => rfl
  refine (taskSide_mark _ none_ne_some _).trans ((taskSide_stopCleaner _ n).trans ?_)
  exact congrArg (fun side => { side with cleanerStopped := true })
    ((taskSide_mark _ none_ne_some _).trans ((hshut _).trans (taskSide_wakeAll _ _)))

/-- **BETWEEN TURNS A TASK IS LEFT ALONE** while the clocks stand still. -/
theorem keeps_step (hs : e.stopped = false) (hn : n < e.spawned)
    (hfree : ∀ c ∈ e.futures, c.task ≠ some n) (hc : ev.isClient = true)
    (hturn : ev.isTurn = false) (htick : ev.isTick = false) :
    (e.taskSide n).Keeps ((e.step ev).taskSide n) := by
  cases hall : ev.concernsAll with
  | false =>
      rw [taskSide_step hs hn hfree hc hall fun m heq => by rw [heq] at hturn; cases hturn]
      exact .refl _
  | true =>
      cases ev with
      | tick => cases htick
      | stopCleaner =>
          rw [step, taskSide_stopCleaner]
          exact ⟨rfl, rfl, rfl, fun _ => rfl, fun _ => Or.inr rfl⟩
      | close =>
          rw [step]
          cases ho : e.ledger.closed with
          | true =>
              rw [e.close_of_closed ho]
              exact .refl _
          | false =>
              rw [taskSide_close ho]
              exact ⟨rfl, rfl, rfl, fun _ => rfl, fun _ => Or.inr rfl⟩
      | _ => cases hall

/-! ## What a task does itself -/

section Own

variable (e) (n)

theorem side_mark_self (l : Ledger) (what : Happening) :
    (l.mark (some n) what).side n = (l.side n).note n what := by
  have hnotes : (l.mark (some n) what).notesOf n = ⟨l.elapsed, some n, what⟩ :: l.notesOf n :=
    List.filter_cons_of_pos (beq_self_eq_true _)
  exact congrArg (LedgerSide.mk l.elapsed l.tick l.closed) hnotes

/-- The task notes something. -/
theorem taskSide_mark_self (what : Happening) :
    (e.mark (some n) what).taskSide n = (e.taskSide n).note n what :=
  congrArg (fun l => { e.taskSide n with ledger := l }) (side_mark_self n e.ledger what)

/-- The task is changed. -/
theorem taskSide_adjust_self {change : Task α → Task α}
    (hc : ∀ t, (change t).number = t.number) :
    (e.adjust n change).taskSide n = (e.taskSide n).adjust change := by
  have htasks : (e.adjust n change).tasks.filter (·.number == n)
      = (e.tasks.filter (·.number == n)).map change := by
    rw [adjust]
    dsimp only
    rw [List.filter_map]
    have hsame : ((fun t : Task α => t.number == n) ∘
        fun t => if t.number = n then change t else t) = fun t => t.number == n := by
      funext t
      by_cases ht : t.number = n <;> simp [ht, hc]
    rw [hsame]
    refine List.map_congr_left fun t ht => ?_
    exact if_pos (beq_iff_eq.mp (List.mem_filter.mp ht).2)
  exact congrArg (fun tasks => { e.taskSide n with tasks := tasks }) htasks

theorem taskSide_setJob_self (job : Job α) :
    (e.setJob n job).taskSide n = (e.taskSide n).adjust fun t => { t with job := job } :=
  e.taskSide_adjust_self n fun _ => rfl

/-- The task sleeps up to some time. -/
theorem taskSide_sleep_self (due : Nat) :
    (e.sleep n due).taskSide n = (e.taskSide n).sleep n due := by
  have halarms : (e.timers ++ [(due, n)]).filter (·.2 == n)
      = e.timers.filter (·.2 == n) ++ [(due, n)] := by
    simp
  exact congrArg (fun alarms => { e.taskSide n with alarms := alarms }) halarms

/-- The task waits for its next pass. -/
theorem taskSide_await_self (due : Nat) :
    (e.await n due).taskSide n = (e.taskSide n).await n due := by
  have hset := e.taskSide_setJob_self n (.clean (some due))
  have helapsed : ((e.taskSide n).adjust fun t => { t with job := .clean (some due) }).ledger.elapsed
      = e.ledger.elapsed := rfl
  rw [await, TaskSide.await, helapsed]
  by_cases hdue : due ≤ e.ledger.elapsed
  · rw [if_pos hdue, if_pos (by exact hdue)]
    exact (taskSide_wake _ n).trans hset
  · rw [if_neg hdue, if_neg (by exact hdue)]
    exact (taskSide_sleep_self _ n due).trans (congrArg (fun s => TaskSide.sleep s n due) hset)

/-- The task makes a pass, and notes what it removed. -/
theorem taskSide_pass_self : (e.pass n).taskSide n
    = (e.taskSide n).note n (.told (.cleanupPass (e.cache.purge e.ledger.elapsed).2
        (e.cache.purge e.ledger.elapsed).1.size)) :=
  taskSide_mark_self { e with cache := (e.cache.purge e.ledger.elapsed).1 } n _

/-- Nothing of a task is left when it is forgotten. -/
theorem taskSide_retire_self : (e.retire n).taskSide n
    = ⟨[], [], (e.ledger.cut n).side n, e.cleanerStopped⟩ := by
  have hnone : ∀ {γ : Type} (key : γ → Nat) (xs : List γ),
      (xs.filter (key · != n)).filter (key · == n) = [] := by
    intro γ key xs
    rw [List.filter_filter, List.filter_eq_nil_iff]
    intro x _
    simp
  rw [retire]
  refine (taskSide_wakeAll _ _).trans ?_
  show TaskSide.mk _ _ _ _ = TaskSide.mk _ _ _ _
  rw [hnone Task.number, hnone Prod.snd]
  rfl

end Own

end Engine

end Courier
