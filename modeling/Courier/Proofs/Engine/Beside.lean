import Courier.Proofs.Engine.Attribution
import Courier.Proofs.Program.Beside

/-!
# Beside — the engine as it is for everyone else

Some futures, and the tasks that are to decide them, are left out of account.  Two engines are the
same beside these if everything else in them is the same: the other tasks in the same order, in the
queue and asleep, the other futures, the cache, and the loads with the others who wait for them
(`Engine.Beside`).  Whatever happens to the others happens in both (`Beside.step`), and what happens
to those left out in one makes no difference (`Beside.turn_of_mem`, `Beside.cancel_of_mem`).
-/

namespace Courier

variable {α β : Type}

/-- Nobody is aborted when a future gets its result. -/
theorem Completion.abort_of_complete {c c' : Completion α} {result : Outcome α} {s : Settled}
    (h : c.complete result = (c', some s)) : s.abort = none := by
  obtain ⟨state, waker, task⟩ := c
  cases state with
  | pending =>
      cases h
      rfl
  | ready _ | cancelled | taken => cases h

/-- Whether an event cancels one of these futures, or asks for its result. -/
def EngineEvent.handles (F : List Nat) : EngineEvent α → Bool
  | .cancel f | .pollFuture f _ | .waitFuture f => F.contains f
  | _ => false

/-- How far a load is for everyone else. -/
def LoadState.besides (N : List Nat) : LoadState → LoadState
  | .running waiting => .running (waiting.filter (· ∉ N))
  | .ended outcome => .ended outcome

namespace Engine

/-- **THE SAME BESIDE SOME FUTURES AND THEIR TASKS**, where whoever is in the queue has not
    ended. -/
structure Beside (F N : List Nat) (e e' : Engine α) : Prop where
  parts : e'.parts = e.parts
  loader : e'.loader = e.loader
  present : e'.present = e.present
  ledger : e.ledger.Beside N e'.ledger
  tasks : e'.tasks.filter (fun t => t.number ∉ N) = e.tasks.filter fun t => t.number ∉ N
  spawned : e'.spawned = e.spawned
  ready : e'.ready.filter (· ∉ N) = e.ready.filter (· ∉ N)
  timers : e'.timers.filter (fun x => x.2 ∉ N) = e.timers.filter fun x => x.2 ∉ N
  length : e'.futures.length = e.futures.length
  futures : ∀ f ∉ F, e'.futures[f]? = e.futures[f]?
  cache : e'.cache = e.cache
  loads : e'.loads.map (LoadState.besides N) = e.loads.map (LoadState.besides N)
  cleanerStopped : e'.cleanerStopped = e.cleanerStopped
  stopped : e'.stopped = e.stopped
  queued : ∀ n ∈ e.ready, e.Lives n
  queued' : ∀ n ∈ e'.ready, e'.Lives n

variable {F N N' : List Nat} {e e' e'' : Engine α} {t : Task α} {n f : Nat} {l l' : Ledger}

/-! ## Whoever is in the queue -/

/-- Nobody is put into the queue who has ended. -/
theorem queued_wake (h : ∀ n ∈ e.ready, e.Lives n) (task : Nat) :
    ∀ n ∈ (e.wake task).ready, (e.wake task).Lives n := by
  rw [wake]
  split
  · rename_i hwoken
    intro n hn
    rcases List.mem_append.mp hn with hn | hn
    · exact h n hn
    · obtain ⟨hsome, -⟩ := Bool.and_eq_true_iff.mp hwoken
      obtain ⟨t, ht, hnumber⟩ := List.find?_isSome.mp hsome
      exact ⟨t, ht, (beq_iff_eq.mp hnumber).trans (List.mem_singleton.mp hn).symm⟩
  · exact h

/-- A task that is changed has not ended by that. -/
theorem lives_adjust {change : Task α → Task α} (hchange : ∀ t, (change t).number = t.number)
    (hl : e.Lives n) (m : Nat) : (e.adjust m change).Lives n := by
  obtain ⟨t, ht, rfl⟩ := hl
  refine ⟨_, List.mem_map_of_mem ht, ?_⟩
  split
  · exact hchange t
  · rfl

/-- A task that has ended is not there to be changed. -/
theorem adjust_of_ended (hl : ¬ e.Lives n) (change : Task α → Task α) : e.adjust n change = e := by
  have htasks : (e.tasks.map fun t => if t.number = n then change t else t) = e.tasks := by
    conv_rhs => rw [← List.map_id e.tasks]
    exact List.map_congr_left fun t ht => if_neg fun hn => hl ⟨t, ht, hn⟩
  rw [adjust, htasks]

theorem task?_of_ended (hl : ¬ e.Lives n) : e.task? n = none :=
  List.find?_eq_none.mpr fun t ht hn => hl ⟨t, ht, beq_iff_eq.mp hn⟩

/-- A task that has ended is not aborted. -/
theorem abort_of_ended (hl : ¬ e.Lives n) : e.abort n = e := by
  rw [abort, adjust_of_ended hl, wake, task?_of_ended hl]
  rfl

/-- A task that keeps away from the pool leaves it as it is. -/
theorem leave_of_away {p : SlotPool} (hn : p.place n = .away) : p.leave n = (p, none) := by
  obtain ⟨hheld, hgiven, hwaits⟩ := SlotPool.place_eq_away.mp hn
  rw [SlotPool.leave, if_neg (by simpa using hheld), if_neg (by simpa using hgiven),
    List.erase_of_not_mem hwaits]

namespace Beside

/-- It does not matter which of the two comes first. -/
theorem symm (h : Beside F N e e') : Beside F N e' e where
  parts := h.parts.symm
  loader := h.loader.symm
  present := h.present.symm
  ledger := h.ledger.symm
  tasks := h.tasks.symm
  spawned := h.spawned.symm
  ready := h.ready.symm
  timers := h.timers.symm
  length := h.length.symm
  futures f hf := (h.futures f hf).symm
  cache := h.cache.symm
  loads := h.loads.symm
  cleanerStopped := h.cleanerStopped.symm
  stopped := h.stopped.symm
  queued := h.queued'
  queued' := h.queued

/-- What is the same beside some futures and tasks twice over is the same beside them. -/
theorem trans (h : Beside F N e e') (h' : Beside F N e' e'') : Beside F N e e'' where
  parts := h'.parts.trans h.parts
  loader := h'.loader.trans h.loader
  present := h'.present.trans h.present
  ledger := h.ledger.trans h'.ledger
  tasks := h'.tasks.trans h.tasks
  spawned := h'.spawned.trans h.spawned
  ready := h'.ready.trans h.ready
  timers := h'.timers.trans h.timers
  length := h'.length.trans h.length
  futures f hf := (h'.futures f hf).trans (h.futures f hf)
  cache := h'.cache.trans h.cache
  loads := h'.loads.trans h.loads
  cleanerStopped := h'.cleanerStopped.trans h.cleanerStopped
  stopped := h'.stopped.trans h.stopped
  queued := h.queued
  queued' := h'.queued'

/-- An engine is the same as itself beside any futures and tasks. -/
theorem refl (h : ∀ n ∈ e.ready, e.Lives n) : Beside F N e e where
  parts := rfl
  loader := rfl
  present := rfl
  ledger := .refl N e.ledger
  tasks := rfl
  spawned := rfl
  ready := rfl
  timers := rfl
  length := rfl
  futures _ _ := rfl
  cache := rfl
  loads := rfl
  cleanerStopped := rfl
  stopped := rfl
  queued := h
  queued' := h

/-- What is the same beside some is the same beside more. -/
theorem mono (hN : ∀ n ∈ N, n ∈ N') (h : Beside F N e e') : Beside F N' e e' := by
  have hwaits : ∀ load : LoadState, (load.besides N).besides N' = load.besides N' := by
    intro load
    cases load with
    | running waiting =>
        refine congrArg LoadState.running ?_
        rw [List.filter_filter]
        refine List.filter_congr fun n _ => ?_
        by_cases hn : n ∈ N
        · simp [hN n hn]
        · simp [hn]
    | ended outcome => rfl
  have hloads : e'.loads.map (LoadState.besides N') = e.loads.map (LoadState.besides N') := by
    have hmap := congrArg (List.map (LoadState.besides N')) h.loads
    rw [List.map_map, List.map_map] at hmap
    simpa [Function.comp_def, hwaits] using hmap
  exact { h with
    ledger := h.ledger.mono hN
    tasks := filter_without_mono hN h.tasks
    ready := filter_without_mono (f := id) hN h.ready
    timers := filter_without_mono hN h.timers
    loads := hloads }

/-! ## Tasks and the queue -/

/-- The other tasks are found where they were. -/
theorem task? (h : Beside F N e e') (hn : n ∉ N) : e'.task? n = e.task? n := by
  have hfind : ∀ tasks : List (Task α), (tasks.filter fun t => t.number ∉ N).find? (·.number == n)
      = tasks.find? (·.number == n) := by
    intro tasks
    rw [List.find?_filter]
    congr 1
    funext t
    by_cases ht : t.number = n
    · simp [ht, hn]
    · simp [ht]
  rw [Engine.task?, Engine.task?, ← hfind, h.tasks, hfind]

theorem contains (h : Beside F N e e') (hn : n ∉ N) :
    e'.ready.contains n = e.ready.contains n := by
  have hmem : ∀ ready : List Nat, n ∈ ready.filter (· ∉ N) ↔ n ∈ ready := by
    intro ready
    simp [List.mem_filter, hn]
  rw [Bool.eq_iff_iff, List.contains_iff_mem, List.contains_iff_mem, ← hmem, h.ready, hmem]

/-- A task that is not left out is woken in both. -/
theorem wake (h : Beside F N e e') (hn : n ∉ N) : Beside F N (e.wake n) (e'.wake n) := by
  have hqueued := queued_wake h.queued n
  have hqueued' := queued_wake h.queued' n
  rw [Engine.wake] at hqueued hqueued' ⊢
  rw [Engine.wake, h.task? hn, h.contains hn]
  rw [h.task? hn, h.contains hn] at hqueued'
  split
  · rename_i hwoken
    rw [if_pos hwoken] at hqueued hqueued'
    refine { h with ready := ?_, queued := hqueued, queued' := hqueued' }
    rw [List.filter_append, List.filter_append, h.ready]
  · exact h

/-- It makes no difference that a task is woken that is left out. -/
theorem wake_of_mem (h : Beside F N e e') (hn : n ∈ N) : Beside F N e (e'.wake n) := by
  have hqueued' := queued_wake h.queued' n
  rw [Engine.wake] at hqueued' ⊢
  split
  · rename_i hwoken
    rw [if_pos hwoken] at hqueued'
    refine { h with ready := ?_, queued' := hqueued' }
    rw [List.filter_append, List.filter_cons_of_neg (by simpa using hn), List.filter_nil,
      List.append_nil, h.ready]
  · exact h

/-- The others are woken in the same order. -/
theorem wakeAll (h : Beside F N e e') {ns ns' : List Nat}
    (hns : ns'.filter (· ∉ N) = ns.filter (· ∉ N)) :
    Beside F N (e.wakeAll ns) (e'.wakeAll ns') := by
  -- to wake those left out makes no difference, so either list may be replaced by the others in it
  have hothers : ∀ (ns : List Nat) {e e' : Engine α}, Beside F N e e' →
      Beside F N (e.wakeAll (ns.filter (· ∉ N))) (e'.wakeAll ns) := by
    intro ns
    induction ns with
    | nil => exact id
    | cons n rest ih =>
        intro e e' h
        by_cases hn : n ∈ N
        · rw [List.filter_cons_of_neg (by simpa using hn)]
          exact ih (h.wake_of_mem hn)
        · rw [List.filter_cons_of_pos (by simpa using hn)]
          exact ih (h.wake hn)
  refine (hothers ns (h.trans h.symm)).symm.trans ?_
  rw [← hns]
  exact hothers ns' h

/-- A task is changed in both, if it is there. -/
theorem adjust (h : Beside F N e e') (n : Nat) (change : Task α → Task α)
    (hchange : ∀ t, (change t).number = t.number) :
    Beside F N (e.adjust n change) (e'.adjust n change) := by
  have hmap : ∀ tasks : List (Task α),
      (tasks.map fun t => if t.number = n then change t else t).filter (fun t => t.number ∉ N)
        = (tasks.filter fun t => t.number ∉ N).map
          fun t => if t.number = n then change t else t := by
    intro tasks
    rw [List.filter_map]
    refine congrArg (List.map _) (List.filter_congr fun t _ => ?_)
    by_cases ht : t.number = n
    · simp [ht, hchange]
    · simp [ht]
  refine { h with
    tasks := (hmap e'.tasks).trans ((congrArg (List.map _) h.tasks).trans (hmap e.tasks).symm)
    queued := fun m hm => lives_adjust hchange (h.queued m hm) n
    queued' := fun m hm => lives_adjust hchange (h.queued' m hm) n }

/-- It makes no difference that a task is changed that is left out. -/
theorem adjust_of_mem (h : Beside F N e e') (hn : n ∈ N) (change : Task α → Task α)
    (hchange : ∀ t, (change t).number = t.number) : Beside F N e (e'.adjust n change) := by
  refine { h with tasks := ?_, queued' := fun m hm => lives_adjust hchange (h.queued' m hm) n }
  rw [← h.tasks]
  show (e'.tasks.map _).filter _ = _
  induction e'.tasks with
  | nil => rfl
  | cons t rest ih =>
      rw [List.map_cons]
      by_cases ht : t.number = n
      · rw [if_pos ht, List.filter_cons_of_neg (by simpa [hchange, ht] using hn),
          List.filter_cons_of_neg (by simpa [ht] using hn), ih]
      · rw [if_neg ht, List.filter_cons, List.filter_cons, ih]

/-- Nor that it is to be dropped. -/
theorem abort_of_mem (h : Beside F N e e') (hn : n ∈ N) : Beside F N e (e'.abort n) :=
  (h.adjust_of_mem hn (fun t => { t with aborted := true }) fun _ => rfl).wake_of_mem hn

theorem abort (h : Beside F N e e') (n : Nat) : Beside F N (e.abort n) (e'.abort n) := by
  -- whoever is left out is aborted in one after the other
  by_cases hn : n ∈ N
  · exact (h.symm.abort_of_mem hn).symm.abort_of_mem hn
  · exact (h.adjust n (fun t => { t with aborted := true }) fun _ => rfl).wake hn

/-- A task is given another job in both. -/
theorem setJob (h : Beside F N e e') (n : Nat) (job : Job α) :
    Beside F N (e.setJob n job) (e'.setJob n job) :=
  h.adjust n (fun t => { t with job := job }) fun _ => rfl

/-- A task sleeps in both, up to the same time. -/
theorem sleep (h : Beside F N e e') (n due : Nat) :
    Beside F N (e.sleep n due) (e'.sleep n due) := by
  refine { h with timers := ?_ }
  show (e'.timers ++ _).filter _ = (e.timers ++ _).filter _
  rw [List.filter_append, List.filter_append, h.timers]

/-! ## The ledger -/

/-- The ledgers may change, if they stay the same beside the tasks. -/
theorem withLedger (h : Beside F N e e') (hl : l.Beside N l') :
    Beside F N { e with ledger := l } { e' with ledger := l' } :=
  { h with ledger := hl }

/-- The same is noted in both. -/
theorem mark (h : Beside F N e e') (task : Option Nat) (what : Happening) :
    Beside F N (e.mark task what) (e'.mark task what) :=
  h.withLedger (h.ledger.mark task task what what)

/-- What is noted makes no difference. -/
theorem mark_right (h : Beside F N e e') (task : Option Nat) (what : Happening) :
    Beside F N e (e'.mark task what) :=
  h.withLedger (h.ledger.trans (Ledger.beside_mark N e'.ledger task what))

/-! ## Futures -/

/-- A future is changed in both. -/
theorem setFuture (h : Beside F N e e') (f : Nat) (c : Completion α) :
    Beside F N (e.setFuture f c) (e'.setFuture f c) := by
  refine { h with length := ?_, futures := fun g hg => ?_ }
  · show (e'.futures.set f c).length = (e.futures.set f c).length
    rw [List.length_set, List.length_set, h.length]
  · show (e'.futures.set f c)[g]? = (e.futures.set f c)[g]?
    rw [List.getElem?_set, List.getElem?_set, h.length, h.futures g hg]

/-- It makes no difference what becomes of a future that is left out. -/
theorem setFuture_of_mem (h : Beside F N e e') (hf : f ∈ F) (c : Completion α) :
    Beside F N e (e'.setFuture f c) := by
  refine { h with length := ?_, futures := fun g hg => ?_ }
  · show (e'.futures.set f c).length = e.futures.length
    rw [List.length_set, h.length]
  · have hne : f ≠ g := by
      rintro rfl
      exact hg hf
    exact (List.getElem?_set_ne hne).trans (h.futures g hg)

theorem follow (h : Beside F N e e') (s : Settled) : Beside F N (e.follow s) (e'.follow s) := by
  rw [Engine.follow, Engine.follow]
  cases s.abort with
  | none =>
      cases s.wake with
      | none => exact h
      | some waker => exact h.mark _ _
  | some task =>
      cases s.wake with
      | none => exact h.abort task
      | some waker => exact (h.abort task).mark _ _

/-- Whoever is aborted is left out, or has ended. -/
theorem follow_of_mem (h : Beside F N e e') (s : Settled)
    (hs : ∀ n, s.abort = some n → e'.Lives n → n ∈ N) : Beside F N e (e'.follow s) := by
  rw [Engine.follow]
  cases ha : s.abort with
  | none =>
      cases s.wake with
      | none => exact h
      | some waker => exact h.mark_right _ _
  | some task =>
      have habort : Beside F N e (e'.abort task) := by
        by_cases hl : e'.Lives task
        · exact h.abort_of_mem (hs task ha hl)
        · rwa [abort_of_ended hl]
      cases s.wake with
      | none => exact habort
      | some waker => exact habort.mark_right _ _

/-- A future is decided in both, or in neither. -/
theorem complete (h : Beside F N e e') (hf : f ∉ F) (result : Outcome α) :
    Beside F N (e.complete f result).1 (e'.complete f result).1 ∧
      (e'.complete f result).2 = (e.complete f result).2 := by
  rw [Engine.complete, Engine.complete, h.futures f hf]
  split
  · exact ⟨h, rfl⟩
  · split
    · exact ⟨h, rfl⟩
    · exact ⟨(h.setFuture f _).follow _, rfl⟩

/-- It makes no difference that a future is decided that is left out. -/
theorem complete_of_mem (h : Beside F N e e') (hf : f ∈ F) (result : Outcome α) :
    Beside F N e (e'.complete f result).1 := by
  rw [Engine.complete]
  split
  · exact h
  · split
    · exact h
    · rename_i hc
      refine (h.setFuture_of_mem hf _).follow_of_mem _ fun n hs => ?_
      rw [Completion.abort_of_complete hc] at hs
      cases hs

/-- The guard of a future decides it in both. -/
theorem guardEnd (h : Beside F N e e') (hf : f ∉ F) (n : Nat) (how : TaskEnd) :
    Beside F N (e.guardEnd n f how) (e'.guardEnd n f how) := by
  obtain ⟨hcomplete, hsame⟩ := h.complete hf (.error (.taskFailed how))
  rw [Engine.guardEnd, Engine.guardEnd]
  generalize e.complete f (.error (.taskFailed how)) = x at hcomplete hsame
  generalize e'.complete f (.error (.taskFailed how)) = x' at hcomplete hsame
  obtain ⟨x, settled⟩ := x
  obtain ⟨x', settled'⟩ := x'
  cases hsame
  cases settled with
  | true => exact hcomplete.mark _ _
  | false => exact hcomplete

/-- It makes no difference what the guard does of a future that is left out. -/
theorem guardEnd_of_mem (h : Beside F N e e') (hf : f ∈ F) (n : Nat) (how : TaskEnd) :
    Beside F N e (e'.guardEnd n f how) := by
  have hcomplete := h.complete_of_mem hf (.error (.taskFailed how))
  rw [Engine.guardEnd]
  generalize e'.complete f (.error (.taskFailed how)) = x' at hcomplete
  obtain ⟨x', settled⟩ := x'
  cases settled with
  | true => exact hcomplete.mark_right _ _
  | false => exact hcomplete

/-! ## Ends of tasks and of loads -/

/-- Whoever is in the queue after a task was forgotten is another, and is there. -/
theorem queued_left (h : ∀ m ∈ e.ready, e.Lives m) (n : Nat) :
    ∀ m ∈ e.ready.filter (· != n), ∃ t ∈ e.tasks.filter (·.number != n), t.number = m := by
  intro m hm
  obtain ⟨hm, hne⟩ := List.mem_filter.mp hm
  obtain ⟨t, ht, rfl⟩ := h m hm
  exact ⟨t, List.mem_filter.mpr ⟨ht, hne⟩, rfl⟩

/-- A task is forgotten. -/
theorem forget (h : Beside F N e e') (n : Nat) (hl : l.Beside N l') :
    Beside F N
      { e with
        ledger := l
        tasks := e.tasks.filter (·.number != n)
        ready := e.ready.filter (· != n)
        timers := e.timers.filter (·.2 != n) }
      { e' with
        ledger := l'
        tasks := e'.tasks.filter (·.number != n)
        ready := e'.ready.filter (· != n)
        timers := e'.timers.filter (·.2 != n) } :=
  { h with
    ledger := hl
    tasks := filter_without_comm n Task.number h.tasks
    ready := filter_without_comm n id h.ready
    timers := filter_without_comm n Prod.snd h.timers
    queued := queued_left h.queued n
    queued' := queued_left h.queued' n }

/-- A task that is left out is forgotten. -/
theorem forget_of_mem (h : Beside F N e e') (hn : n ∈ N) (hl : e.ledger.Beside N l') :
    Beside F N e
      { e' with
        ledger := l'
        tasks := e'.tasks.filter (·.number != n)
        ready := e'.ready.filter (· != n)
        timers := e'.timers.filter (·.2 != n) } :=
  { h with
    ledger := hl
    tasks := (filter_without_ne hn Task.number e'.tasks).trans h.tasks
    ready := (filter_without_ne hn id e'.ready).trans h.ready
    timers := (filter_without_ne hn Prod.snd e'.timers).trans h.timers
    queued' := queued_left h.queued' n }

/-- A task is forgotten in both, and the same task gets its slot. -/
theorem retire (h : Beside F N e e') (hn : n ∉ N) : Beside F N (e.retire n) (e'.retire n) := by
  have hcut := h.ledger.cut hn
  rw [Engine.retire, Engine.retire]
  dsimp only
  rw [hcut.pool]
  exact (h.forget n (hcut.withPool _)).wakeAll rfl

/-- The end of a task that keeps away from the pool wakes nobody. -/
theorem retire_of_mem (h : Beside F N e e') (hn : n ∈ N) (haway : e'.ledger.pool.place n = .away) :
    Beside F N e (e'.retire n) := by
  -- it has no slot that could go to somebody
  have hcut := h.ledger.trans (Ledger.Beside.cut_of_mem e'.ledger hn)
  have hpool : (e'.ledger.cut n).pool.leave n = ((e'.ledger.cut n).pool, none) := by
    refine leave_of_away ?_
    rw [(Ledger.Beside.cut_of_mem e'.ledger hn).pool]
    exact haway
  rw [Engine.retire]
  dsimp only
  rw [hpool]
  exact h.forget_of_mem hn hcut

/-- The others who wait for a load are the same. -/
theorem waiters (h : Beside F N e e') (load : Nat) :
    (waiters e'.loads load).filter (· ∉ N) = (waiters e.loads load).filter (· ∉ N) := by
  have hwaiters : ∀ loads : List LoadState, (Engine.waiters loads load).filter (· ∉ N)
      = Engine.waiters (loads.map (LoadState.besides N)) load := by
    intro loads
    rw [Engine.waiters, Engine.waiters, List.getElem?_map]
    cases loads[load]? with
    | none => rfl
    | some state => cases state <;> rfl
  rw [hwaiters, hwaiters, h.loads]

/-- A load ends in both, and whoever waits for it and is not left out is woken in the same order. -/
theorem endLoad (h : Beside F N e e') (load : Nat) (outcome : Outcome Response) :
    Beside F N (e.endLoad load outcome) (e'.endLoad load outcome) := by
  have hset : Beside F N { e with loads := e.loads.set load (.ended outcome) }
      { e' with loads := e'.loads.set load (.ended outcome) } := by
    refine { h with loads := ?_ }
    rw [List.map_set, List.map_set, h.loads]
  exact hset.wakeAll (h.waiters load)

/-! ## Jobs -/

/-- A task runs its program in both, and stops in the same way. -/
theorem resume (h : Beside F N e e') (hn : n ∉ N) (work : Program β) (job : Program β → Job α)
    {done : Engine α → β → Engine α} {panicked : Engine α → String → Engine α}
    (hdone : ∀ {x x' : Engine α} v, Beside F N x x' → Beside F N (done x v) (done x' v))
    (hpanicked : ∀ {x x' : Engine α} text, Beside F N x x' →
      Beside F N (panicked x text) (panicked x' text)) :
    Beside F N (e.resume n work job done panicked) (e'.resume n work job done panicked) := by
  have hrun := Program.run_beside h.ledger hn e.parts work
  have hparts : work.run e'.parts n e'.ledger = work.run e.parts n e'.ledger := by rw [h.parts]
  rw [Engine.resume, Engine.resume, hparts]
  generalize work.run e.parts n e.ledger = x at hrun
  generalize work.run e.parts n e'.ledger = x' at hrun
  obtain ⟨l, stopped⟩ := x
  obtain ⟨l', stopped'⟩ := x'
  obtain ⟨hl, hsame⟩ := hrun
  cases hsame
  have hledger : Beside F N { e with ledger := l } { e' with ledger := l' } := h.withLedger hl
  cases stopped with
  | done v => exact hdone v ((hledger.mark _ _).retire hn)
  | panicked text => exact hpanicked text ((hledger.mark _ _).retire hn)
  | stalled => exact hledger.setJob n _
  | asleep due next => exact (hledger.setJob n _).sleep n due
  | queued next => exact hledger.setJob n _

/-- A load gives the same outcome to the cache in both. -/
theorem finishLoad (h : Beside F N e e') (n : Nat) (ticket : Ticket)
    (value : Outcome Response × Duration) :
    Beside F N (e.finishLoad n ticket value) (e'.finishLoad n ticket value) := by
  have hfinish : e'.cache.finish e'.ledger.elapsed ticket value.1 value.2
      = e.cache.finish e.ledger.elapsed ticket value.1 value.2 := by
    rw [h.cache, h.ledger.elapsed]
  rw [Engine.finishLoad, Engine.finishLoad, hfinish]
  refine Beside.endLoad ?_ _ _
  exact { h with cache := rfl, ledger := h.ledger.tellAll _ _ }

/-- A load is as far in both, but for those left out who may wait for it. -/
theorem load (h : Beside F N e e') (load : Nat) :
    (e.loads[load]? = none ∧ e'.loads[load]? = none) ∨
    (∃ outcome, e.loads[load]? = some (.ended outcome) ∧
      e'.loads[load]? = some (.ended outcome)) ∨
    ∃ waiting waiting', e.loads[load]? = some (.running waiting) ∧
      e'.loads[load]? = some (.running waiting') ∧
      waiting'.filter (· ∉ N) = waiting.filter (· ∉ N) := by
  have hload := congrArg (fun loads : List LoadState => loads[load]?) h.loads
  rw [List.getElem?_map, List.getElem?_map] at hload
  generalize e.loads[load]? = state at hload
  generalize e'.loads[load]? = state' at hload
  cases state with
  | none =>
      cases state' with
      | none => exact Or.inl ⟨rfl, rfl⟩
      | some state' => cases hload
  | some state =>
      cases state' with
      | none => cases hload
      | some state' =>
          replace hload := Option.some.inj hload
          cases state with
          | running waiting =>
              cases state' with
              | running waiting' =>
                  exact Or.inr (Or.inr ⟨_, _, rfl, rfl, LoadState.running.inj hload⟩)
              | ended outcome' => cases hload
          | ended outcome =>
              cases state' with
              | running waiting' => cases hload
              | ended outcome' =>
                  cases hload
                  exact Or.inr (Or.inl ⟨outcome, rfl, rfl⟩)

/-- Whoever shares a load gets the same in both. -/
theorem sharedResult (h : Beside F N e e') (outcome : Outcome Response) :
    e'.sharedResult outcome = e.sharedResult outcome := by
  cases outcome with
  | ok r => exact congrArg (fun present => Except.ok (present r)) h.present
  | error f => rfl

/-- A task that waits for a load goes on to wait in both, or is told in both what it came to. -/
theorem deliver (h : Beside F N e e') (hn : n ∉ N) (hf : f ∉ F) (load : Nat) :
    Beside F N (e.deliver n f load) (e'.deliver n f load) := by
  rw [Engine.deliver, Engine.deliver]
  rcases h.load load with ⟨hl, hl'⟩ | ⟨outcome, hl, hl'⟩ | ⟨waiting, waiting', hl, hl', hwaiting⟩
  · rw [hl, hl']
    exact h
  · rw [hl, hl']
    dsimp only
    rw [h.sharedResult]
    exact (((h.mark _ _).retire hn).complete hf _).1
  · rw [hl, hl']
    refine { h with loads := ?_ }
    rw [List.map_set, List.map_set, h.loads, LoadState.besides, LoadState.besides,
      List.filter_append, List.filter_append, hwaiting]

/-- What a task does that is left out and keeps away from the pool makes no difference. -/
theorem deliver_of_mem (h : Beside F N e e') (hn : n ∈ N) (hf : f ∈ F)
    (haway : e'.ledger.pool.place n = .away) (load : Nat) : Beside F N e (e'.deliver n f load) := by
  rw [Engine.deliver]
  split
  · exact h
  · exact ((h.mark_right _ _).retire_of_mem hn haway).complete_of_mem hf _
  · rename_i waiting hl
    have hwaiting : LoadState.besides N (.running (waiting ++ [n]))
        = LoadState.besides N (.running waiting) := by
      rw [LoadState.besides, LoadState.besides, List.filter_append,
        List.filter_cons_of_neg (by simpa using hn), List.filter_nil, List.append_nil]
    obtain ⟨hlt, hload⟩ := List.getElem?_eq_some_iff.mp hl
    refine { h with loads := ?_ }
    rw [List.map_set, hwaiting, ← hload, ← List.map_set, List.set_getElem_self]
    exact h.loads

/-- Both clean up alike: what is removed and when it is time again hangs on the same cache. -/
theorem pass (h : Beside F N e e') (n : Nat) : Beside F N (e.pass n) (e'.pass n) := by
  have hcache : Beside F N { e with cache := (e.cache.purge e.ledger.elapsed).1 }
      { e' with cache := (e.cache.purge e.ledger.elapsed).1 } := { h with cache := rfl }
  rw [Engine.pass, Engine.pass, h.cache, h.ledger.elapsed]
  exact hcache.mark _ _

/-- The cleanup waits for its next pass in both. -/
theorem await (h : Beside F N e e') (hn : n ∉ N) (due : Nat) :
    Beside F N (e.await n due) (e'.await n due) := by
  have hset := h.setJob n (.clean (some due))
  rw [Engine.await, Engine.await, hset.ledger.elapsed]
  split
  · exact hset.wake hn
  · exact hset.sleep n due

/-- The cleanup does the same in both, and where it is left to chance, chance has it alike. -/
theorem clean (h : Beside F N e e') (hn : n ∉ N) (due : Option Nat) :
    Beside F N (e.clean n due) (e'.clean n due) := by
  rw [Engine.clean.eq_def, Engine.clean.eq_def, h.cache, h.ledger.elapsed, h.cleanerStopped,
    h.parts]
  dsimp only
  split
  · split
    · exact (h.retire hn).mark _ _
    · exact h.await hn _
  · split
    · exact (h.pass n).await hn _
    · split
      · refine Beside.mark ?_ _ _
        split
        · exact (h.retire hn).pass n
        · exact h.retire hn
      · exact h

/-! ## Turns -/

/-- A task is dropped in both. -/
theorem drop (h : Beside F N e e') (hn : t.number ∉ N) (hf : ∀ f, t.job.future? = some f → f ∉ F) :
    Beside F N (e.drop t) (e'.drop t) := by
  have hretired := (h.mark (some t.number) .dropped).retire hn
  rw [Engine.drop, Engine.drop]
  cases hj : t.job with
  | drive future work => exact hretired.guardEnd (hf future (by rw [hj]; rfl)) _ _
  | deliver future load => exact hretired.guardEnd (hf future (by rw [hj]; rfl)) _ _
  | load ticket work => exact hretired.endLoad _ _
  | clean due => exact hretired

theorem begin (h : Beside F N e e') (t : Task α) : Beside F N (e.begin t) (e'.begin t) := by
  rw [Engine.begin, Engine.begin]
  split
  · exact h
  · exact (h.adjust t.number (fun t => { t with begun := true }) fun _ => rfl).mark _ _

/-- A task does the same in its turn in both. -/
theorem poll (h : Beside F N e e') (hn : t.number ∉ N) (hf : ∀ f, t.job.future? = some f → f ∉ F) :
    Beside F N (e.poll t) (e'.poll t) := by
  rw [Engine.poll, Engine.poll]
  split
  · exact h.drop hn hf
  · have hbegun := h.begin t
    rw [runJob, runJob]
    cases hj : t.job with
    | drive future work =>
        have hfuture : future ∉ F := hf future (by rw [hj]; rfl)
        exact hbegun.resume hn work _ (fun v hx => (hx.complete hfuture v).1)
          fun text hx => hx.guardEnd hfuture _ _
    | deliver future load => exact hbegun.deliver hn (hf future (by rw [hj]; rfl)) load
    | load ticket work =>
        exact hbegun.resume hn work _ (fun v hx => hx.finishLoad _ ticket v)
          fun text hx => hx.endLoad _ _
    | clean due => exact hbegun.clean hn due

/-- The turn of a task that waits for a load on behalf of a future that is left out. -/
theorem poll_of_mem (h : Beside F N e e') (hn : t.number ∈ N) {load : Nat}
    (hj : t.job = .deliver f load) (hf : f ∈ F)
    (haway : e'.ledger.pool.place t.number = .away) : Beside F N e (e'.poll t) := by
  rw [Engine.poll]
  split
  · rw [Engine.drop, hj]
    exact ((h.mark_right _ _).retire_of_mem hn haway).guardEnd_of_mem hf _ _
  · have hbegun : Beside F N e (e'.begin t) ∧
        (e'.begin t).ledger.pool.place t.number = .away := by
      rw [Engine.begin]
      split
      · exact ⟨h, haway⟩
      · refine ⟨?_, haway⟩
        exact (h.adjust_of_mem hn (fun t => { t with begun := true }) fun _ => rfl).mark_right _ _
    rw [runJob, hj]
    exact hbegun.1.deliver_of_mem hn hf hbegun.2 load

/-- A task leaves both queues. -/
theorem called (h : Beside F N e e') (n : Nat) : Beside F N (e.called n) (e'.called n) := by
  have hqueued : ∀ {x : Engine α}, (∀ m ∈ x.ready, x.Lives m) → ∀ m ∈ (x.called n).ready, x.Lives m :=
    fun hx m hm => hx m (mem_called.mp hm).1
  refine { h with ready := ?_, queued := hqueued h.queued, queued' := hqueued h.queued' }
  show (e'.ready.filter _).filter _ = (e.ready.filter _).filter _
  rw [List.filter_comm, h.ready, List.filter_comm]

/-- A task that is left out leaves the queue of one. -/
theorem called_of_mem (h : Beside F N e e') (hn : n ∈ N) : Beside F N e (e'.called n) := by
  refine { h with ready := ?_, queued' := fun m hm => h.queued' m (mem_called.mp hm).1 }
  rw [← h.ready]
  show (e'.ready.filter _).filter _ = _
  rw [List.filter_filter]
  refine List.filter_congr fun m _ => ?_
  by_cases hm : m = n
  · simp [hm, hn]
  · simp [hm]

/-- A task has its turn in both that is not left out. -/
theorem turn (h : Beside F N e e') (hn : n ∉ N)
    (hothers : ∀ t ∈ e.tasks, t.number ∉ N → ∀ f, t.job.future? = some f → f ∉ F) :
    Beside F N (e.turn n) (e'.turn n) := by
  have hcalled := h.called n
  rw [Engine.turn, Engine.turn, h.contains hn, h.task? hn]
  split
  · cases hfind : e.task? n with
    | none => exact hcalled
    | some t =>
        have hnumber : t.number = n :=
          beq_iff_eq.mp (List.find?_some (p := fun u : Task α => u.number == n) hfind)
        have ht : t.number ∉ N := hnumber ▸ hn
        exact hcalled.poll ht (hothers t (List.mem_of_find?_eq_some hfind) ht)
  · exact h

/-- The turn of a task that is left out makes no difference. -/
theorem turn_of_mem (h : Beside F N e e') (hnumbers : (e'.tasks.map Task.number).Nodup)
    (hr : t.number ∈ e'.ready) (ht : t ∈ e'.tasks) (hn : t.number ∈ N)
    {load : Nat} (hj : t.job = .deliver f load) (hf : f ∈ F)
    (haway : e'.ledger.pool.place t.number = .away) : Beside F N e (e'.turn t.number) := by
  rw [turn_eq_poll hnumbers ht hr]
  exact (h.called_of_mem hn).poll_of_mem hn hj hf haway

/-- The clocks move, and those whose sleep is over are woken in the same order. -/
theorem tick (h : Beside F N e e') : Beside F N e.tick e'.tick := by
  have hswap : ∀ (p : Nat × Nat → Bool) (timers : List (Nat × Nat)),
      (timers.filter p).filter (fun x => x.2 ∉ N) = (timers.filter fun x => x.2 ∉ N).filter p := by
    intro p timers
    rw [List.filter_filter, List.filter_filter]
    exact List.filter_congr fun x _ => Bool.and_comm _ _
  have htimers : ∀ p : Nat × Nat → Bool, (e'.timers.filter p).filter (fun x => x.2 ∉ N)
      = (e.timers.filter p).filter fun x => x.2 ∉ N := by
    intro p
    rw [hswap, hswap, h.timers]
  have hdue : ∀ p : Nat × Nat → Bool, ((e'.timers.filter p).map Prod.snd).filter (· ∉ N)
      = ((e.timers.filter p).map Prod.snd).filter (· ∉ N) := by
    intro p
    rw [List.filter_map, List.filter_map]
    exact congrArg (List.map Prod.snd) (htimers p)
  rw [Engine.tick, Engine.tick, h.ledger.elapsed, h.ledger.tick]
  have hmoved : Beside F N
      { e with
        ledger := { e.ledger with elapsed := e.ledger.elapsed + e.ledger.tick }
        timers := e.timers.filter fun t => e.ledger.elapsed + e.ledger.tick < t.1 }
      { e' with
        ledger := { e'.ledger with elapsed := e.ledger.elapsed + e.ledger.tick }
        timers := e'.timers.filter fun t => e.ledger.elapsed + e.ledger.tick < t.1 } :=
    { h with
      ledger := h.ledger.withElapsed _
      timers := htimers _ }
  exact hmoved.wakeAll (hdue _)

/-! ## Between turns -/

/-- A task is spawned in both, with the same number. -/
theorem spawn (h : Beside F N e e') (hs : e.stopped = false) (job : Job α) :
    Beside F N (e.spawn job) (e'.spawn job) := by
  have hqueued : ∀ {x : Engine α}, (∀ m ∈ x.ready, x.Lives m) → ∀ m ∈ x.ready ++ [x.spawned],
      ∃ t ∈ x.tasks ++ [⟨x.spawned, job, false, false⟩], t.number = m := by
    intro x hx m hm
    rcases List.mem_append.mp hm with hm | hm
    · obtain ⟨t, ht, hnumber⟩ := hx m hm
      exact ⟨t, List.mem_append_left _ ht, hnumber⟩
    · exact ⟨_, List.mem_append_right _ (List.mem_singleton_self _),
        (List.mem_singleton.mp hm).symm⟩
  rw [e.spawn_eq hs, e'.spawn_eq (h.stopped.trans hs)]
  refine { h with
    tasks := ?tasks
    spawned := congrArg (· + 1) h.spawned
    ready := ?ready
    queued := hqueued h.queued
    queued' := hqueued h.queued' }
  case tasks => rw [List.filter_append, List.filter_append, h.tasks, h.spawned]
  case ready => rw [List.filter_append, List.filter_append, h.ready, h.spawned]

/-- A future is added in both, with the same number. -/
theorem addFuture (h : Beside F N e e') (c : Completion α) :
    Beside F N (e.addFuture c).1 (e'.addFuture c).1 := by
  refine { h with length := ?_, futures := fun g hg => ?_ }
  · show (e'.futures ++ [c]).length = (e.futures ++ [c]).length
    rw [List.length_append, List.length_append, h.length]
  · show (e'.futures ++ [c])[g]? = (e.futures ++ [c])[g]?
    rw [List.getElem?_append, List.getElem?_append, h.length, h.futures g hg]

/-- A future that is decided by a task, known by the same number. -/
theorem spawnFuture (h : Beside F N e e') (hs : e.stopped = false) (job : Nat → Job α) :
    Beside F N (e.spawnFuture job).1 (e'.spawnFuture job).1 := by
  have hs' : e'.stopped = false := h.stopped.trans hs
  -- the future knows its task from the start
  have hadded : Beside F N (e.addFuture ⟨.pending, none, some e.spawned⟩).1
      (e'.addFuture ⟨.pending, none, some e'.spawned⟩).1 := by
    rw [h.spawned]
    exact h.addFuture _
  have hspawned := hadded.spawn hs (job e.futures.length)
  rw [spawn_eq (e.addFuture _).1 hs, spawn_eq (e'.addFuture _).1 hs'] at hspawned
  rw [e.spawnFuture_eq hs, e'.spawnFuture_eq hs', h.length]
  exact hspawned

/-- A future is cancelled in both. -/
theorem cancel (h : Beside F N e e') (hf : f ∉ F) :
    Beside F N (e.cancel f).1 (e'.cancel f).1 := by
  rw [Engine.cancel, Engine.cancel, h.futures f hf]
  split
  · exact h
  · split
    · exact h
    · exact (h.setFuture f _).follow _

/-- A future is asked in both. -/
theorem pollFuture (h : Beside F N e e') (hf : f ∉ F) (waker : Nat) :
    Beside F N (e.pollFuture f waker).1 (e'.pollFuture f waker).1 := by
  rw [Engine.pollFuture, Engine.pollFuture, h.futures f hf]
  split
  · exact h
  · exact h.setFuture f _

/-- It makes no difference that a future is asked that is left out. -/
theorem pollFuture_of_mem (h : Beside F N e e') (hf : f ∈ F) (waker : Nat) :
    Beside F N e (e'.pollFuture f waker).1 := by
  rw [Engine.pollFuture]
  split
  · exact h
  · exact h.setFuture_of_mem hf _

/-- A future is waited for in both. -/
theorem waitFuture (h : Beside F N e e') (hf : f ∉ F) :
    Beside F N (e.waitFuture f).1 (e'.waitFuture f).1 := by
  rw [Engine.waitFuture, Engine.waitFuture, h.futures f hf]
  split
  · exact h
  · exact h.setFuture f _

/-- It makes no difference that a future is waited for that is left out. -/
theorem waitFuture_of_mem (h : Beside F N e e') (hf : f ∈ F) :
    Beside F N e (e'.waitFuture f).1 := by
  rw [Engine.waitFuture]
  split
  · exact h
  · exact h.setFuture_of_mem hf _

/-- The cancel of a future that is left out reaches no task but its own. -/
theorem cancel_of_mem (h : Beside F N e e') (hf : f ∈ F)
    (hown : ∀ c, e'.futures[f]? = some c → c.state = .pending → ∀ n, c.task = some n →
      e'.Lives n → n ∈ N) : Beside F N e (e'.cancel f).1 := by
  rw [Engine.cancel]
  split
  · exact h
  · rename_i c hc
    split
    · exact h
    · rename_i c' s hcancel
      refine (h.setFuture_of_mem hf _).follow_of_mem _ fun n hs hl => ?_
      obtain ⟨state, waker, task⟩ := c
      cases state with
      | pending =>
          cases hcancel
          exact hown _ hc rfl n hs hl
      | ready _ | cancelled | taken => cases hcancel

/-- The cache may change in both alike. -/
theorem withCache (h : Beside F N e e') (cache : Cache) :
    Beside F N { e with cache := cache } { e' with cache := cache } :=
  { h with cache := rfl }

/-- The tasks that clean up are woken in the same order. -/
theorem stopCleaner (h : Beside F N e e') : Beside F N e.stopCleaner e'.stopCleaner := by
  -- what gives numbers of tasks gives the others of the same tasks
  have hothers : ∀ g : Task α → Option Nat, (∀ t n, g t = some n → n = t.number) →
      (e'.tasks.filterMap g).filter (· ∉ N) = (e.tasks.filterMap g).filter (· ∉ N) := by
    intro g hg
    have hswap : ∀ tasks : List (Task α), (tasks.filterMap g).filter (· ∉ N)
        = (tasks.filter fun t => t.number ∉ N).filterMap g := by
      intro tasks
      rw [List.filter_filterMap, List.filterMap_filter]
      refine List.filterMap_congr fun t _ => ?_
      cases hnumber : g t with
      | none => simp
      | some n =>
          rw [hg t n hnumber]
          by_cases ht : t.number ∈ N <;> simp [ht]
    rw [hswap, hswap, h.tasks]
  rw [Engine.stopCleaner, Engine.stopCleaner]
  by_cases hs : e.cleanerStopped = true
  · rw [if_pos hs, if_pos (h.cleanerStopped.trans hs)]
    exact h
  · rw [if_neg hs, if_neg (by simpa [h.cleanerStopped] using hs)]
    have htold : Beside F N { e with cleanerStopped := true } { e' with cleanerStopped := true } :=
      { h with cleanerStopped := rfl }
    refine htold.wakeAll (hothers _ fun t n hn => ?_)
    split at hn
    · exact (Option.some.inj hn).symm
    · cases hn

/-- The client is closed in both. -/
theorem close (h : Beside F N e e') : Beside F N e.close e'.close := by
  have hclosed : e'.isClosed = e.isClosed := h.ledger.closed
  rw [Engine.close, Engine.close, hclosed]
  split
  · exact h
  · dsimp only
    rw [h.ledger.pool]
    have hwoken := (h.withLedger (h.ledger.close e.ledger.pool.close.1)).wakeAll
      (Eq.refl (e.ledger.pool.close.2.filter (· ∉ N)))
    exact (((hwoken.withLedger hwoken.ledger.shut).mark _ _).stopCleaner).mark _ _

/-- A load is started that nobody waits for yet. -/
theorem addLoad (h : Beside F N e e') : Beside F N { e with loads := e.loads ++ [.running []] }
    { e' with loads := e'.loads ++ [.running []] } := by
  refine { h with loads := ?_ }
  rw [List.map_append, List.map_append, h.loads]

/-- Both are given the same load. -/
theorem lookup (h : Beside F N e e') (hs : e.stopped = false) (request : Request) :
    Beside F N (e.lookup request).1 (e'.lookup request).1 ∧
      (e'.lookup request).2 = (e.lookup request).2 := by
  have hget : e'.cache.get e'.ledger.elapsed request = e.cache.get e.ledger.elapsed request := by
    rw [h.cache, h.ledger.elapsed]
  have htold : ∀ told : List Log, Beside F N
      { e with
        cache := (e.cache.get e.ledger.elapsed request).1
        ledger := e.ledger.tellAll none told }
      { e' with
        cache := (e.cache.get e.ledger.elapsed request).1
        ledger := e'.ledger.tellAll none told } :=
    fun told => { h with cache := rfl, ledger := h.ledger.tellAll none told }
  rw [Engine.lookup, Engine.lookup, hget]
  dsimp only
  split
  · exact ⟨htold _, rfl⟩
  · rename_i ticket _
    have hloader : (e'.loader request).timed = (e.loader request).timed := by rw [h.loader]
    rw [hloader]
    exact ⟨(htold _).addLoad.spawn hs _, rfl⟩

/-- A call around the cache is made in both. -/
theorem criticalExecuteWith (h : Beside F N e e') (hs : e.stopped = false) (request : Request)
    (handler : Handler α) : Beside F N (e.criticalExecuteWith request handler).1
      (e'.criticalExecuteWith request handler).1 := by
  have hclosed : e'.isClosed = e.isClosed := h.ledger.closed
  rw [Engine.criticalExecuteWith, Engine.criticalExecuteWith, hclosed]
  split
  · exact h.addFuture _
  · exact h.spawnFuture hs _

/-- A call is made in both, through the cache or around it. -/
theorem execute (h : Beside F N e e') (hs : e.stopped = false) (request : Request) :
    Beside F N (e.execute request).1 (e'.execute request).1 := by
  have hclosed : e'.isClosed = e.isClosed := h.ledger.closed
  rw [Engine.execute, Engine.execute, hclosed]
  split
  · exact h.addFuture _
  · split
    · rw [criticalExecute, criticalExecute, h.present]
      exact h.criticalExecuteWith hs request _
    · dsimp only
      have htold := h.mark none (.told (.throughCache request.urlText))
      obtain ⟨hlookup, hload⟩ := htold.lookup hs request
      have hstopped :=
        (acts_lookup (e.tell none (.throughCache request.urlText)) hs request).stopped
      rw [tell, tell, hload]
      exact hlookup.spawnFuture (hstopped.trans hs) _

/-- **WHAT IS THE SAME BESIDE SOME FUTURES STAYS THE SAME** in every event that has nothing to do
    with them. -/
theorem step (h : Beside F N e e') (hs : e.stopped = false) {ev : EngineEvent α}
    (hc : ev.isClient = true) (hasks : ev.handles F = false)
    (hturn : ∀ n, ev = .turn n → n ∉ N ∧
      ∀ t ∈ e.tasks, t.number ∉ N → ∀ f, t.job.future? = some f → f ∉ F) :
    Beside F N (e.step ev) (e'.step ev) := by
  cases ev with
  | turn n =>
      obtain ⟨hn, hothers⟩ := hturn n rfl
      exact h.turn hn hothers
  | tick => exact h.tick
  | startCleaner => exact h.spawn hs _
  | stopCleaner => exact h.stopCleaner
  | execute request => exact h.execute hs request
  | criticalExecuteWith request handler => exact h.criticalExecuteWith hs request handler
  | drive work => cases hc
  | decide result => exact h.addFuture _
  | lookup request => exact (h.lookup hs request).1
  | cancel future => exact h.cancel (by simpa [EngineEvent.handles] using hasks)
  | pollFuture future waker => exact h.pollFuture (by simpa [EngineEvent.handles] using hasks) waker
  | waitFuture future => exact h.waitFuture (by simpa [EngineEvent.handles] using hasks)
  | invalidate request =>
      rw [Engine.step, Engine.step, invalidate, invalidate, h.cache]
      exact h.withCache _
  | invalidateAll =>
      rw [Engine.step, Engine.step, invalidateAll, invalidateAll, h.cache]
      exact h.withCache _
  | cleanup =>
      rw [Engine.step, Engine.step, cleanup, cleanup, h.cache, h.ledger.elapsed]
      exact h.withCache _
  | close => exact h.close
  | shutdown => cases hc

end Beside

end Engine

end Courier
