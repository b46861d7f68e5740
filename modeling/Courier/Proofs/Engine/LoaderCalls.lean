import Courier.Proofs.Engine.Acts
import Courier.Proofs.Program.Timing

/-!
# Loader calls — what a load comes to is what its loader call comes to

Whoever starts a load calls the loader, and a task runs the program that the loader gives, turn by
turn.  `Led` follows that program through a run: it moves in the turns of its task and in no others.
What a load comes to is then what its program comes to in the last of these turns (`CallCameTo`), or
that the task was dropped, when everything was shut down (`CameTo`).  `Traced` says this of all loads
that have ended, and that the program of every load that has not is where the run has led it.  Every
event of an engine keeps it (`Traced.step`).
-/

namespace Courier

variable {α β : Type}

namespace Engine

/-- **A PROGRAM THROUGH A RUN.**  A task is spawned with a program; what is left of it changes in the
    turns of the task alone, and there by running on. -/
inductive Led (first : Engine α) (n : Nat) (p : Program β) :
    List (EngineEvent α) → Program β → Prop where
  /-- The task is not there yet. -/
  | given {run : List (EngineEvent α)} (h : (first.steps run).spawned ≤ n) : Led first n p run p
  | rest {run : List (EngineEvent α)} {q : Program β} {ev : EngineEvent α}
      (h : Led first n p run q)
      (hev : ev = .turn n → n ∉ (first.steps run).ready) : Led first n p (run ++ [ev]) q
  | turn {run : List (EngineEvent α)} {q next : Program β} {t : Task α} {l : Ledger}
      {stopped : Stopped β} (h : Led first n p run q) (ht : t ∈ (first.steps run).tasks)
      (hn : t.number = n) (hr : n ∈ (first.steps run).ready)
      (hrun : q.run (first.steps run).parts n ((first.steps run).begunLedger t) = (l, stopped))
      (hnext : stopped.rest? = some next) : Led first n p (run ++ [.turn n]) next

/-- A task runs a load, and has since the load was started: what is left for it to do is what is
    left of what the loader gave for the request. -/
structure OnCall (first : Engine α) (run : List (EngineEvent α)) (n : Nat) (ticket : Ticket)
    (work : Program (Outcome Response × Duration)) : Prop where
  led : ∃ p, Led first n (first.loader ticket.request) run p ∧ p.TimedAs work
  since : ∀ before ev after, run = before ++ ev :: after →
    ticket.load < (first.steps before).loads.length →
    ∃ t ∈ (first.steps before).tasks, t.number = n ∧ ∃ work, t.job = .load ticket work

/-- After a run a task can have its turn that runs a load for a request, and has since the load was
    started; what is left of the program that the loader gave for the request stops in this turn. -/
structure LastTurn (first : Engine α) (run : List (EngineEvent α)) (load : Nat) (r : Request)
    (t : Task α) (p : Program (Outcome Response)) (stopped : Stopped (Outcome Response)) : Prop where
  task : t ∈ (first.steps run).tasks
  queued : t.number ∈ (first.steps run).ready
  job : ∃ ticket work, t.job = .load ticket work ∧ ticket.load = load ∧ ticket.request = r ∧
    OnCall first run t.number ticket work ∧ p.TimedAs work
  led : Led first t.number (first.loader r) run p
  stops : (p.run (first.steps run).parts t.number ((first.steps run).begunLedger t)).2 = stopped

/-- **WHAT THE LOADER CALL OF A LOAD HAS COME TO IN A RUN**: to what is left of the program that the
    loader gave for the request, when that stops in the last turn of the task. -/
inductive CallCameTo (first : Engine α) (run : List (EngineEvent α)) (load : Nat) (r : Request) :
    Outcome Response → Prop where
  | gave {before after : List (EngineEvent α)} {t : Task α} {p : Program (Outcome Response)}
      {outcome : Outcome Response} (hrun : run = before ++ .turn t.number :: after)
      (ht : LastTurn first before load r t p (.done outcome)) : CallCameTo first run load r outcome
  | panicked {before after : List (EngineEvent α)} {t : Task α} {p : Program (Outcome Response)}
      {text : String} (hrun : run = before ++ .turn t.number :: after)
      (ht : LastTurn first before load r t p (.panicked text)) :
      CallCameTo first run load r (.error (.taskFailed (.panickedWith text)))

/-- **WHAT A LOAD HAS COME TO IN A RUN**: to what its loader call came to, unless its task was
    dropped. -/
inductive CameTo (first : Engine α) (run : List (EngineEvent α)) (load : Nat) (r : Request) :
    Outcome Response → Prop where
  | call {outcome : Outcome Response} (h : CallCameTo first run load r outcome) :
      CameTo first run load r outcome
  | dropped (h : EngineEvent.shutdown ∈ run) :
      CameTo first run load r (.error (.taskFailed .dropped))

/-- Where all that has to do with loads comes from, at a point on the way to the end of a run. -/
structure Traced (first : Engine α) (run : List (EngineEvent α)) (h : History) (e : Engine α) :
    Prop where
  loader : e.loader = first.loader
  halted : e.stopped = true → EngineEvent.shutdown ∈ run
  spawned : ∀ t ∈ e.tasks, t.number < e.spawned
  /-- The run has led no program yet that a new task is given. -/
  fresh : ∀ n (p : Program (Outcome Response)), e.spawned ≤ n → Led first n p run p
  running : ∀ t ∈ e.tasks, ∀ ticket work, t.job = .load ticket work →
    t.aborted = false ∧ OnCall first run t.number ticket work
  /-- Loads are only ever added. -/
  grown : ∀ before ev after, run = before ++ ev :: after →
    (first.steps before).loads.length ≤ e.loads.length
  ended : ∀ load outcome f, e.loads[load]? = some (.ended outcome) → h.flight? load = some f →
    CameTo first run load f.ticket.request outcome
  /-- No future has a task that runs a load. -/
  driven : ∀ c ∈ e.futures, ∀ n, c.task = some n →
    n < e.spawned ∧ ∀ t ∈ e.tasks, t.number = n → t.job.ticket? = none

variable {first e e' : Engine α} {run : List (EngineEvent α)} {h : History} {t : Task α}
  {ev : EngineEvent α} {load : Nat} {r : Request} {outcome : Outcome Response}

/-! ## The run goes on -/

theorem CallCameTo.append (hc : CallCameTo first run load r outcome)
    (more : List (EngineEvent α)) : CallCameTo first (run ++ more) load r outcome := by
  cases hc with
  | gave hrun ht => exact .gave (by rw [hrun, List.append_assoc, List.cons_append]) ht
  | panicked hrun ht => exact .panicked (by rw [hrun, List.append_assoc, List.cons_append]) ht

theorem CameTo.append (hc : CameTo first run load r outcome) (more : List (EngineEvent α)) :
    CameTo first (run ++ more) load r outcome := by
  cases hc with
  | call h => exact .call (h.append more)
  | dropped h => exact .dropped (List.mem_append_left _ h)

/-- What happened before the last event of a run happened before the others, or was all of them. -/
theorem before_last {before after : List (EngineEvent α)} {ev ev' : EngineEvent α}
    (h : run ++ [ev] = before ++ ev' :: after) :
    before = run ∨ ∃ after', run = before ++ ev' :: after' := by
  rcases List.eq_nil_or_concat after with rfl | ⟨after', last, rfl⟩
  · exact Or.inl (List.append_inj_left' h rfl).symm
  · refine Or.inr ⟨after', ?_⟩
    rw [List.concat_eq_append, ← List.cons_append, ← List.append_assoc] at h
    exact List.append_inj_left' h rfl

/-- A task that runs a load has run it since the load was started. -/
theorem OnCall.since_append {work : Program (Outcome Response × Duration)} {ticket : Ticket}
    (ho : OnCall first run t.number ticket work) (ht : t ∈ (first.steps run).tasks)
    (hj : t.job = .load ticket work) (ev : EngineEvent α) :
    ∀ before ev' after, run ++ [ev] = before ++ ev' :: after →
      ticket.load < (first.steps before).loads.length →
      ∃ u ∈ (first.steps before).tasks, u.number = t.number ∧
        ∃ work, u.job = .load ticket work := by
  intro before ev' after hrun hlt
  rcases before_last hrun with rfl | ⟨after', hrun'⟩
  · exact ⟨t, ht, rfl, work, hj⟩
  · exact ho.since before ev' after' hrun' hlt

theorem OnCall.rest {work : Program (Outcome Response × Duration)} {ticket : Ticket}
    (ho : OnCall first run t.number ticket work) (ht : t ∈ (first.steps run).tasks)
    (hj : t.job = .load ticket work)
    (hev : ev = .turn t.number → t.number ∉ (first.steps run).ready) :
    OnCall first (run ++ [ev]) t.number ticket work := by
  obtain ⟨p, hled, htimed⟩ := ho.led
  exact ⟨⟨p, hled.rest hev, htimed⟩, ho.since_append ht hj ev⟩

/-- In a turn the task stops where the program stops that the loader gave. -/
theorem OnCall.stops {n : Nat} {work : Program (Outcome Response × Duration)} {ticket : Ticket}
    (ho : OnCall first run n ticket work) (l : Ledger) :
    ∃ p, Led first n (first.loader ticket.request) run p ∧ p.TimedAs work ∧
      Program.StopsAs (p.run (first.steps run).parts n l).2
        (work.run (first.steps run).parts n l).2 := by
  obtain ⟨p, hled, htimed⟩ := ho.led
  exact ⟨p, hled, htimed, (htimed.run _ n l).2⟩

/-- A load that there is has a flight, which is still the flight of that request later on. -/
theorem flight_of_load (hf : e.cacheSide.Follows h) (ho : h.Orderly) {state : LoadState}
    (hl : e.loads[load]? = some state) {events : List CacheEvent} {f : Flight}
    (hflight : (h.steps events).flight? load = some f) :
    ∃ f₀, h.flight? load = some f₀ ∧ f₀.ticket = f.ticket := by
  have hloads := outcome?_load hf load
  rw [hl] at hloads
  obtain ⟨f₀, hf₀, -⟩ := Option.map_eq_some_iff.mp hloads.symm
  obtain ⟨f', hf', hticket, -⟩ := History.flown_steps ho events hf₀
  cases hf'.symm.trans hflight
  exact ⟨f₀, hf₀, hticket.symm⟩

/-- What a load had come to it has still come to, after one more event. -/
theorem Traced.ended_later (hT : Traced first run h e) (hf : e.cacheSide.Follows h)
    (ho : h.Orderly) (ev : EngineEvent α) {events : List CacheEvent} {f : Flight}
    (hl : e.loads[load]? = some (.ended outcome))
    (hflight : (h.steps events).flight? load = some f) :
    CameTo first (run ++ [ev]) load f.ticket.request outcome := by
  obtain ⟨f₀, hf₀, hticket⟩ := flight_of_load hf ho hl hflight
  rw [← hticket]
  exact (hT.ended load outcome f₀ hl hf₀).append [ev]

/-- Loads are only ever added, after one more event too. -/
theorem Traced.grown_later (hT : Traced first run h (first.steps run))
    (hlength : (first.steps run).loads.length ≤ e'.loads.length) (ev : EngineEvent α) :
    ∀ before ev' after, run ++ [ev] = before ++ ev' :: after →
      (first.steps before).loads.length ≤ e'.loads.length := by
  intro before ev' after hrun
  rcases before_last hrun with rfl | ⟨after', hrun'⟩
  · exact hlength
  · exact Nat.le_trans (hT.grown before ev' after' hrun') hlength

/-- An event begins that is not the turn of a task. -/
theorem Traced.begins (hT : Traced first run h (first.steps run))
    (hf : (first.steps run).cacheSide.Follows h) (ho : h.Orderly) (events : List CacheEvent)
    (hev : ev.isTurn = false) : Traced first (run ++ [ev]) (h.steps events) (first.steps run) where
  loader := hT.loader
  halted hs := List.mem_append_left _ (hT.halted hs)
  spawned := hT.spawned
  fresh n p hn := (Led.given hn).rest fun ht => nomatch hev.symm.trans (congrArg (·.isTurn) ht)
  running t ht ticket work hj := by
    obtain ⟨ha, hcall⟩ := hT.running t ht ticket work hj
    exact ⟨ha, hcall.rest ht hj fun ht => nomatch hev.symm.trans (congrArg (·.isTurn) ht)⟩
  grown := hT.grown_later (Nat.le_refl _) ev
  ended load outcome f hl hflight := hT.ended_later hf ho ev hl hflight
  driven := hT.driven

/-! ## What happens between turns -/

/-- An engine has no task that it did not have, and no load of it comes to anything new but that its
    task was dropped. -/
theorem Traced.of_sub (hT : Traced first run h e) (hloader : e'.loader = e.loader)
    (hstopped : e'.stopped = e.stopped) (hspawned : e'.spawned = e.spawned)
    (htasks : ∀ t ∈ e'.tasks, t ∈ e.tasks) (hlength : e'.loads.length = e.loads.length)
    (hloads : ∀ (load : Nat) (outcome : Outcome Response),
      e'.loads[load]? = some (.ended outcome) → e.loads[load]? = some (.ended outcome) ∨
        (e.stopped = true ∧ outcome = .error (.taskFailed .dropped)))
    (hfutures : ∀ c ∈ e'.futures, ∀ n, c.task = some n → ∃ c₀ ∈ e.futures, c₀.task = some n) :
    Traced first run h e' where
  loader := hloader.trans hT.loader
  halted hs := hT.halted (hstopped.symm.trans hs)
  spawned t ht := hspawned.symm ▸ hT.spawned t (htasks t ht)
  fresh n p hn := hT.fresh n p (hspawned ▸ hn)
  running t ht := hT.running t (htasks t ht)
  grown before ev after hrun := hlength.symm ▸ hT.grown before ev after hrun
  ended load outcome f hl hflight := by
    rcases hloads load outcome hl with hold | ⟨hs, rfl⟩
    · exact hT.ended load outcome f hold hflight
    · exact .dropped (hT.halted hs)
  driven c hc n hn := by
    obtain ⟨c₀, hc₀, hn₀⟩ := hfutures c hc n hn
    obtain ⟨hlt, hno⟩ := hT.driven c₀ hc₀ n hn₀
    exact ⟨hspawned.symm ▸ hlt, fun t ht => hno t (htasks t ht)⟩

theorem Traced.rests (hT : Traced first run h e) (hr : Rests e e') : Traced first run h e' := by
  refine hT.of_sub hr.loader hr.stopped hr.spawned ?_ (congrArg List.length hr.loads) ?_ ?_
  · rw [hr.tasks]
    exact fun t ht => ht
  · rw [hr.loads]
    exact fun load outcome hl => Or.inl hl
  · rw [hr.futures]
    exact fun c hc n hn => ⟨c, hc, hn⟩

/-- Futures that have no task that runs a load. -/
theorem Traced.withFutures (hT : Traced first run h e) {futures : List (Completion α)}
    (hfutures : ∀ c ∈ futures, ∀ n, c.task = some n → (∃ c₀ ∈ e.futures, c₀.task = some n) ∨
      (n < e.spawned ∧ ∀ t ∈ e.tasks, t.number = n → t.job.ticket? = none)) :
    Traced first run h { e with futures := futures } := by
  refine { hT with driven := fun c hc n hn => ?_ }
  rcases hfutures c hc n hn with ⟨c₀, hc₀, hn₀⟩ | hnone
  · exact hT.driven c₀ hc₀ n hn₀
  · exact hnone

/-- A future is changed that keeps its task, if it has one. -/
theorem Traced.setFuture (hT : Traced first run h e) {future : Nat} {c c' : Completion α}
    (hc : e.futures[future]? = some c) (htask : ∀ n, c'.task = some n → c.task = some n) :
    Traced first run h (e.setFuture future c') := by
  refine hT.withFutures fun x hx n hn => Or.inl ?_
  rcases List.mem_or_eq_of_mem_set hx with hold | rfl
  · exact ⟨x, hold, hn⟩
  · exact ⟨c, List.mem_of_getElem? hc, htask n hn⟩

theorem Traced.addFuture (hT : Traced first run h e) {c : Completion α} (hc : c.task = none) :
    Traced first run h (e.addFuture c).1 := by
  refine hT.withFutures fun x hx n hn => Or.inl ?_
  rcases List.mem_append.mp hx with hold | hnew
  · exact ⟨x, hold, hn⟩
  · rw [List.mem_singleton.mp hnew, hc] at hn
    cases hn

/-- A future that is decided has no task any more, or the task it had. -/
theorem task_complete {c : Completion α} {result : Outcome α} {n : Nat}
    (hn : (c.complete result).1.task = some n) : c.task = some n := by
  obtain ⟨state, waker, task⟩ := c
  cases state with
  | pending => cases hn
  | ready _ | cancelled | taken => exact hn

/-- What is left behind gives no future another task. -/
theorem futures_of_remains (remains : Remains α) {futures : List (Completion α)}
    {c : Completion α} (hc : c ∈ remains.futures futures) {n : Nat} (hn : c.task = some n) :
    ∃ c₀ ∈ futures, c₀.task = some n := by
  cases remains with
  | load load outcome => exact ⟨c, hc, hn⟩
  | nothing => exact ⟨c, hc, hn⟩
  | future own result =>
      obtain ⟨k, hk⟩ := List.mem_iff_getElem?.mp hc
      change (futures.modify own fun c => (c.complete result).1)[k]? = some c at hk
      rw [List.getElem?_modify] at hk
      obtain ⟨c₀, hc₀, heq⟩ := Option.map_eq_some_iff.mp hk
      refine ⟨c₀, List.mem_of_getElem? hc₀, ?_⟩
      split at heq
      · subst heq
        exact task_complete hn
      · exact heq ▸ hn

theorem Traced.retire (hT : Traced first run h e) (n : Nat) : Traced first run h (e.retire n) := by
  have hwithout : Traced first run h (e.without n) :=
    hT.of_sub rfl rfl rfl (fun t ht => (List.mem_filter.mp ht).1) rfl (fun _ _ hl => Or.inl hl)
      fun c hc n hn => ⟨c, hc, hn⟩
  exact hwithout.rests (e.rests_retire n)

theorem Traced.guardEnd (hT : Traced first run h e) (n future : Nat) (how : TaskEnd) :
    Traced first run h (e.guardEnd n future how) := by
  refine Traced.rests (hT.withFutures fun c hc n hn => Or.inl ?_) (e.rests_guardEnd n future how)
  exact futures_of_remains (.future future (.error (.taskFailed how))) hc hn

/-- A load ends whose task was dropped, when no task can run any more. -/
theorem Traced.endLoad (hT : Traced first run h e) (hs : e.stopped = true) (load : Nat) :
    Traced first run h (e.endLoad load (.error (.taskFailed .dropped))) := by
  have hended : Traced first run h { e with
      loads := e.loads.set load (.ended (.error (.taskFailed .dropped))) } := by
    refine hT.of_sub rfl rfl rfl (fun t ht => ht) List.length_set ?_
      fun c hc n hn => ⟨c, hc, hn⟩
    intro other outcome hl
    change (e.loads.set load _)[other]? = _ at hl
    by_cases heq : load = other
    · subst heq
      have hlt := (List.getElem?_eq_some_iff.mp hl).1
      rw [List.length_set] at hlt
      rw [List.getElem?_set_self hlt] at hl
      cases hl
      exact Or.inr ⟨hs, rfl⟩
    · rw [List.getElem?_set_ne heq] at hl
      exact Or.inl hl
  exact hended.rests (e.rests_endLoad load _)

/-- A task is dropped when no task can run any more. -/
theorem Traced.drop (hT : Traced first run h e) (hs : e.stopped = true) (t : Task α) :
    Traced first run h (e.drop t) := by
  have hmarked : Traced first run h (e.mark (some t.number) .dropped) :=
    hT.rests (e.rests_mark _ nofun rfl)
  have hretired := hmarked.retire t.number
  have hstopped : ((e.mark (some t.number) .dropped).retire t.number).stopped = true :=
    (rests_retire _ t.number).stopped.trans hs
  rw [Engine.drop]
  cases t.job with
  | drive future work => exact hretired.guardEnd t.number future .dropped
  | deliver future load => exact hretired.guardEnd t.number future .dropped
  | load ticket work => exact hretired.endLoad hstopped ticket.load
  | clean due => exact hretired

theorem stopped_drop (hs : e.stopped = true) (t : Task α) : (e.drop t).stopped = true := by
  have hretired : ((e.mark (some t.number) .dropped).retire t.number).stopped = true :=
    (rests_retire _ t.number).stopped.trans hs
  rw [Engine.drop]
  cases t.job with
  | drive future work => exact (rests_guardEnd _ t.number future .dropped).stopped.trans hretired
  | deliver future load => exact (rests_guardEnd _ t.number future .dropped).stopped.trans hretired
  | load ticket work => exact (rests_endLoad _ ticket.load _).stopped.trans hretired
  | clean due => exact hretired

/-- A task is spawned; if it runs a load, this is a new load, and the task does what the loader gave
    for the request. -/
theorem Traced.spawn (hT : Traced first run h e) {job : Job α}
    (hjob : ∀ ticket work, job = .load ticket work →
      work = (first.loader ticket.request).timed ∧
      ∀ before ev after, run = before ++ ev :: after →
        (first.steps before).loads.length ≤ ticket.load) : Traced first run h (e.spawn job) := by
  have hadded : Traced first run h { e with
      tasks := e.tasks ++ [⟨e.spawned, job, false, false⟩], spawned := e.spawned + 1 } := by
    refine
      { loader := hT.loader
        halted := hT.halted
        spawned := ?spawned
        fresh := fun n p hn => hT.fresh n p (Nat.le_of_succ_le hn)
        running := ?running
        grown := hT.grown
        ended := hT.ended
        driven := ?driven }
    case spawned =>
      intro t ht
      rcases List.mem_append.mp ht with ht | ht
      · exact Nat.lt_succ_of_lt (hT.spawned t ht)
      · rw [List.mem_singleton.mp ht]
        exact Nat.lt_succ_self _
    case running =>
      intro t ht ticket work hj
      rcases List.mem_append.mp ht with ht | ht
      · exact hT.running t ht ticket work hj
      · cases List.mem_singleton.mp ht
        obtain ⟨rfl, hnew⟩ := hjob ticket work hj
        refine ⟨rfl, ⟨_, hT.fresh e.spawned _ (Nat.le_refl _), .fresh⟩, ?_⟩
        -- the load is new, so there was no point before at which a task could have run it
        exact fun before ev after hrun hlt => absurd hlt (Nat.not_lt.mpr (hnew before ev after hrun))
    case driven =>
      intro c hc n hn
      obtain ⟨hlt, hno⟩ := hT.driven c hc n hn
      refine ⟨Nat.lt_succ_of_lt hlt, fun t ht heq => ?_⟩
      rcases List.mem_append.mp ht with ht | ht
      · exact hno t ht heq
      · cases List.mem_singleton.mp ht
        exact absurd heq (Nat.ne_of_gt hlt)
  rw [Engine.spawn]
  split
  · exact hadded.drop ‹_› _
  · exact hadded.rests ⟨rfl, rfl, ⟨_, rfl⟩, rfl, rfl, rfl, rfl, .refl _ _, rfl, rfl⟩

theorem Traced.startCleaner (hT : Traced first run h e) : Traced first run h e.startCleaner := by
  refine hT.spawn ?_
  intro ticket work hj
  cases hj

theorem spawned_spawn (e : Engine α) (job : Job α) : (e.spawn job).spawned = e.spawned + 1 := by
  refine (congrArg CacheSide.spawned (e.cacheSide_spawn job)).trans ?_
  split
  · split <;> rfl
  · rfl

/-- A task that has just been spawned runs no load if it was not spawned for one. -/
theorem Traced.ticket?_of_spawned (hT : Traced first run h e) {job : Job α}
    (hjob : job.ticket? = none) (ht : t ∈ (e.spawn job).tasks) (hn : t.number = e.spawned) :
    t.job.ticket? = none := by
  have hmem : (t.number, t.job.ticket?) ∈ e.cacheSide.tasks ++ [(e.spawned, none)] := by
    have hmem := mem_cacheSide ht
    rw [cacheSide_spawn, hjob] at hmem
    split at hmem
    · exact (List.mem_filter.mp hmem).1
    · exact hmem
  rcases List.mem_append.mp hmem with hold | hnew
  · obtain ⟨t₀, ht₀, heq⟩ := List.mem_map.mp hold
    have hlt := hT.spawned t₀ ht₀
    rw [show t₀.number = e.spawned from (congrArg Prod.fst heq).trans hn] at hlt
    exact absurd hlt (Nat.lt_irrefl _)
  · exact congrArg Prod.snd (List.mem_singleton.mp hnew)

/-- A new future with a task that runs no load. -/
theorem Traced.spawnFuture (hT : Traced first run h e) {job : Nat → Job α}
    (hjob : ∀ future, (job future).ticket? = none) :
    Traced first run h (e.spawnFuture job).1 := by
  have hadded : Traced first run h (e.addFuture .pending).1 := hT.addFuture rfl
  have hnone := hjob e.futures.length
  have hspawned : Traced first run h
      ((e.addFuture .pending).1.spawn (job e.futures.length)) := by
    refine hadded.spawn fun ticket work hj => ?_
    rw [hj] at hnone
    cases hnone
  have hnumber : ((e.addFuture .pending).1.spawn (job e.futures.length)).spawned
      = e.spawned + 1 := spawned_spawn _ _
  show Traced first run h (((e.addFuture .pending).1.spawn (job e.futures.length)).attach
    e.futures.length e.spawned)
  rw [attach]
  split
  · exact hspawned
  · rename_i c hc
    refine hspawned.withFutures fun x hx n hn => ?_
    rcases List.mem_or_eq_of_mem_set hx with hold | rfl
    · exact Or.inl ⟨x, hold, hn⟩
    · rw [Completion.attach] at hn
      split at hn
      · cases hn
        refine Or.inr ⟨hnumber ▸ Nat.lt_succ_self _, fun t ht heq => ?_⟩
        exact hadded.ticket?_of_spawned hnone ht heq
      · exact Or.inl ⟨c, List.mem_of_getElem? hc, hn⟩

/-- A load that the cache starts has the next number. -/
theorem load_of_started (hf : e.cacheSide.Follows h) (ho : h.Orderly) (hs : h.view.Sound)
    {ticket : Ticket} (hstarted : (e.cache.get e.ledger.elapsed r).2.started = some ticket) :
    ticket.load = e.loads.length := by
  have hcache : e.cache = h.cache := hf.cache
  have hnow : e.ledger.elapsed = h.now := hf.now
  rw [hcache, hnow] at hstarted
  rw [length_loads hf]
  exact History.load_of_started (History.sound_steps ho hs [.get r]) hstarted

/-- Asking the cache, which calls the loader for a load that it starts. -/
theorem Traced.lookup (hT : Traced first run h e) {r : Request}
    (hnext : ∀ ticket, (e.cache.get e.ledger.elapsed r).2.started = some ticket →
      ticket.load = e.loads.length) : Traced first run h (e.lookup r).1 := by
  have htold := hT.rests ((e.rests_of_cache (e.cache.get e.ledger.elapsed r).1).trans
    (rests_tellAll _ none (e.cache.get e.ledger.elapsed r).2.told))
  rw [Engine.lookup]
  dsimp only
  split
  · exact htold
  · rename_i ticket hstarted
    have hadded : Traced first run h { e with
        cache := (e.cache.get e.ledger.elapsed r).1
        ledger := e.ledger.tellAll none (e.cache.get e.ledger.elapsed r).2.told
        loads := e.loads ++ [.running []] } := by
      refine { htold with grown := ?grown, ended := ?ended }
      case grown =>
        intro before ev after hrun
        rw [List.length_append]
        exact Nat.le_add_right_of_le (hT.grown before ev after hrun)
      case ended =>
        intro load outcome f hl hflight
        refine htold.ended load outcome f ?_ hflight
        -- the new load has not ended
        by_cases hlt : load < e.loads.length
        · rwa [List.getElem?_append_left hlt] at hl
        · rw [List.getElem?_append_right (Nat.le_of_not_lt hlt)] at hl
          cases List.mem_singleton.mp (List.mem_of_getElem? hl)
    refine hadded.spawn fun ticket' work hj => ?_
    cases hj
    refine ⟨by rw [Cache.request_started hstarted, hT.loader], fun before ev after hrun => ?_⟩
    rw [hnext ticket hstarted]
    exact hT.grown before ev after hrun

theorem Traced.criticalExecuteWith (hT : Traced first run h e) (r : Request)
    (handler : Handler α) : Traced first run h (e.criticalExecuteWith r handler).1 := by
  rw [Engine.criticalExecuteWith]
  split
  · exact hT.addFuture rfl
  · exact hT.spawnFuture fun _ => rfl

theorem Traced.execute (hT : Traced first run h e) {r : Request}
    (hnext : ∀ ticket, (e.cache.get e.ledger.elapsed r).2.started = some ticket →
      ticket.load = e.loads.length) : Traced first run h (e.execute r).1 := by
  rw [Engine.execute]
  split
  · exact hT.addFuture rfl
  · split
    · exact hT.criticalExecuteWith r _
    · have htold := hT.rests (e.rests_tell none (.throughCache r.urlText))
      exact (htold.lookup hnext).spawnFuture fun _ => rfl

/-- A future is cancelled, and with it its task, which runs no load. -/
theorem Traced.cancel (hT : Traced first run h e) (future : Nat) :
    Traced first run h (e.cancel future).1 := by
  by_cases hpending : ∃ c, e.futures[future]? = some c ∧ c.state = .pending
  · obtain ⟨c, hf, hc⟩ := hpending
    have hset : Traced first run h (e.setFuture future ⟨.cancelled, none, none⟩) :=
      hT.setFuture hf nofun
    have hcancelled : Traced first run h { e with
        futures := e.futures.set future ⟨.cancelled, none, none⟩
        tasks := e.tasks.map fun u =>
          if c.task = some u.number then { u with aborted := true } else u } := by
      refine { hset with spawned := fun t ht => ?_, running := fun t ht ticket work hj => ?_,
                         driven := fun x hx n hn => ?_ }
      · obtain ⟨u, hu, hnumber, -⟩ := mem_cancelled ht
        rw [hnumber]
        exact hT.spawned u hu
      · obtain ⟨u, hu, -, hjob, -, hcase⟩ := mem_cancelled ht
        rcases hcase with ⟨htask, -⟩ | ⟨-, rfl⟩
        · -- the task of a future runs no load, so it is none of these that is to be dropped
          have hnone := (hT.driven c (List.mem_of_getElem? hf) _ htask).2 u hu rfl
          rw [← hjob, hj] at hnone
          cases hnone
        · exact hT.running t hu ticket work hj
      · obtain ⟨hlt, hno⟩ := hset.driven x hx n hn
        refine ⟨hlt, fun t ht heq => ?_⟩
        obtain ⟨u, hu, hnumber, hjob, -⟩ := mem_cancelled ht
        rw [hjob]
        exact hno u hu (hnumber.symm.trans heq)
    exact hcancelled.rests (e.rests_cancel hf hc).2.1
  · rw [e.cancel_of_done fun c hf hc => hpending ⟨c, hf, hc⟩]
    exact hT

/-- Asking a future for its result leaves it its task. -/
theorem task_poll (c : Completion α) (waker : Nat) : (c.poll waker).1.task = c.task := by
  obtain ⟨state, waker', task⟩ := c
  cases state <;> rfl

theorem task_waitTimeout (c : Completion α) : c.waitTimeout.1.task = c.task := by
  obtain ⟨state, waker, task⟩ := c
  cases state <;> rfl

theorem Traced.pollFuture (hT : Traced first run h e) (future waker : Nat) :
    Traced first run h (e.pollFuture future waker).1 := by
  rw [Engine.pollFuture]
  split
  · exact hT
  · rename_i c hc
    exact hT.setFuture hc fun n hn => (task_poll c waker).symm.trans hn

theorem Traced.waitFuture (hT : Traced first run h e) (future : Nat) :
    Traced first run h (e.waitFuture future).1 := by
  rw [Engine.waitFuture]
  split
  · exact hT
  · rename_i c hc
    exact hT.setFuture hc fun n hn => (task_waitTimeout c).symm.trans hn

theorem Traced.close (hT : Traced first run h e) : Traced first run h e.close := by
  cases ho : e.ledger.closed with
  | false =>
      have hclosed : Traced first run h { e with
          ledger := Ledger.mark { e.ledger with closed := true, pool := e.ledger.pool.close.1 }
            none .transportClosed } := { hT with }
      exact hclosed.rests (e.rests_close ho).1
  | true =>
      rw [e.close_of_closed ho]
      exact hT

/-- All tasks are dropped, and no task can run any more. -/
theorem Traced.shutdown (hT : Traced first run h e) (hrun : EngineEvent.shutdown ∈ run) :
    Traced first run h e.shutdown := by
  have hdropAll : ∀ (tasks : List (Task α)) (e : Engine α), Traced first run h e →
      e.stopped = true → Traced first run h (tasks.foldl (fun e t => e.drop t) e) := by
    intro tasks
    induction tasks with
    | nil => exact fun e hT _ => hT
    | cons t rest ih => exact fun e hT hs => ih (e.drop t) (hT.drop hs t) (stopped_drop hs t)
  exact hdropAll e.tasks { e with stopped := true } { hT with halted := fun _ => hrun } rfl

/-! ## Turns -/

section Turns

variable {events : List CacheEvent} {l : Ledger} {job : Job α} {loads : List LoadState}
  {remains : Remains α} {n : Nat}

/-- A task that does not have its turn is led nowhere by it. -/
theorem Traced.running_other (hT : Traced first run h (first.steps run))
    (ht : t ∈ (first.steps run).tasks)
    (hne : n = t.number → t.number ∉ (first.steps run).ready) {ticket : Ticket}
    {work : Program (Outcome Response × Duration)} (hj : t.job = .load ticket work) :
    t.aborted = false ∧ OnCall first (run ++ [.turn n]) t.number ticket work := by
  obtain ⟨ha, hcall⟩ := hT.running t ht ticket work hj
  exact ⟨ha, hcall.rest ht hj fun heq => hne (EngineEvent.turn.inj heq)⟩

/-- A task that goes on is led on. -/
theorem Traced.running_stays (hT : Traced first run h (first.steps run))
    (ht : t ∈ (first.steps run).tasks) (hr : t.number ∈ (first.steps run).ready)
    {ticket : Ticket} {next : Program (Outcome Response × Duration)}
    (hs : Stays (first.steps run) t l (.load ticket next) loads) :
    OnCall first (run ++ [.turn t.number]) t.number ticket next := by
  cases hs with
  | load hj hrun hnext =>
      obtain ⟨-, hcall⟩ := hT.running t ht _ _ hj
      obtain ⟨p, hled, -, hstops⟩ := hcall.stops ((first.steps run).begunLedger t)
      rw [hrun] at hstops
      obtain ⟨q, hq, htimed'⟩ := hstops.of_rest hnext
      exact ⟨⟨q, hled.turn ht rfl hr rfl hq, htimed'⟩, hcall.since_append ht hj _⟩

/-- A task that ends with its load has come to what the loader call came to. -/
theorem Traced.ended_ends (hT : Traced first run h (first.steps run))
    (ht : t ∈ (first.steps run).tasks) (hr : t.number ∈ (first.steps run).ready)
    (he : Ends (first.steps run) t l (.load load outcome)) :
    ∃ ticket work, t.job = .load ticket work ∧ ticket.load = load ∧
      CameTo first (run ++ [.turn t.number]) load ticket.request outcome := by
  cases he with
  | droppedLoad ha hj => cases ha.symm.trans (hT.running t ht _ _ hj).1
  | @loaded ticket work l value ha hj hrun =>
      have hcall := (hT.running t ht _ _ hj).2
      obtain ⟨p, hled, htimed, hstops⟩ := hcall.stops ((first.steps run).begunLedger t)
      rw [hrun] at hstops
      exact ⟨ticket, work, hj, rfl, .call (.gave rfl ⟨ht, hr, ⟨_, _, hj, rfl, rfl, hcall, htimed⟩,
        hled, hstops.of_done⟩)⟩
  | @loadPanicked ticket work l text ha hj hrun =>
      have hcall := (hT.running t ht _ _ hj).2
      obtain ⟨p, hled, htimed, hstops⟩ := hcall.stops ((first.steps run).begunLedger t)
      rw [hrun] at hstops
      exact ⟨ticket, work, hj, rfl, .call (.panicked rfl ⟨ht, hr, ⟨_, _, hj, rfl, rfl, hcall,
        htimed⟩, hled, hstops.of_panicked⟩)⟩

/-- A task that goes on ends no load. -/
theorem ended_of_stays (hs : Stays e t l job loads)
    (hl : loads[load]? = some (.ended outcome)) : e.loads[load]? = some (.ended outcome) := by
  cases hs with
  | drive hj => exact hl
  | load hj => exact hl
  | lost hj => exact hl
  | clean hj => exact hl
  | @deliver future other waiting hj hother =>
      by_cases heq : other = load
      · subst heq
        rw [List.getElem?_set_self (List.getElem?_eq_some_iff.mp hother).1] at hl
        cases hl
      · rwa [List.getElem?_set_ne heq] at hl

theorem length_of_stays (hs : Stays e t l job loads) : loads.length = e.loads.length := by
  cases hs with
  | deliver hj hother => exact List.length_set
  | drive | load | lost | clean => rfl

/-- The turn of a task that goes on. -/
theorem Traced.stay (hT : Traced first run h (first.steps run))
    (hf : (first.steps run).cacheSide.Follows h) (ho : h.Orderly)
    (hfresh : ∀ n (p : Program (Outcome Response)), (first.steps run).spawned ≤ n →
      Led first n p (run ++ [.turn t.number]) p) (ht : t ∈ (first.steps run).tasks)
    (hr : t.number ∈ (first.steps run).ready) (ha : t.aborted = false)
    (hs : Stays (first.steps run) t l job loads) :
    Traced first (run ++ [.turn t.number]) (h.steps events)
      ((first.steps run).goneOn t l job loads) := by
  refine
    { loader := hT.loader
      halted := fun hs => List.mem_append_left _ (hT.halted hs)
      spawned := ?spawned
      fresh := hfresh
      running := ?running
      grown := hT.grown_later (Nat.le_of_eq (length_of_stays hs).symm) _
      ended := fun _ _ _ hl hflight => hT.ended_later hf ho _ (ended_of_stays hs hl) hflight
      driven := ?driven }
  case spawned =>
    intro u hu
    rcases mem_goneOn hu with rfl | ⟨hu, -⟩
    · exact hT.spawned t ht
    · exact hT.spawned u hu
  case running =>
    intro u hu ticket work hj
    rcases mem_goneOn hu with rfl | ⟨hu, hne⟩
    · cases hj
      exact ⟨ha, hT.running_stays ht hr hs⟩
    · -- the others do not have their turn, and stay where the run has led them
      exact hT.running_other hu (fun heq => absurd heq.symm hne) hj
  case driven =>
    intro c hc n hn
    obtain ⟨hlt, hno⟩ := hT.driven c hc n hn
    refine ⟨hlt, fun u hu heq => ?_⟩
    rcases mem_goneOn hu with rfl | ⟨hu, -⟩
    · -- a task that goes on with a load ran it before, and then no future had this task
      have hnone := hno t ht heq
      cases hs with
      | load hj =>
          rw [hj] at hnone
          cases hnone
      | drive | deliver | lost | clean => rfl
    · exact hno u hu heq

theorem length_of_remains (remains : Remains α) (loads : List LoadState) :
    (remains.loads loads).length = loads.length := by
  cases remains with
  | load load outcome => exact List.length_set
  | future | nothing => rfl

/-- The turn in which a task ends. -/
theorem Traced.leave (hT : Traced first run h (first.steps run))
    (hf : (first.steps run).cacheSide.Follows h) (ho : h.Orderly)
    (hfresh : ∀ n (p : Program (Outcome Response)), (first.steps run).spawned ≤ n →
      Led first n p (run ++ [.turn t.number]) p) (ht : t ∈ (first.steps run).tasks)
    (hr : t.number ∈ (first.steps run).ready) (he : Ends (first.steps run) t l remains) :
    Traced first (run ++ [.turn t.number]) (h.steps events) { (first.steps run).called t.number with
      ledger := { l with pool := (l.pool.leave t.number).1 }
      tasks := (first.steps run).tasks.filter (·.number != t.number)
      futures := remains.futures (first.steps run).futures
      loads := remains.loads (first.steps run).loads } := by
  have hold : ∀ {u : Task α}, u ∈ (first.steps run).tasks.filter (·.number != t.number) →
      u ∈ (first.steps run).tasks := fun hu => (mem_left.mp hu).1
  refine
    { loader := hT.loader
      halted := fun hs => List.mem_append_left _ (hT.halted hs)
      spawned := fun u hu => hT.spawned u (hold hu)
      fresh := hfresh
      running := ?running
      grown := hT.grown_later (Nat.le_of_eq (length_of_remains remains _).symm) _
      ended := ?ended
      driven := ?driven }
  case running =>
    intro u hu ticket work hj
    exact hT.running_other (hold hu) (fun heq => absurd heq.symm (mem_left.mp hu).2) hj
  case ended =>
    intro load outcome f hl hflight
    cases remains with
    | future future result => exact hT.ended_later hf ho _ hl hflight
    | nothing => exact hT.ended_later hf ho _ hl hflight
    | load other outcome' =>
        change ((first.steps run).loads.set other _)[load]? = _ at hl
        by_cases heq : other = load
        · subst heq
          rw [List.getElem?_set_self (by simpa using (List.getElem?_eq_some_iff.mp hl).1)] at hl
          cases hl
          obtain ⟨ticket, work, hj, rfl, hcame⟩ := hT.ended_ends ht hr he
          -- the load is that of the flight, so the call was made for the same request
          have hmem := mem_cacheSide ht
          rw [hj] at hmem
          obtain ⟨f₀, hf₀, hticket, -⟩ := hf.running t.number ticket hmem
          obtain ⟨f', hf', hticket', -⟩ := History.flown_steps ho events hf₀
          cases hf'.symm.trans hflight
          rw [hticket', hticket]
          exact hcame
        · rw [List.getElem?_set_ne heq] at hl
          exact hT.ended_later hf ho _ hl hflight
  case driven =>
    intro c hc n hn
    obtain ⟨c₀, hc₀, hn₀⟩ := futures_of_remains remains hc hn
    obtain ⟨hlt, hno⟩ := hT.driven c₀ hc₀ n hn₀
    exact ⟨hlt, fun u hu => hno u (hold hu)⟩

/-- **A TURN KEEPS TRACK OF THE LOADS.** -/
theorem Traced.turn (hT : Traced first run h (first.steps run))
    (hf : (first.steps run).cacheSide.Follows h) (ho : h.Orderly) (n : Nat) :
    Traced first (run ++ [.turn n]) (h.steps events) ((first.steps run).turn n) := by
  have hturn := turn_step (numbers_nodup hf) n
  generalize he' : (first.steps run).turn n = e' at hturn
  have hsteps : first.steps (run ++ [.turn n]) = e' :=
    (steps_append first run [.turn n]).trans he'
  have hfresh : e'.spawned = (first.steps run).spawned →
      ∀ m (p : Program (Outcome Response)), (first.steps run).spawned ≤ m →
        Led first m p (run ++ [.turn n]) p := by
    intro heq m p hm
    exact .given (by rw [hsteps, heq]; exact hm)
  -- nothing happens in a turn that no task has
  have hsame : (∀ u ∈ (first.steps run).tasks, n = u.number → u.number ∉ (first.steps run).ready) →
      e'.spawned = (first.steps run).spawned →
      Traced first (run ++ [.turn n]) (h.steps events) (first.steps run) := fun hne heq =>
    { hT with
      halted := fun hs => List.mem_append_left _ (hT.halted hs)
      fresh := hfresh heq
      running := fun u hu _ _ hj => hT.running_other hu (hne u hu) hj
      grown := hT.grown_later (Nat.le_refl _) _
      ended := fun _ _ _ hl hflight => hT.ended_later hf ho _ hl hflight }
  cases hturn with
  | idle hr => exact hsame (fun u _ heq => heq ▸ hr) rfl
  | skip hr hn hrests =>
      have hskipped : Traced first (run ++ [.turn n]) (h.steps events) (first.steps run) :=
        hsame (fun u hu heq => absurd ⟨u, hu, heq.symm⟩ hn) hrests.spawned
      exact Traced.rests (e := (first.steps run).called n) { hskipped with } hrests
  | stay hn hr ht ha hs hrests =>
      subst hn
      exact (hT.stay hf ho (hfresh hrests.spawned) ht hr ha hs).rests hrests
  | leave hn hr ht he hrests hwoken =>
      subst hn
      exact (hT.leave hf ho (hfresh hrests.spawned) ht hr he).rests hrests

end Turns

/-- **EVERY EVENT KEEPS TRACK OF THE LOADS.** -/
theorem Traced.step (hT : Traced first run h (first.steps run))
    (hf : (first.steps run).cacheSide.Follows h) (ho : h.Orderly) (hs : h.view.Sound)
    (ev : EngineEvent α) (events : List CacheEvent) :
    Traced first (run ++ [ev]) (h.steps events) (first.steps (run ++ [ev])) := by
  rw [steps_append]
  have hbegins : ev.isTurn = false →
      Traced first (run ++ [ev]) (h.steps events) (first.steps run) := hT.begins hf ho events
  cases ev with
  | turn n => exact hT.turn hf ho n
  | tick => exact (hbegins rfl).rests (rests_tick _)
  | startCleaner => exact (hbegins rfl).startCleaner
  | stopCleaner => exact (hbegins rfl).rests (rests_stopCleaner _)
  | execute r => exact (hbegins rfl).execute fun _ => load_of_started hf ho hs
  | criticalExecuteWith r handler => exact (hbegins rfl).criticalExecuteWith r handler
  | drive work => exact (hbegins rfl).spawnFuture fun _ => rfl
  | decide result => exact (hbegins rfl).addFuture rfl
  | lookup r => exact (hbegins rfl).lookup fun _ => load_of_started hf ho hs
  | cancel future => exact (hbegins rfl).cancel future
  | pollFuture future waker => exact (hbegins rfl).pollFuture future waker
  | waitFuture future => exact (hbegins rfl).waitFuture future
  | invalidate r => exact (hbegins rfl).rests (rests_of_cache _ _)
  | invalidateAll => exact (hbegins rfl).rests (rests_of_cache _ _)
  | cleanup => exact (hbegins rfl).rests (rests_of_cache _ _)
  | close => exact (hbegins rfl).close
  | shutdown => exact (hbegins rfl).shutdown (List.mem_append_right _ List.mem_cons_self)

end Engine

end Courier
