import Courier.Proofs.Engine.Cleaner

/-!
# The one cleaner — nobody else cleans up

A cache has one task that cleans it up.  As long as nobody asks for another there is no other
(`CleansAlone.step`), and whoever else has a turn leaves the cache alone, or hands it the outcome of
a load (`heeds_turn`).  Since the cleaner drives no future, no cancel ever reaches it
(`Manned.unowned`).
-/

namespace Courier

open Completion

variable {α : Type}

/-- Whether a job is to clean up. -/
def Job.cleans : Job α → Bool
  | .clean _ => true
  | _ => false

/-- Whether an event is one of a cache that has its cleaner, and of the client whose cache it is:
    nobody starts another cleaner. -/
def EngineEvent.isCache : EngineEvent α → Bool
  | .startCleaner => false
  | ev => ev.isClient

/-- Whether an event shuts the cache down, or closes the client whose cache it is.  A cache that is
    dropped is shut down. -/
def EngineEvent.shutsCache : EngineEvent α → Bool
  | .stopCleaner | .close => true
  | _ => false

/-- What a cache comes to that is left alone, or takes note of how a load ended. -/
inductive Cache.Heeds (now : Nat) (c : Cache) : Cache → Prop where
  | nothing : Heeds now c c
  | load (ticket : Ticket) (outcome : Outcome Response) (spent : Duration) :
      Heeds now c (c.finish now ticket outcome spent).1

namespace Engine

/-- Events of a cache that has its cleaner, and of its client. -/
abbrev OfCache (events : List (EngineEvent α)) : Prop :=
  ∀ ev ∈ events, ev.isCache = true

/-- Whatever a cache alone can be asked, a client can be asked. -/
theorem isClient_of_isCache {ev : EngineEvent α} (h : ev.isCache = true) : ev.isClient = true := by
  cases ev with
  | startCleaner => cases h
  | _ => exact h

/-! ## Whom a cancel reaches -/

/-- A future that is decided remembers nobody, whatever happens to it. -/
theorem bare_after {c : Completion α} (hb : c.state ≠ .pending → c.Bare)
    (events : List (FutureEvent α)) (h : (c.after events).state ≠ .pending) :
    (c.after events).Bare := by
  induction events generalizing c with
  | nil => exact hb h
  | cons ev rest ih => exact ih (bare_step hb ev) h

section Owned

variable {e : Engine α} {n future : Nat} {c : Completion α}

/-- The task that a future remembers drives it. -/
theorem Originates.task (h : Originates e future c) (hn : c.task = some n) :
    (n, some future) ∈ e.crew := by
  cases h with
  | decided result past hfree =>
      have hdone : (start (some result)).state ≠ .pending := nofun
      have hbare : ((start (some result)).after past).Bare :=
        bare_after (fun _ => ⟨rfl, rfl⟩) past (after_of_done hdone past).1
      cases hbare.2.symm.trans hn
  | @driven task past d told hruns hgiven hguarded htask hcrew =>
      have hnever := hruns.neverStuck
      have hpending : d.future.state = .pending := by
        by_contra hdone
        cases (hnever.bare hdone).2.symm.trans hn
      have hsame : task = n := Option.some.inj ((hnever.stored hgiven hpending).symm.trans hn)
      exact (hcrew n).mpr ⟨hsame.symm, (hnever.manned hpending).1⟩

/-- No future remembers a task that drives none. -/
theorem Manned.unowned (h : Manned e)
    (hidle : ∀ t ∈ e.tasks, t.number = n → t.job.future? = none) :
    ∀ c ∈ e.futures, c.task ≠ some n := by
  intro c hc hn
  obtain ⟨future, hfuture⟩ := List.getElem?_of_mem hc
  obtain ⟨t, ht, heq⟩ := List.mem_map.mp ((h.futures future c hfuture).task hn)
  have hnone := hidle t ht (congrArg Prod.fst heq)
  cases hnone.symm.trans (congrArg Prod.snd heq)

end Owned

/-! ## Who cleans up -/

/-- **NOBODY ELSE CLEANS UP.** -/
def CleansAlone (n : Nat) (e : Engine α) : Prop :=
  ∀ t ∈ e.tasks, t.job.cleans = true → t.number = n

section CleansAlone

variable {e e' : Engine α} {n : Nat}

/-- It depends on the tasks only. -/
theorem CleansAlone.of_tasks (h : CleansAlone n e) (htasks : e'.tasks = e.tasks) :
    CleansAlone n e' := by
  rw [CleansAlone, htasks]
  exact h

/-- No turn makes a cleaner of a task that is none. -/
theorem CleansAlone.turn (h : CleansAlone n e) {m : Nat} (ht : Turn e m e') :
    CleansAlone n e' := by
  cases ht with
  | idle hr => exact h
  | skip hr hn hrests => exact h.of_tasks hrests.tasks
  | @stay t l job loads e' hn hr ht ha hs hrests =>
      intro u hu hu'
      rw [hrests.tasks] at hu
      rcases mem_goneOn hu with rfl | ⟨hold, -⟩
      · -- whoever cleans up after its turn did so before
        cases hs with
        | clean hj => exact h t ht (by rw [hj]; rfl)
        | drive | load | deliver | lost => cases hu'
      · exact h u hold hu'
  | leave hn hr ht he hrests hwoken =>
      intro u hu
      rw [hrests.tasks] at hu
      exact h u (List.mem_filter.mp hu).1

variable (h : CleansAlone n e)

include h

/-- To cancel a task does not change its job. -/
theorem CleansAlone.cancel (future : Nat) : CleansAlone n (e.cancel future).1 := by
  by_cases hp : ∃ c, e.futures[future]? = some c ∧ c.state = .pending
  · obtain ⟨c, hf, hc⟩ := hp
    obtain ⟨-, hrests, -⟩ := e.rests_cancel hf hc
    intro u hu hclean
    rw [hrests.tasks] at hu
    obtain ⟨v, hv, hnumber, hjob, -⟩ := mem_cancelled hu
    rw [hnumber]
    exact h v hv (hjob ▸ hclean)
  · rw [e.cancel_of_done fun c hf hc => hp ⟨c, hf, hc⟩]
    exact h

variable (hs : e.stopped = false)

/-- A task that is spawned to do something else does not clean up. -/
theorem CleansAlone.joined {job : Job α} (hj : job.cleans = false)
    (htasks : e'.tasks = e.tasks ++ [⟨e.spawned, job, false, false⟩]) : CleansAlone n e' := by
  intro t ht hclean
  rw [htasks] at ht
  rcases List.mem_append.mp ht with hold | hnew
  · exact h t hold hclean
  · rw [List.mem_singleton.mp hnew] at hclean
    cases hj.symm.trans hclean

include hs

/-- A task for a future is no cleaner. -/
theorem CleansAlone.spawnFuture {job : Nat → Job α} (hj : ∀ future, (job future).cleans = false) :
    CleansAlone n (e.spawnFuture job).1 := by
  rw [e.spawnFuture_eq hs]
  exact h.joined (hj _) rfl

/-- A lookup spawns no cleaner. -/
theorem CleansAlone.lookup (request : Request) : CleansAlone n (e.lookup request).1 := by
  rw [Engine.lookup]
  dsimp only
  split
  · exact h.of_tasks rfl
  · rename_i ticket _
    have hload : (.load ticket (e.loader request).timed : Job α).cleans = false := rfl
    rw [spawn_eq _ (by exact hs)]
    exact h.joined hload rfl

/-- A critical call spawns none. -/
theorem CleansAlone.criticalExecuteWith (request : Request) (handler : Handler α) :
    CleansAlone n (e.criticalExecuteWith request handler).1 := by
  rw [Engine.criticalExecuteWith]
  split
  · exact h.of_tasks rfl
  · exact h.spawnFuture hs fun _ => rfl

/-- No other call does. -/
theorem CleansAlone.execute (request : Request) : CleansAlone n (e.execute request).1 := by
  rw [Engine.execute]
  split
  · exact h.of_tasks rfl
  · split
    · exact h.criticalExecuteWith hs request _
    · have htold : CleansAlone n (e.tell none (.throughCache request.urlText)) := h.of_tasks rfl
      have hacts := acts_lookup (e.tell none (.throughCache request.urlText)) hs request
      exact (htold.lookup hs request).spawnFuture (hacts.stopped.trans hs) fun _ => rfl

/-- **NOBODY ELSE COMES TO CLEAN UP** as long as nobody starts another cleaner. -/
theorem CleansAlone.step (hn : (e.tasks.map Task.number).Nodup) {ev : EngineEvent α}
    (hev : ev.isCache = true) : CleansAlone n (e.step ev) := by
  cases ev with
  | turn m => exact h.turn (turn_step hn m)
  | tick => exact h.of_tasks e.rests_tick.tasks
  | startCleaner => cases hev
  | stopCleaner => exact h.of_tasks e.rests_stopCleaner.tasks
  | execute request => exact h.execute hs request
  | criticalExecuteWith request handler => exact h.criticalExecuteWith hs request handler
  | drive work => cases hev
  | decide result => exact h.of_tasks rfl
  | lookup request => exact h.lookup hs request
  | cancel future => exact h.cancel future
  | pollFuture future waker =>
      refine h.of_tasks ?_
      rw [Engine.step, Engine.pollFuture]
      split <;> rfl
  | waitFuture future =>
      refine h.of_tasks ?_
      rw [Engine.step, Engine.waitFuture]
      split <;> rfl
  | invalidate request => exact h.of_tasks rfl
  | invalidateAll => exact h.of_tasks rfl
  | cleanup => exact h.of_tasks rfl
  | close =>
      cases ho : e.ledger.closed with
      | true => exact h.of_tasks (congrArg Engine.tasks (e.close_of_closed ho))
      | false => exact h.of_tasks (e.rests_close ho).1.tasks
  | shutdown => cases hev

end CleansAlone

/-! ## What others do to the cache -/

section Heeds

variable {e : Engine α} {t : Task α}

/-- To drop a task leaves the cache alone. -/
theorem cache_drop (e : Engine α) (t : Task α) : (e.drop t).cache = e.cache := by
  have hside := congrArg CacheSide.cache (e.cacheSide_drop t)
  cases hticket : t.job.ticket? with
  | none =>
      rw [hticket] at hside
      exact hside
  | some ticket =>
      rw [hticket] at hside
      exact hside

/-- A task that runs a load hands the cache its outcome if it gives one. -/
theorem heeds_load (e : Engine α) (n : Nat) (ticket : Ticket)
    (work : Program (Outcome Response × Duration)) : e.cache.Heeds e.ledger.elapsed
      (e.resume n work (.load ticket) (fun x value => x.finishLoad n ticket value)
        fun x text => x.endLoad ticket.load (.error (.taskFailed (.panickedWith text)))).cache := by
  refine resume_cases (P := fun x => e.cache.Heeds e.ledger.elapsed x.cache) e n work _ _ _ ?_ ?_ ?_
  · intro x value hside
    have hfinish := congrArg CacheSide.cache (x.cacheSide_finishLoad n ticket value)
    rw [hside] at hfinish
    rw [show (x.finishLoad n ticket value).cache = _ from hfinish]
    exact .load ticket value.1 value.2
  · intro x text hside
    have hend : (x.endLoad ticket.load (.error (.taskFailed (.panickedWith text)))).cache
        = e.cache := (congrArg CacheSide.cache (x.cacheSide_endLoad ticket.load _)).trans
          (congrArg CacheSide.cache hside)
    rw [hend]
    exact .nothing
  · intro x next hside
    rw [show x.cache = e.cache from congrArg CacheSide.cache hside]
    exact .nothing

/-- To hand a response on leaves the cache alone. -/
theorem cache_deliver (e : Engine α) (n future load : Nat) :
    (e.deliver n future load).cache = e.cache := by
  have hside := e.cacheSide_deliver n future load
  split at hside
  · exact congrArg CacheSide.cache hside
  · exact congrArg CacheSide.cache hside

/-- Whoever has a turn, and does not clean up, leaves the cache alone or hands it an outcome. -/
theorem heeds_poll (e : Engine α) (hj : t.job.cleans = false) :
    e.cache.Heeds e.ledger.elapsed (e.poll t).cache := by
  cases hjob : t.job with
  | drive future work =>
      rw [cache_poll hjob]
      exact .nothing
  | deliver future load =>
      rw [poll]
      split
      · rw [cache_drop]
        exact .nothing
      · rw [runJob, hjob, ← (begin_same e t).1]
        dsimp only
        rw [cache_deliver]
        exact .nothing
  | load ticket work =>
      rw [poll]
      split
      · rw [cache_drop]
        exact .nothing
      · have hload := (e.begin t).heeds_load t.number ticket work
        rw [(begin_same e t).1, (begin_same e t).2] at hload
        rw [runJob, hjob]
        exact hload
  | clean due =>
      rw [hjob] at hj
      cases hj

/-- **WHO DOES NOT CLEAN UP** leaves the cache alone in its turn, or hands it the outcome of a
    load. -/
theorem heeds_turn {n m : Nat} (h : CleansAlone n e) (hm : m ≠ n) :
    e.cache.Heeds e.ledger.elapsed (e.turn m).cache := by
  rw [turn]
  split
  · split
    · exact .nothing
    · rename_i t hfind
      have ht : t ∈ e.tasks := List.mem_of_find?_eq_some hfind
      have hnumber : t.number = m :=
        beq_iff_eq.mp (List.find?_some (p := fun u : Task α => u.number == m) hfind)
      have hj : t.job.cleans = false := by
        rw [← Bool.not_eq_true]
        exact fun hclean => hm (hnumber.symm.trans (h t ht hclean))
      exact heeds_poll (e.called m) hj
  · exact .nothing

end Heeds

end Engine

end Courier
