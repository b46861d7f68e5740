import Courier.Proofs.Cache.Answers
import Courier.Proofs.Engine.CacheSide
import Courier.Proofs.Engine.Runs

/-!
# Histories of engines — whatever an engine does, its cache has a history

The histories of a cache leave it open when loads end, and how.  An engine decides both, by running
tasks in turns.  Here the two are tied together: after any number of turns, ticks and calls, the
cache side of an engine is that of a history (`Follows`), in which the loads that have not ended are
those that have tasks, each its own.  What holds of all histories therefore holds of the cache of
every engine, whatever its parts do.
-/

namespace Courier

variable {α β : Type}

/-- The outcome of a load for those who wait for it, once it has ended. -/
def Flight.outcome? (f : Flight) : Option (Outcome Response) :=
  f.landing.map fun l => l.how.outcome

namespace History

variable {h : History} {r : Request} {ticket : Ticket}

/-- A load that is started joins the others. -/
theorem flights_get_of_started (hstarted : (h.cache.get h.now r).2.started = some ticket) :
    (h.get r).flights = h.flights ++ [Flight.begin h.now ticket] := by
  rw [get, hstarted]
  rfl

theorem flight?_of_started (hstarted : (h.cache.get h.now r).2.started = some ticket) :
    (h.get r).flight? h.flights.length = some (Flight.begin h.now ticket) := by
  rw [flight?, flights_get_of_started hstarted]
  exact List.getElem?_concat_length

/-- It has the next number. -/
theorem load_of_started (hs : (h.get r).view.Sound)
    (hstarted : (h.cache.get h.now r).2.started = some ticket) : ticket.load = h.flights.length :=
  hs.logged.number _ _ (flight?_of_started hstarted)

end History

namespace CacheSide

/-- The cache side of an engine keeps track of a history: cache, clock and loads are those of the
    history, and a task that runs a load runs one that has not ended, and runs it alone. -/
structure Tracks (s : CacheSide) (h : History) : Prop where
  cache : s.cache = h.cache
  now : s.elapsed = h.now
  loads : s.loads = h.flights.map Flight.outcome?
  numbers : (s.tasks.map Prod.fst).Nodup
  spawned : ∀ t ∈ s.tasks, t.1 < s.spawned
  running : ∀ n ticket, (n, some ticket) ∈ s.tasks →
    ∃ f, h.flight? ticket.load = some f ∧ f.ticket = ticket ∧ f.landing = none
  alone : ∀ n n' t t', (n, some t) ∈ s.tasks → (n', some t') ∈ s.tasks → t.load = t'.load →
    n = n'

/-- **THE CACHE SIDE OF AN ENGINE FOLLOWS A HISTORY**: it keeps track of it, and a load that has not
    ended has a task that runs it. -/
structure Follows (s : CacheSide) (h : History) : Prop extends Tracks s h where
  manned : ∀ load, s.loads[load]? = some none →
    ∃ n ticket, (n, some ticket) ∈ s.tasks ∧ ticket.load = load

variable {s : CacheSide} {h : History} {n load : Nat} {x : Option Ticket} {ticket : Ticket}
  {f : Flight}

/-- A number belongs to one task. -/
theorem Tracks.eq_of_number (hf : s.Tracks h) {t t' : Nat × Option Ticket} (ht : t ∈ s.tasks)
    (ht' : t' ∈ s.tasks) (hn : t.1 = t'.1) : t = t' := by
  have hpair := List.pairwise_map.mp hf.numbers
  exact List.Pairwise.forall_of_forall_of_flip (R := fun t t' => t.1 = t'.1 → t = t')
    (fun _ _ _ => rfl) (hpair.imp fun hne heq => absurd heq hne)
    (hpair.imp fun hne heq => absurd heq.symm hne) ht ht' hn

/-! ## Tasks come and go -/

theorem Tracks.retire (hf : s.Tracks h) (n : Nat) : (s.retire n).Tracks h := by
  have hsub : ∀ t ∈ (s.retire n).tasks, t ∈ s.tasks := fun t ht => (List.mem_filter.mp ht).1
  refine ⟨hf.cache, hf.now, hf.loads, ?_, ?_, ?_, ?_⟩
  · exact (List.filter_sublist.map Prod.fst).nodup hf.numbers
  · exact fun t ht => hf.spawned t (hsub t ht)
  · exact fun m ticket ht => hf.running m ticket (hsub _ ht)
  · exact fun m m' t t' ht ht' => hf.alone m m' t t' (hsub _ ht) (hsub _ ht')

/-- A load that has a task which stays keeps it. -/
theorem Follows.manned_retire (hf : s.Follows h) (hl : s.loads[load]? = some none)
    (hn : ∀ ticket, (n, some ticket) ∈ s.tasks → ticket.load ≠ load) :
    ∃ m ticket, (m, some ticket) ∈ (s.retire n).tasks ∧ ticket.load = load := by
  obtain ⟨m, ticket, hm, heq⟩ := hf.manned load hl
  refine ⟨m, ticket, List.mem_filter.mpr ⟨hm, bne_iff_ne.mpr ?_⟩, heq⟩
  rintro rfl
  exact hn ticket hm heq

/-- A task that runs no load is forgotten. -/
theorem Follows.retire (hf : s.Follows h) (hn : (n, none) ∈ s.tasks) :
    (s.retire n).Follows h := by
  refine ⟨hf.toTracks.retire n, fun load hl => hf.manned_retire hl fun ticket ht => ?_⟩
  cases hf.eq_of_number ht hn rfl

/-- A task that goes on with its load, or without one as before, is the task it was. -/
theorem Tracks.setJob (hf : s.Tracks h) (hx : (n, x) ∈ s.tasks) : s.setJob n x = s := by
  have hsame : s.tasks.map (fun t => if t.1 = n then (t.1, x) else t) = s.tasks := by
    refine (List.map_congr_left fun t ht => ?_).trans (List.map_id _)
    by_cases hn : t.1 = n
    · rw [if_pos hn, hf.eq_of_number ht hx hn]
      rfl
    · exact if_neg hn
  rw [CacheSide.setJob, hsame]

/-- A task may be spawned, for a load that runs and has no task yet. -/
theorem Tracks.spawn (hf : s.Tracks h)
    (hrun : ∀ ticket, x = some ticket →
      (∃ f, h.flight? ticket.load = some f ∧ f.ticket = ticket ∧ f.landing = none) ∧
      ∀ n t, (n, some t) ∈ s.tasks → t.load ≠ ticket.load) : (s.spawn x).Tracks h := by
  have hmem : ∀ t ∈ (s.spawn x).tasks, t ∈ s.tasks ∨ t = (s.spawned, x) := by
    intro t ht
    exact (List.mem_append.mp ht).imp id List.mem_singleton.mp
  refine ⟨hf.cache, hf.now, hf.loads, ?_, ?_, ?_, ?_⟩
  · show ((s.tasks ++ [(s.spawned, x)]).map Prod.fst).Nodup
    rw [List.map_append]
    refine List.nodup_append.mpr ⟨hf.numbers, List.nodup_cons.mpr
      ⟨List.not_mem_nil, List.nodup_nil⟩, ?_⟩
    intro a ha b hb hab
    obtain ⟨t, ht, rfl⟩ := List.mem_map.mp ha
    have hlt := hf.spawned t ht
    rw [hab, List.mem_singleton.mp hb] at hlt
    exact Nat.lt_irrefl _ hlt
  · intro t ht
    rcases hmem t ht with hold | rfl
    · exact Nat.lt_succ_of_lt (hf.spawned t hold)
    · exact Nat.lt_succ_self _
  · intro m ticket ht
    rcases hmem _ ht with hold | hnew
    · exact hf.running m ticket hold
    · exact (hrun ticket (congrArg Prod.snd hnew).symm).1
  · intro m m' t t' ht ht' hload
    rcases hmem _ ht with hold | hnew
    · rcases hmem _ ht' with hold' | hnew'
      · exact hf.alone m m' t t' hold hold' hload
      · have hx := (congrArg Prod.snd hnew').symm
        exact absurd hload ((hrun t' hx).2 m t hold)
    · rcases hmem _ ht' with hold' | hnew'
      · have hx := (congrArg Prod.snd hnew).symm
        exact absurd hload.symm ((hrun t hx).2 m' t' hold')
      · exact (congrArg Prod.fst hnew).trans (congrArg Prod.fst hnew').symm

/-- A task is spawned that runs no load. -/
theorem Follows.spawn (hf : s.Follows h) : (s.spawn none).Follows h := by
  refine ⟨hf.toTracks.spawn nofun, fun load hl => ?_⟩
  obtain ⟨n, ticket, ht, heq⟩ := hf.manned load hl
  exact ⟨n, ticket, List.mem_append_left _ ht, heq⟩

/-! ## Loads start and end -/

/-- A load ends whose task has been retired. -/
theorem Tracks.land (hf : s.Tracks h) (hl : h.flight? load = some f) (hr : f.landing = none)
    (hfree : ∀ n t, (n, some t) ∈ s.tasks → t.load ≠ load) (how : LoadEnd) :
    Tracks ({ s with cache := how.reach s.cache s.elapsed f.ticket }.endLoad load how.outcome)
      (h.step (.land load how)) := by
  show Tracks _ (h.land load how)
  rw [History.land_of_running how hl hr]
  refine ⟨?_, hf.now, ?_, hf.numbers, hf.spawned, ?_, hf.alone⟩
  · show how.reach s.cache s.elapsed f.ticket = how.reach h.cache h.now f.ticket
    rw [hf.cache, hf.now]
  · show s.loads.set load (some how.outcome) = (h.flights.set load (f.land h.now how)).map _
    rw [hf.loads, List.map_set]
    rfl
  · intro m ticket ht
    obtain ⟨f', hf', hticket, hrun⟩ := hf.running m ticket ht
    have hne := hfree m ticket ht
    exact ⟨f', CacheView.flights_land_of_ne (v := h.view) hne hf', hticket, hrun⟩

/-- The task of a load ends, and its load with it. -/
theorem Follows.finish (hf : s.Follows h) (ht : (n, some ticket) ∈ s.tasks) (how : LoadEnd) :
    Follows ({ s.retire n with cache := how.reach s.cache s.elapsed ticket }.endLoad ticket.load
      how.outcome) (h.step (.land ticket.load how)) := by
  obtain ⟨f, hl, rfl, hr⟩ := hf.running n ticket ht
  refine ⟨(hf.toTracks.retire n).land hl hr ?free how, fun load hload => ?manned⟩
  case free =>
    intro m t hm heq
    obtain ⟨hold, hne⟩ := List.mem_filter.mp hm
    have hmn := hf.alone m n t f.ticket hold ht heq
    rw [hmn, bne_self_eq_false] at hne
    exact nomatch hne
  case manned =>
    change (s.loads.set f.ticket.load _)[load]? = some none at hload
    by_cases heq : f.ticket.load = load
    · subst heq
      rw [List.getElem?_set_self (by simpa using (List.getElem?_eq_some_iff.mp hload).1)] at hload
      cases hload
    · rw [List.getElem?_set_ne heq] at hload
      refine hf.manned_retire hload fun t hown => ?_
      cases hf.eq_of_number hown ht rfl
      exact heq

/-- Someone asks, and no load is started. -/
theorem Follows.get_of_none (hf : s.Follows h) (r : Request)
    (hnone : (s.cache.get s.elapsed r).2.started = none) :
    Follows { s with cache := (s.cache.get s.elapsed r).1 } (h.step (.get r)) := by
  have hflights : (h.get r).flights = h.flights := by
    rw [hf.cache, hf.now] at hnone
    rw [History.get, hnone]
    exact List.append_nil _
  refine ⟨⟨?_, hf.now, ?_, hf.numbers, hf.spawned, ?_, hf.alone⟩, hf.manned⟩
  · show (s.cache.get s.elapsed r).1 = (h.cache.get h.now r).1
    rw [hf.cache, hf.now]
  · show s.loads = (h.get r).flights.map _
    rw [hflights, hf.loads]
  · intro m ticket ht
    show ∃ f, (h.get r).flights[ticket.load]? = some f ∧ _
    rw [hflights]
    exact hf.running m ticket ht

/-- Someone asks, and a load is started, which gets a task. -/
theorem Follows.get_of_some (hf : s.Follows h) (r : Request) (hs : (h.get r).view.Sound)
    (hsome : (s.cache.get s.elapsed r).2.started = some ticket) :
    Follows (({ s with cache := (s.cache.get s.elapsed r).1 }.addLoad).spawn (some ticket))
      (h.step (.get r)) := by
  have hstarted : (h.cache.get h.now r).2.started = some ticket := by
    rw [← hf.cache, ← hf.now]
    exact hsome
  have hflights := History.flights_get_of_started hstarted
  have hnew := History.flight?_of_started hstarted
  have hnumber := History.load_of_started hs hstarted
  have hadded : Tracks ({ s with cache := (s.cache.get s.elapsed r).1 }.addLoad)
      (h.step (.get r)) := by
    refine ⟨?_, hf.now, ?_, hf.numbers, hf.spawned, ?_, hf.alone⟩
    · show (s.cache.get s.elapsed r).1 = (h.cache.get h.now r).1
      rw [hf.cache, hf.now]
    · show s.loads ++ [none] = (h.get r).flights.map _
      rw [hflights, hf.loads, List.map_append]
      rfl
    · intro m ticket ht
      obtain ⟨f, hfl, hticket, hrun⟩ := hf.running m ticket ht
      refine ⟨f, ?_, hticket, hrun⟩
      show (h.get r).flights[ticket.load]? = some f
      rw [hflights, List.getElem?_append_left (List.getElem?_eq_some_iff.mp hfl).1]
      exact hfl
  refine ⟨hadded.spawn ?new, fun load hload => ?manned⟩
  case new =>
    intro ticket' ht'
    cases ht'
    refine ⟨⟨_, hnumber ▸ hnew, rfl, rfl⟩, ?_⟩
    intro m t ht heq
    obtain ⟨f, hfl, -⟩ := hf.running m t ht
    have hlt := (List.getElem?_eq_some_iff.mp hfl).1
    rw [heq, hnumber] at hlt
    exact Nat.lt_irrefl _ hlt
  case manned =>
    -- it is the new load, or one that had a task before
    change (s.loads ++ [none])[load]? = some none at hload
    by_cases hlt : load < s.loads.length
    · rw [List.getElem?_append_left hlt] at hload
      obtain ⟨n, ticket', ht, heq⟩ := hf.manned load hload
      exact ⟨n, ticket', List.mem_append_left _ ht, heq⟩
    · refine ⟨s.spawned, ticket, List.mem_append_right _ List.mem_cons_self, ?_⟩
      have hbound := (List.getElem?_eq_some_iff.mp hload).1
      have hlength := congrArg List.length hf.loads
      rw [List.length_append, List.length_singleton] at hbound
      rw [List.length_map] at hlength
      omega

/-- Time passes. -/
theorem Follows.pass (hf : s.Follows h) (nanos : Nat) :
    Follows { s with elapsed := s.elapsed + nanos } (h.step (.pass nanos)) :=
  ⟨⟨hf.cache, congrArg (· + nanos) hf.now, hf.loads, hf.numbers, hf.spawned, hf.running,
    hf.alone⟩, hf.manned⟩

/-- Entries are invalidated or cleaned up. -/
theorem Follows.sweep (hf : s.Follows h) (op : Cache → Nat → Cache) {ev : CacheEvent}
    (hop : h.step ev = { h with cache := op h.cache h.now }) :
    Follows { s with cache := op s.cache s.elapsed } (h.step ev) := by
  rw [hop]
  refine ⟨⟨?_, hf.now, hf.loads, hf.numbers, hf.spawned, hf.running, hf.alone⟩, hf.manned⟩
  show op s.cache s.elapsed = op h.cache h.now
  rw [hf.cache, hf.now]

end CacheSide

namespace Engine

variable {e e' e'' : Engine α} {t : Task α}

/-- An engine goes on from another: whatever history that one followed, this one follows it after
    some more events. -/
def Continues (e e' : Engine α) : Prop :=
  ∀ h : History, h.Orderly → h.view.Sound → e.cacheSide.Follows h →
    ∃ events, e'.cacheSide.Follows (h.steps events)

theorem Continues.trans (h₁ : Continues e e') (h₂ : Continues e' e'') : Continues e e'' := by
  intro h ho hs hf
  obtain ⟨events₁, hf₁⟩ := h₁ h ho hs hf
  obtain ⟨events₂, hf₂⟩ := h₂ _ (History.orderly_steps ho events₁)
    (History.sound_steps ho hs events₁) hf₁
  refine ⟨events₁ ++ events₂, ?_⟩
  rw [History.steps_append]
  exact hf₂

/-- What leaves the cache side alone goes on without an event. -/
theorem Continues.of_eq (heq : e'.cacheSide = e.cacheSide) : Continues e e' :=
  fun _ _ _ hf => ⟨[], heq ▸ hf⟩

/-- What an event explains goes on with it. -/
theorem Continues.of_step (ev : CacheEvent)
    (hstep : ∀ h : History, h.Orderly → h.view.Sound → e.cacheSide.Follows h →
      e'.cacheSide.Follows (h.step ev)) : Continues e e' :=
  fun h ho hs hf => ⟨[ev], hstep h ho hs hf⟩

/-- A task is forgotten that runs no load. -/
theorem Continues.of_retire {task : Nat} (ht : (task, none) ∈ e.cacheSide.tasks)
    (hside : e'.cacheSide = e.cacheSide.retire task) : Continues e e' :=
  fun _ _ _ hf => ⟨[], hside ▸ hf.retire ht⟩

/-- A task goes on with its load, or without one as before. -/
theorem Continues.of_setJob {task : Nat} {x : Option Ticket} (ht : (task, x) ∈ e.cacheSide.tasks)
    (hside : e'.cacheSide = e.cacheSide.setJob task x) : Continues e e' :=
  fun _ _ _ hf => ⟨[], (hside.trans (hf.setJob ht)) ▸ hf⟩

theorem mem_cacheSide (ht : t ∈ e.tasks) :
    (t.number, t.job.ticket?) ∈ e.cacheSide.tasks :=
  List.mem_map_of_mem (f := fun t => (t.number, t.job.ticket?)) ht

section Followed

variable {h : History}

theorem numbers_nodup (hf : e.cacheSide.Follows h) : (e.tasks.map Task.number).Nodup := by
  have hnumbers := hf.numbers
  rw [cacheSide, List.map_map] at hnumbers
  exact hnumbers

/-- There are as many loads as flights. -/
theorem length_loads (hf : e.cacheSide.Follows h) : e.loads.length = h.flights.length := by
  have hlength := congrArg List.length hf.loads
  rw [List.length_map, cacheSide, List.length_map] at hlength
  exact hlength

/-- A load has come to what its flight has come to. -/
theorem outcome?_load (hf : e.cacheSide.Follows h) (load : Nat) :
    (e.loads[load]?).map LoadState.outcome? = (h.flight? load).map Flight.outcome? := by
  rw [History.flight?, ← List.getElem?_map, ← List.getElem?_map]
  exact congrArg (fun loads => loads[load]?) hf.loads

end Followed

/-! ## Turns -/

/-- A task is dropped: its load, if it runs one, dies. -/
theorem continues_drop (ht : (t.number, t.job.ticket?) ∈ e.cacheSide.tasks) :
    Continues e (e.drop t) := by
  have hside := e.cacheSide_drop t
  cases hticket : t.job.ticket? with
  | none =>
      rw [hticket] at hside ht
      exact .of_retire ht hside
  | some ticket =>
      rw [hticket] at hside ht
      refine .of_step (.land ticket.load (.died .dropped)) fun h ho hs hf => ?_
      rw [hside]
      exact hf.finish ht (.died .dropped)

/-- A task that runs stops with a value, in a panic, or to wait. -/
theorem resume_cases {P : Engine α → Prop} (e : Engine α) (task : Nat) (work : Program β)
    (job : Program β → Job α) (done : Engine α → β → Engine α)
    (panicked : Engine α → String → Engine α)
    (hdone : ∀ e' value, e'.cacheSide = e.cacheSide.retire task → P (done e' value))
    (hpanicked : ∀ e' text, e'.cacheSide = e.cacheSide.retire task → P (panicked e' text))
    (hwait : ∀ e' next, e'.cacheSide = e.cacheSide.setJob task (job next).ticket? → P e') :
    P (e.resume task work job done panicked) := by
  have hrun : cacheSide { e with ledger := (work.run e.parts task e.ledger).1 } = e.cacheSide :=
    congrArg (fun elapsed => { e.cacheSide with elapsed := elapsed })
      (Program.elapsed_run e.parts task e.ledger work)
  rw [resume]
  dsimp only
  split
  · refine hdone _ _ ?_
    rw [cacheSide_retire, cacheSide_mark, hrun]
  · refine hpanicked _ _ ?_
    rw [cacheSide_retire, cacheSide_mark, hrun]
  · refine hwait _ .stall ?_
    rw [cacheSide_setJob, hrun]
  · rename_i next _
    refine hwait _ next ?_
    rw [cacheSide_sleep, cacheSide_setJob, hrun]
  · rename_i next _
    refine hwait _ next ?_
    rw [cacheSide_setJob, hrun]

/-- A task that runs a load ends it when it stops for good. -/
theorem continues_load {task : Nat} {ticket : Ticket}
    (ht : (task, some ticket) ∈ e.cacheSide.tasks)
    (work : Program (Outcome Response × Duration)) :
    Continues e (e.resume task work (.load ticket) (fun e value => e.finishLoad task ticket value)
      fun e text => e.endLoad ticket.load (.error (.taskFailed (.panickedWith text)))) := by
  refine e.resume_cases task work _ _ _ ?_ ?_ ?_
  · intro e' value hside
    refine .of_step (.land ticket.load (.gave value.1 value.2)) fun h ho hs hf => ?_
    rw [cacheSide_finishLoad, hside]
    exact hf.finish ht (.gave value.1 value.2)
  · intro e' text hside
    refine .of_step (.land ticket.load (.died (.panickedWith text))) fun h ho hs hf => ?_
    rw [cacheSide_endLoad, hside]
    exact hf.finish ht (.died (.panickedWith text))
  · intro e' next hside
    exact .of_setJob ht hside

/-- A task that drives a future has no load. -/
theorem continues_drive {task future : Nat} (ht : (task, none) ∈ e.cacheSide.tasks)
    (work : Program (Outcome α)) :
    Continues e (e.resume task work (.drive future)
      (fun e result => (e.complete future result).1)
      fun e _ => e.guardEnd task future .panicked) := by
  refine e.resume_cases task work _ _ _ ?_ ?_ ?_
  · intro e' result hside
    exact .of_retire ht ((e'.cacheSide_complete future result).trans hside)
  · intro e' text hside
    exact .of_retire ht ((e'.cacheSide_guardEnd task future .panicked).trans hside)
  · intro e' next hside
    exact .of_setJob ht hside

/-- The turn of a task that drives a future leaves the cache alone. -/
theorem cache_poll {future : Nat} {work : Program (Outcome α)} (hj : t.job = .drive future work) :
    (e.poll t).cache = e.cache := by
  have hside : ∀ {x y : Engine α}, x.cacheSide = y.cacheSide → x.cache = y.cache :=
    fun hsame => congrArg CacheSide.cache hsame
  rw [poll]
  split
  · have hdrop := e.cacheSide_drop t
    rw [hj] at hdrop
    exact congrArg CacheSide.cache hdrop
  · have hbegin : (e.begin t).cache = e.cache := hside (e.cacheSide_begin t)
    rw [runJob, hj, ← hbegin]
    refine (e.begin t).resume_cases t.number work _ _ _ (P := fun x => x.cache = (e.begin t).cache)
      ?_ ?_ ?_
    · intro x result hx
      exact (hside (x.cacheSide_complete future result)).trans (congrArg CacheSide.cache hx)
    · intro x text hx
      exact (hside (x.cacheSide_guardEnd t.number future .panicked)).trans
        (congrArg CacheSide.cache hx)
    · intro x next hx
      exact congrArg CacheSide.cache hx

/-- Nor does a task that gives the outcome of a load to a future. -/
theorem continues_deliver {task : Nat} (ht : (task, none) ∈ e.cacheSide.tasks)
    (future load : Nat) : Continues e (e.deliver task future load) := by
  have hside := e.cacheSide_deliver task future load
  split at hside
  · exact .of_retire ht hside
  · exact .of_eq hside

/-- A pass over the cache is a purge. -/
theorem continues_pass (e : Engine α) (task : Nat) : Continues e (e.pass task) :=
  .of_step .purge fun _ _ _ hf => hf.sweep (fun c now => (c.purge now).1) rfl

/-- The cleanup is a purge when it is due. -/
theorem continues_clean {task : Nat} (ht : (task, none) ∈ e.cacheSide.tasks)
    (due : Option Nat) : Continues e (e.clean task due) := by
  have hretire : Continues e (e.retire task) := .of_retire ht (e.cacheSide_retire task)
  rw [clean.eq_def]
  dsimp only
  split
  · split
    · exact hretire
    · exact .of_setJob ht (e.cacheSide_await task _)
  · split
    · exact (continues_pass e task).trans (.of_setJob ht (cacheSide_await _ _ _))
    · split
      · split
        · exact hretire.trans (continues_pass _ task)
        · exact hretire
      · exact .of_eq rfl

theorem continues_runJob (ht : (t.number, t.job.ticket?) ∈ e.cacheSide.tasks) :
    Continues e (e.runJob t) := by
  rw [runJob]
  cases hjob : t.job with
  | drive future work =>
      rw [hjob] at ht
      exact continues_drive ht work
  | deliver future load =>
      rw [hjob] at ht
      exact continues_deliver ht future load
  | load ticket work =>
      rw [hjob] at ht
      exact continues_load ht work
  | clean due =>
      rw [hjob] at ht
      exact continues_clean ht due

/-- Whoever has its turn, the history goes on. -/
theorem continues_turn (e : Engine α) (n : Nat) : Continues e (e.turn n) := by
  rw [turn]
  split
  · split
    · exact .of_eq rfl
    · rename_i t hfind
      have ht : (t.number, t.job.ticket?) ∈ e.cacheSide.tasks :=
        mem_cacheSide (List.mem_of_find?_eq_some hfind)
      have hready : Continues e (e.called n) := .of_eq rfl
      refine hready.trans ?_
      rw [poll]
      split
      · exact continues_drop ht
      · have hbegin := cacheSide_begin (e.called n) t
        refine Continues.trans (.of_eq hbegin) (continues_runJob ?_)
        rw [hbegin]
        exact ht
  · exact .of_eq rfl

theorem continues_tick (e : Engine α) : Continues e e.tick := by
  refine .of_step (.pass e.ledger.tick) fun h ho hs hf => ?_
  have hside : e.tick.cacheSide
      = { e.cacheSide with elapsed := e.cacheSide.elapsed + e.ledger.tick } :=
    cacheSide_wakeAll _ _
  rw [hside]
  exact hf.pass e.ledger.tick

/-! ## Calls -/

/-- A task that is spawned when no task can run any more is dropped at once. -/
theorem follows_spawn {h : History} {job : Job α}
    (hf : (e.cacheSide.spawn job.ticket?).Follows h) :
    ∃ events, (e.spawn job).cacheSide.Follows (h.steps events) := by
  have hside := e.cacheSide_spawn job
  split at hside
  · cases hticket : job.ticket? with
    | none =>
        rw [hticket] at hside hf
        have ht : (e.spawned, none) ∈ (e.cacheSide.spawn none).tasks :=
          List.mem_append_right _ List.mem_cons_self
        exact ⟨[], hside ▸ hf.retire ht⟩
    | some ticket =>
        rw [hticket] at hside hf
        have ht : (e.spawned, some ticket) ∈ (e.cacheSide.spawn (some ticket)).tasks :=
          List.mem_append_right _ List.mem_cons_self
        exact ⟨[.land ticket.load (.died .dropped)], hside ▸ hf.finish ht (.died .dropped)⟩
  · exact ⟨[], hside ▸ hf⟩

theorem continues_spawn (e : Engine α) {job : Job α} (hjob : job.ticket? = none) :
    Continues e (e.spawn job) := by
  intro h ho hs hf
  refine follows_spawn ?_
  rw [hjob]
  exact hf.spawn

/-- Asking for a request is asking in the history; a load that is started when no task can run any
    more dies at once. -/
theorem follows_lookup {h : History} (ho : h.Orderly) (hs : h.view.Sound)
    (hf : e.cacheSide.Follows h) (r : Request) :
    ∃ events, (e.lookup r).1.cacheSide.Follows ((h.step (.get r)).steps events) := by
  have hside : cacheSide { e with
      cache := (e.cache.get e.ledger.elapsed r).1
      ledger := e.ledger.tellAll none (e.cache.get e.ledger.elapsed r).2.told }
      = { e.cacheSide with cache := (e.cache.get e.ledger.elapsed r).1 } :=
    congrArg (fun elapsed => { e.cacheSide with
      cache := (e.cache.get e.ledger.elapsed r).1, elapsed := elapsed })
      (e.ledger.elapsed_tellAll none _)
  rw [lookup]
  dsimp only
  split
  · rename_i hnone
    refine ⟨[], ?_⟩
    rw [hside]
    exact hf.get_of_none r hnone
  · rename_i ticket hsome
    have hget := hf.get_of_some r (History.sound_steps ho hs [.get r]) hsome
    have hadded : cacheSide { e with
        cache := (e.cache.get e.ledger.elapsed r).1
        ledger := e.ledger.tellAll none (e.cache.get e.ledger.elapsed r).2.told
        loads := e.loads ++ [LoadState.running []] }
        = CacheSide.addLoad { e.cacheSide with cache := (e.cache.get e.ledger.elapsed r).1 } := by
      rw [← hside, CacheSide.addLoad, cacheSide]
      simp only [List.map_append, cacheSide]
      rfl
    have hspawn : ∀ job : Job α, job.ticket? = some ticket → ∃ events,
        (spawn { e with
          cache := (e.cache.get e.ledger.elapsed r).1
          ledger := e.ledger.tellAll none (e.cache.get e.ledger.elapsed r).2.told
          loads := e.loads ++ [LoadState.running []] } job).cacheSide.Follows
          ((h.step (.get r)).steps events) := by
      intro job hjob
      refine follows_spawn ?_
      rw [hadded, hjob]
      exact hget
    exact hspawn (.load ticket (e.loader r).timed) rfl

theorem continues_lookup (e : Engine α) (r : Request) : Continues e (e.lookup r).1 := by
  intro h ho hs hf
  obtain ⟨events, hf'⟩ := follows_lookup ho hs hf r
  exact ⟨.get r :: events, hf'⟩

/-- A new future with a task that has no load. -/
theorem continues_spawnFuture (e : Engine α) {job : Nat → Job α}
    (hjob : ∀ future, (job future).ticket? = none) : Continues e (e.spawnFuture job).1 := by
  have hadd : Continues e (e.addFuture .pending).1 := .of_eq rfl
  refine hadd.trans ((continues_spawn _ (hjob e.futures.length)).trans ?_)
  exact .of_eq (cacheSide_attach _ _ _)

theorem continues_criticalExecuteWith (e : Engine α) (r : Request) (handler : Handler α) :
    Continues e (e.criticalExecuteWith r handler).1 := by
  rw [criticalExecuteWith]
  split
  · exact .of_eq rfl
  · exact continues_spawnFuture e fun _ => rfl

theorem continues_execute (e : Engine α) (r : Request) : Continues e (e.execute r).1 := by
  rw [execute]
  split
  · exact .of_eq rfl
  · split
    · exact continues_criticalExecuteWith e r _
    · have htell : Continues e (e.tell none (.throughCache r.urlText)) := .of_eq rfl
      refine htell.trans ((continues_lookup _ r).trans ?_)
      exact continues_spawnFuture _ fun _ => rfl

theorem continues_invalidate (e : Engine α) (r : Request) : Continues e (e.invalidate r) :=
  .of_step (.invalidate r) fun _ _ _ hf => hf.sweep (fun c _ => c.invalidate r) rfl

theorem continues_invalidateAll (e : Engine α) : Continues e e.invalidateAll :=
  .of_step .invalidateAll fun _ _ _ hf => hf.sweep (fun c _ => c.invalidateAll) rfl

/-- Tasks that are dropped one after the other. -/
theorem continues_dropAll (tasks : List (Task α)) (e : Engine α)
    (hn : (tasks.map Task.number).Nodup)
    (hmem : ∀ t ∈ tasks, (t.number, t.job.ticket?) ∈ e.cacheSide.tasks) :
    Continues e (tasks.foldl (fun e t => e.drop t) e) := by
  induction tasks generalizing e with
  | nil => exact .of_eq rfl
  | cons t rest ih =>
      obtain ⟨hfirst, hrest⟩ := List.nodup_cons.mp (show (t.number :: rest.map _).Nodup from hn)
      refine (continues_drop (hmem t List.mem_cons_self)).trans (ih (e.drop t) hrest ?_)
      intro t' ht'
      have hkeep : (t'.number, t'.job.ticket?) ∈ (e.cacheSide.retire t.number).tasks := by
        refine List.mem_filter.mpr ⟨hmem t' (List.mem_cons_of_mem _ ht'), ?_⟩
        refine bne_iff_ne.mpr fun heq => hfirst ?_
        exact heq ▸ List.mem_map_of_mem ht'
      rw [cacheSide_drop]
      cases t.job.ticket? with
      | none => exact hkeep
      | some ticket => exact hkeep

theorem continues_shutdown (e : Engine α) : Continues e e.shutdown := by
  intro h ho hs hf
  exact continues_dropAll e.tasks { e with stopped := true } (numbers_nodup hf)
    (fun t ht => mem_cacheSide ht) h ho hs hf

/-! ## Runs -/

theorem continues_step (e : Engine α) (ev : EngineEvent α) : Continues e (e.step ev) := by
  cases ev with
  | turn n => exact continues_turn e n
  | tick => exact continues_tick e
  | startCleaner => exact continues_spawn e rfl
  | stopCleaner => exact .of_eq e.cacheSide_stopCleaner
  | execute r => exact continues_execute e r
  | criticalExecuteWith r handler => exact continues_criticalExecuteWith e r handler
  | drive work => exact continues_spawnFuture e fun _ => rfl
  | decide result => exact .of_eq rfl
  | lookup r => exact continues_lookup e r
  | cancel future => exact .of_eq (e.cacheSide_cancel future)
  | pollFuture future waker => exact .of_eq (e.cacheSide_pollFuture future waker)
  | waitFuture future => exact .of_eq (e.cacheSide_waitFuture future)
  | invalidate r => exact continues_invalidate e r
  | invalidateAll => exact continues_invalidateAll e
  | cleanup => exact .of_step .purge fun _ _ _ hf => hf.sweep (fun c now => (c.purge now).1) rfl
  | close => exact .of_eq e.cacheSide_close
  | shutdown => exact continues_shutdown e

theorem continues_steps (e : Engine α) (events : List (EngineEvent α)) :
    Continues e (e.steps events) := by
  induction events generalizing e with
  | nil => exact .of_eq rfl
  | cons ev rest ih => exact (continues_step e ev).trans (ih (e.step ev))

/-- The cache side of an engine follows a history of a cache that was configured like this. -/
def Recorded (e : Engine α) (config : CacheConfig) : Prop :=
  ∃ events, e.cacheSide.Follows (.run config events)

theorem Recorded.continues {config : CacheConfig} (hr : e.Recorded config)
    (hc : Continues e e') : e'.Recorded config := by
  obtain ⟨before, hf⟩ := hr
  obtain ⟨after, hf'⟩ := hc _ (History.orderly_run config before)
    (History.sound_run config before) hf
  refine ⟨before ++ after, ?_⟩
  rw [History.run_append]
  exact hf'

/-- A new engine follows the history in which nothing has happened. -/
theorem recorded_new (parts : Parts) (loader : Request → Program (Outcome Response))
    (present : Response → α) (epoch : Int) (slots : Nat) (config : CacheConfig) :
    (new parts loader present (.start epoch slots) config).Recorded config := by
  refine ⟨[], ⟨rfl, rfl, rfl, List.nodup_nil, ?_, ?_, ?_⟩, ?_⟩
  · exact fun t ht => nomatch ht
  · exact fun n ticket ht => nomatch ht
  · exact fun n n' t t' ht => nomatch ht
  · exact fun load hl => absurd (List.mem_of_getElem? hl) List.not_mem_nil

/-- The cache of a client has a history. -/
theorem recorded_ofConfig {config : Config} {hasEngine : Bool} {parts : Parts}
    {present : Response → α} {epoch : Int}
    (h : ofConfig config hasEngine parts present epoch = .ok e) : e.Recorded config.cache := by
  rw [ofConfig] at h
  cases hv : config.check hasEngine with
  | error cause =>
      rw [hv] at h
      exact nomatch h
  | ok _ =>
      rw [hv] at h
      cases h
      exact ((recorded_new _ _ _ _ _ _).continues (continues_spawn _ rfl)).continues (.of_eq rfl)

/-- **WHATEVER HAPPENS TO AN ENGINE, ITS CACHE HAS A HISTORY**, whatever transport, loader, delayer
    and sink do, and however turns, ticks and calls follow each other. -/
theorem Recorded.steps {config : CacheConfig} (hr : e.Recorded config)
    (events : List (EngineEvent α)) : (e.steps events).Recorded config :=
  hr.continues (continues_steps e events)

/-- The cache of an engine goes through a history while time is let pass. -/
theorem Recorded.advance {config : CacheConfig} (hr : e.Recorded config) (n : Nat) :
    (e.advance n).Recorded config := by
  obtain ⟨events, heq⟩ := advance_eq_steps n e
  rw [heq]
  exact hr.steps events

/-- What a caller is answered with is what the history answers. -/
theorem lookup_eq_answer {h : History} (hf : e.cacheSide.Follows h) (r : Request) :
    (e.lookup r).2 = h.answer r := by
  have hload : (e.lookup r).2 = (e.cache.get e.ledger.elapsed r).2.load := by
    rw [lookup]
    dsimp only
    split <;> rfl
  have hcache : e.cache = h.cache := hf.cache
  have hnow : e.ledger.elapsed = h.now := hf.now
  rw [hload, hcache, hnow]
  rfl

/-- What a load comes to is what it comes to in the history. -/
theorem loadResult?_eq_result? {h : History} (hf : e.cacheSide.Follows h) (load : Nat) :
    e.loadResult? load = h.result? load := by
  have hload := outcome?_load hf load
  rw [loadResult?, History.result?]
  cases hl : e.loads[load]? with
  | none =>
      rw [hl] at hload
      rw [Option.map_eq_none_iff.mp hload.symm]
  | some state =>
      rw [hl] at hload
      obtain ⟨⟨ticket, started, landing⟩, hfl, houtcome⟩ := Option.map_eq_some_iff.mp hload.symm
      rw [hfl]
      cases state with
      | running waiting =>
          cases landing with
          | none => rfl
          | some l => exact nomatch houtcome
      | ended outcome =>
          cases landing with
          | none => exact nomatch houtcome
          | some l =>
              have hsame : l.how.outcome = outcome := Option.some.inj houtcome
              dsimp only
              rw [hsame]
              cases outcome <;> rfl

end Engine

end Courier
