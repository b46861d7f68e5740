import Courier.Proofs.Cache.Tracking

/-!
# Single flight — one load for all who ask

Of the loads that run, at most one may write to the entry of its request, and that entry knows it:
it is the load the entry waits for, so all who ask meanwhile get its outcome.  A load that runs
without an entry of its generation was cut off from it by an invalidation, and by nothing else: an
entry is evicted, purged, reloaded or dropped after a failure only when no load runs for it
(`covered_move`).  Without invalidations a request therefore never has two loads at a time.
-/

namespace Courier

namespace CacheView

variable {config : CacheConfig} {ev : CacheEvent} {v w : CacheView} {r : Request}

/-- A load of a request that runs. -/
def Runs (v : CacheView) (r : Request) (load : Nat) (f : Flight) : Prop :=
  v.flight? load = some f ∧ f.landing = none ∧ f.ticket.request = r

/-- Every load of a request that runs may write to its entry. -/
def Covered (v : CacheView) (r : Request) : Prop :=
  ∀ load f, v.Runs r load f →
    ∃ e, v.find? r = some e ∧ e.generation = f.ticket.generation

/-- A request is still covered when nothing was started for it and its entry was dropped only if
    nothing runs for it. -/
theorem Covered.mono (hc : v.Covered r)
    (hruns : ∀ load f, w.Runs r load f → v.Runs r load f)
    (hentry : ∀ e, v.find? r = some e →
      (∃ e', w.find? r = some e' ∧ e'.generation = e.generation) ∨
        ∀ load f, w.Runs r load f → f.ticket.generation ≠ e.generation) :
    w.Covered r := by
  intro load f hf
  obtain ⟨e, he, hg⟩ := hc load f (hruns load f hf)
  rcases hentry e he with ⟨e', he', hg'⟩ | hnone
  · exact ⟨e', he', hg'.trans hg⟩
  · exact absurd hg.symm (hnone load f hf)

/-- A request whose entry is not loading has no load that runs, if it is covered. -/
theorem Covered.idle (hc : v.Covered r) (hs : v.Sound)
    (hi : ∀ e, v.find? r = some e → e.isLoading = false) (load : Nat) (f : Flight) :
    ¬ v.Runs r load f := by
  intro hf
  obtain ⟨e, he, hg⟩ := hc load f hf
  exact (hs.tracks r e he).idle (hi e he) hf.1 ⟨hf.2.2, hg.symm⟩ hf.2.1

/-- An entry that is changed within its generation. -/
theorem generation_put {r' : Request} {e e' e'' : CacheEntry} (he : v.find? r' = some e)
    (he' : v.find? r = some e') (hg : e''.generation = e.generation) :
    ∃ e₁, (v.put r' (some e'')).find? r = some e₁ ∧ e₁.generation = e'.generation := by
  by_cases hreq : r = r'
  · subst hreq
    cases Option.some.inj (he.symm.trans he')
    exact ⟨e'', put_find?_self _ _ _, hg⟩
  · exact ⟨e', (put_find?_of_ne _ _ hreq).trans he', rfl⟩

theorem runs_of_begin {r' : Request} {generation load : Nat} {f : Flight}
    (h : (v.begin r' generation).Runs r load f) :
    v.Runs r load f ∨ (r' = r ∧ f.ticket.generation = generation) := by
  obtain ⟨hf, hrun, hreq⟩ := h
  rcases flights_begin hf with hold | ⟨-, rfl⟩
  · exact Or.inl ⟨hold, hrun, hreq⟩
  · exact Or.inr ⟨hreq, rfl⟩

theorem runs_of_land {load load' : Nat} {f f' : Flight} {how : LoadEnd}
    (h : (v.land load f how).Runs r load' f') : v.Runs r load' f' := by
  obtain ⟨hf, hrun, hreq⟩ := h
  rcases flights_land hf with ⟨-, hold⟩ | ⟨-, rfl⟩
  · exact ⟨hold, hrun, hreq⟩
  · exact nomatch hrun

/-- **NO MOVE BUT AN INVALIDATION TAKES THE ENTRY FROM A LOAD THAT RUNS.** -/
theorem covered_move (hm : Move config ev v w) (hr : ev.invalidates r = false) (hs : v.Sound)
    (hc : v.Covered r) : w.Covered r := by
  cases hm with
  | pass v nanos => exact hc
  | @start _ r' h =>
      intro load f hf
      rcases runs_of_begin hf with hold | ⟨rfl, hg⟩
      · by_cases hreq : r = r'
        · -- the entry that is replaced was not loading
          subst hreq
          refine absurd hold (hc.idle hs ?_ load f)
          intro e he
          obtain ⟨hx, hn⟩ := h e he
          exact CacheEntry.idle_of_isExpired hx hn
        · obtain ⟨e, he, hg⟩ := hc load f hold
          exact ⟨e, (put_find?_of_ne _ _ hreq).trans he, hg⟩
      · exact ⟨_, put_find?_self _ _ _, hg.symm⟩
  | @join _ r' e load he hx hn =>
      refine hc.mono (fun _ _ hf => hf) ?_
      intro e' he'
      exact Or.inl (generation_put he he' rfl)
  | @refresh _ r' e he hx hn =>
      intro load f hf
      rcases runs_of_begin hf with hold | ⟨rfl, hg⟩
      · obtain ⟨e', he', hg⟩ := hc load f hold
        by_cases hreq : r = r'
        · subst hreq
          cases Option.some.inj (he.symm.trans he')
          exact ⟨_, put_find?_self _ _ _, hg⟩
        · exact ⟨e', (put_find?_of_ne _ _ hreq).trans he', hg⟩
      · exact ⟨_, put_find?_self _ _ _, hg.symm⟩
  | @touch _ r' e he hx hn =>
      refine hc.mono (fun _ _ hf => hf) ?_
      intro e' he'
      exact Or.inl (generation_put he he' rfl)
  | evict r' h =>
      refine hc.mono (fun _ _ hf => hf) ?_
      intro e he
      rcases h r with hsame | ⟨-, e', he', hi⟩
      · exact Or.inl ⟨e, hsame.trans he, rfl⟩
      · refine Or.inr fun load f hf _ => hc.idle hs ?_ load f hf
        intro e'' he''
        exact Option.some.inj (he'.symm.trans he'') ▸ hi
  | invalidate v r' =>
      have hne : r ≠ r' := of_decide_eq_false hr
      refine hc.mono (fun _ _ hf => hf) ?_
      intro e he
      exact Or.inl ⟨e, (put_find?_of_ne _ _ hne).trans he, rfl⟩
  | invalidateAll v => exact nomatch hr
  | purge v =>
      refine hc.mono (fun _ _ hf => hf) ?_
      intro e he
      by_cases hstale : (e.isExpired v.now config.expire && e.refresh.isNone) = true
      · refine Or.inr fun load f hf _ => hc.idle hs ?_ load f hf
        intro e' he'
        cases Option.some.inj (he.symm.trans he')
        exact CacheEntry.idle_of_stale hstale
      · refine Or.inl ⟨e, ?_, rfl⟩
        show (v.find? r).filter _ = some e
        rw [he, Option.filter_some, Bool.eq_false_iff.mpr hstale]
        rfl
  | die hf hn => exact hc.mono (fun _ _ => runs_of_land) fun e he => Or.inl ⟨e, he, rfl⟩
  | supersede hf hn hg => exact hc.mono (fun _ _ => runs_of_land) fun e he => Or.inl ⟨e, he, rfl⟩
  | write hf hn he hg =>
      refine hc.mono (fun _ _ => runs_of_land) ?_
      intro e' he'
      exact Or.inl (generation_put he he' rfl)
  | keep hf hn he hg hw =>
      refine hc.mono (fun _ _ => runs_of_land) ?_
      intro e' he'
      exact Or.inl (generation_put he he' rfl)
  | @fail _ load f e cause length hf hn he hg hw =>
      refine hc.mono (fun _ _ => runs_of_land) ?_
      intro e' he'
      by_cases hreq : r = f.ticket.request
      · -- the load that failed was the last of its generation
        subst hreq
        cases Option.some.inj (he.symm.trans he')
        refine Or.inr fun load' f' hf' hg' => ?_
        exact (hs.tracks _ e he).none_running hf hn ⟨rfl, hg.symm⟩ hf'.1 ⟨hf'.2.2, hg'⟩ hf'.2.1
      · exact Or.inl ⟨e', (put_find?_of_ne _ _ hreq).trans he', rfl⟩

end CacheView

namespace History

variable {h : History} {r : Request}

theorem mem_running {t : Ticket} (ht : t ∈ h.running) :
    ∃ load f, h.view.Runs t.request load f ∧ f.ticket = t := by
  obtain ⟨f, hf, rfl⟩ := List.mem_map.mp ht
  obtain ⟨hmem, hrun⟩ := List.mem_filter.mp hf
  obtain ⟨load, hload⟩ := List.getElem?_of_mem hmem
  exact ⟨load, f, ⟨hload, Option.isNone_iff_eq_none.mp hrun, rfl⟩, rfl⟩

/-- The loads that run have different numbers. -/
theorem running_nodup (hl : h.view.Logged) : (h.running.map Ticket.load).Nodup := by
  have hall : h.flights.map (fun f => f.ticket.load) = List.range h.flights.length := by
    refine List.ext_getElem (by simp) ?_
    intro load hload _
    rw [List.length_map] at hload
    rw [List.getElem_map, List.getElem_range]
    exact hl.number load _ (List.getElem?_eq_getElem hload)
  have hsub : (h.running.map Ticket.load).Sublist (h.flights.map fun f => f.ticket.load) := by
    rw [running, List.map_map]
    exact List.filter_sublist.map _
  exact hsub.nodup (hall ▸ List.nodup_range)

/-- Of loads that all have the same number, at most one runs. -/
theorem running_le_one (hl : h.view.Logged) (p : Ticket → Bool)
    (hp : ∀ t t', t ∈ h.running → t' ∈ h.running → p t = true → p t' = true →
      t.load = t'.load) :
    (h.running.filter p).length ≤ 1 := by
  have hnodup : ((h.running.filter p).map Ticket.load).Nodup :=
    (List.filter_sublist.map _).nodup (running_nodup hl)
  match hrun : h.running.filter p with
  | [] => exact Nat.zero_le _
  | [_] => exact Nat.le_refl _
  | t :: t' :: rest =>
      have hmem : ∀ u ∈ [t, t'], u ∈ h.running ∧ p u = true := by
        intro u hu
        refine List.mem_filter.mp (hrun ▸ ?_)
        exact List.mem_append_left rest hu
      obtain ⟨ht, hpt⟩ := hmem t List.mem_cons_self
      obtain ⟨ht', hpt'⟩ := hmem t' (List.mem_cons_of_mem _ List.mem_cons_self)
      rw [hrun, List.map_cons, List.nodup_cons] at hnodup
      exact absurd (hp t t' ht ht' hpt hpt') fun heq =>
        hnodup.1 (heq ▸ List.mem_cons_self)

/-- A load that runs and may write to the entry of its request is the one that the entry waits
    for. -/
theorem awaited_of_running (hs : h.view.Sound) {e : CacheEntry} (he : h.cache.find? r = some e)
    {t : Ticket} (ht : t ∈ h.running) (hr : t.request = r) (hg : t.generation = e.generation) :
    e.awaited = some t.load := by
  obtain ⟨load, f, ⟨hf, hrun, -⟩, rfl⟩ := mem_running ht
  rw [hs.logged.number load f hf]
  exact (hs.tracks r e he).awaited load f hf hrun ⟨hr, hg⟩

/-- The start covers every request, since nothing runs. -/
theorem covered_start (config : CacheConfig) (r : Request) : (start config).view.Covered r :=
  fun _ _ hf => nomatch hf.1

/-- A request that is never invalidated is covered all along. -/
theorem covered_run (config : CacheConfig) (events : List CacheEvent)
    (hkeep : ∀ ev ∈ events, ev.invalidates r = false) :
    (run config events).view.Sound ∧ (run config events).view.Covered r := by
  refine steps_keep (P := fun v => v.Sound ∧ v.Covered r) (orderly_start config) events ?_
    ⟨CacheView.sound_start config, covered_start config r⟩
  rintro ev hev v w hm ⟨hs, hc⟩
  exact ⟨CacheView.sound_move hm hs, CacheView.covered_move hm (hkeep ev hev) hs hc⟩

/-- **SINGLE FLIGHT.**  However the events of a cache follow each other, at most one load that runs
    has the generation of the entry of its request, and the entry is loading while it does.  A
    request that is never invalidated never has two loads at a time. -/
theorem single_flight (config : CacheConfig) (events : List CacheEvent) :
    (∀ r e, (run config events).cache.find? r = some e →
      ((run config events).running.filter fun t =>
        t.request = r ∧ t.generation = e.generation).length ≤ 1 ∧
      ∀ t ∈ (run config events).running, t.request = r → t.generation = e.generation →
        e.isLoading = true) ∧
    ∀ r, (∀ ev ∈ events, ev.invalidates r = false) →
      ((run config events).running.filter fun t => t.request = r).length ≤ 1 := by
  have hs := sound_run config events
  constructor
  · intro r e he
    constructor
    · refine running_le_one hs.logged _ ?_
      intro t t' ht ht' hp hp'
      obtain ⟨hr, hg⟩ := of_decide_eq_true hp
      obtain ⟨hr', hg'⟩ := of_decide_eq_true hp'
      have hload := awaited_of_running hs he ht hr hg
      have hload' := awaited_of_running hs he ht' hr' hg'
      exact Option.some.inj (hload.symm.trans hload')
    · intro t ht hr hg
      rw [CacheEntry.isLoading_eq, awaited_of_running hs he ht hr hg]
      rfl
  · intro r hkeep
    obtain ⟨-, hc⟩ := covered_run config events hkeep
    refine running_le_one hs.logged _ ?_
    intro t t' ht ht' hp hp'
    obtain ⟨load, f, hf, rfl⟩ := mem_running ht
    obtain ⟨load', f', hf', rfl⟩ := mem_running ht'
    have hr : f.ticket.request = r := of_decide_eq_true hp
    have hr' : f'.ticket.request = r := of_decide_eq_true hp'
    -- both may write to the one entry of the request
    obtain ⟨e, he, hg⟩ := hc load f ⟨hf.1, hf.2.1, hr⟩
    obtain ⟨e', he', hg'⟩ := hc load' f' ⟨hf'.1, hf'.2.1, hr'⟩
    cases Option.some.inj (he.symm.trans he')
    have hload := awaited_of_running hs he ht hr hg.symm
    have hload' := awaited_of_running hs he ht' hr' hg'.symm
    exact Option.some.inj (hload.symm.trans hload')

/-- A value expires while it is refreshed: who asks then waits for the refresh, the only load. -/
theorem single_flight_of_expired_refresh :
    ∃ events e, (∀ ev ∈ events, ev.invalidates default = false) ∧
      (run ⟨30, some 10, 1, false, 60000⟩ events).cache.find? default = some e ∧
      (run ⟨30, some 10, 1, false, 60000⟩ events).running = [⟨1, default, e.generation⟩] ∧
      e.writtenAt = none ∧ e.load = 1 ∧ e.isLoading = true ∧
      ((run ⟨30, some 10, 1, false, 60000⟩ events).running.filter fun t =>
        t.request = default ∧ t.generation = e.generation).length ≤ 1 ∧
      ((run ⟨30, some 10, 1, false, 60000⟩ events).running.filter fun t =>
        t.request = default).length ≤ 1 := by
  have hkeep : ∀ ev ∈ ([.get default, .land 0 (.gave (.ok default) ⟨0⟩), .pass 15000000,
      .get default, .pass 25000000, .get default] : List CacheEvent),
      ev.invalidates default = false := by simp [CacheEvent.invalidates]
  have hentry : (run ⟨30, some 10, 1, false, 60000⟩ [.get default,
      .land 0 (.gave (.ok default) ⟨0⟩), .pass 15000000, .get default, .pass 25000000,
      .get default]).cache.find? default = some ⟨1, 0, none, 40000000, some 1⟩ := rfl
  obtain ⟨hentries, hnever⟩ := single_flight ⟨30, some 10, 1, false, 60000⟩ [.get default,
    .land 0 (.gave (.ok default) ⟨0⟩), .pass 15000000, .get default, .pass 25000000, .get default]
  obtain ⟨hone, hloading⟩ := hentries default _ hentry
  exact ⟨_, _, hkeep, hentry, rfl, rfl, rfl,
    hloading ⟨1, default, 0⟩ List.mem_cons_self rfl rfl, hone, hnever default hkeep⟩

end History

end Courier
