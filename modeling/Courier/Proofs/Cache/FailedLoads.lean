import Courier.Proofs.Cache.Answers

/-!
# Failed loads — what is left of them

A load whose loader gives a failure is forgotten at once: whoever asks afterwards never gets it
(`answer_ne_of_gave`).  A load that dies without an outcome is not, since the cache hears nothing
of it.  The entry that waits for it goes on waiting (`Stranded`): it does not expire, it is not
purged or evicted, and no refresh is started for it.  If it has a value, the value is served until
it expires; from then on every caller gets the dead load, until someone invalidates the entry.
-/

namespace Courier

namespace CacheView

variable {config : CacheConfig} {ev : CacheEvent} {v w : CacheView} {r : Request}
  {f : Flight} {load : Nat} {written : Option Nat}

/-- The entry of a request waits for a load.  It has the value it had, or none since that has
    expired. -/
def Stranded (config : CacheConfig) (v : CacheView) (r : Request) (load : Nat)
    (written : Option Nat) : Prop :=
  ∃ e, v.find? r = some e ∧ e.awaited = some load ∧
    (e.writtenAt = written ∨
      (e.writtenAt = none ∧ ∀ t, written = some t → config.expire.nanos ≤ v.now - t))

/-- The entry of another request may change. -/
theorem Stranded.put (hst : v.Stranded config r load written) {r' : Request}
    {x : Option CacheEntry} (hne : r ≠ r') : (v.put r' x).Stranded config r load written := by
  obtain ⟨e, he, ha, hw⟩ := hst
  exact ⟨e, (put_find?_of_ne _ _ hne).trans he, ha, hw⟩

/-- Nobody gets a load that gave a failure. -/
theorem answer_ne_of_failed (hs : v.Sound) (hf : v.flight? load = some f) {time : Nat}
    {cause : Failure} {length : Duration}
    (hl : f.landing = some ⟨time, .gave (.error cause) length⟩) : v.answer config r ≠ load := by
  rintro rfl
  rcases answer_cases hs config r with ⟨e, t, he, ht, -, ha⟩ | hsilent
  · obtain ⟨response, length', hgave⟩ := (hs.tracks r e he).written t ht f (ha ▸ hf)
    exact nomatch hgave.symm.trans hl
  · obtain ⟨how, hdied⟩ := (hsilent f hf).1 _ hl
    exact nomatch hdied

/-- An entry that waits is loading, and so it is not dropped or refreshed. -/
theorem loading_of_awaited {e : CacheEntry} (ha : e.awaited = some load) :
    e.isLoading ≠ false := by
  intro hi
  rw [CacheEntry.isLoading_eq, ha] at hi
  exact nomatch hi

/-- No load that runs can write to an entry that waits for a load that has ended. -/
theorem absurd_of_awaited (hs : v.Sound) {e : CacheEntry} {f' : Flight} {load' : Nat}
    (he : v.find? r = some e) (ha : e.awaited = some load) (hf : v.flight? load = some f)
    (hl : f.landing ≠ none) (hf' : v.flight? load' = some f') (hr : f'.landing = none)
    (hof : f'.Of r e.generation) : False := by
  have heq := (hs.tracks r e he).awaited load' f' hf' hr hof
  cases Option.some.inj (ha.symm.trans heq)
  cases Option.some.inj (hf.symm.trans hf')
  exact hl hr

/-- **A LOAD THAT DIED STRANDS ITS ENTRY** until the entry is invalidated. -/
theorem stranded_move (hm : Move config ev v w) (hi : ev.invalidates r = false) (hs : v.Sound)
    (hf : v.flight? load = some f) (hl : f.landing ≠ none)
    (hst : v.Stranded config r load written) : w.Stranded config r load written := by
  have ⟨e, he, ha, hw⟩ := hst
  cases hm with
  | pass v nanos =>
      refine ⟨e, he, ha, hw.imp id ?_⟩
      rintro ⟨hnone, hold⟩
      refine ⟨hnone, fun t ht => Nat.le_trans (hold t ht) ?_⟩
      exact Nat.sub_le_sub_right (Nat.le_add_right _ _) t
  | @start _ r' h =>
      refine Stranded.put ⟨e, he, ha, hw⟩ ?_
      rintro rfl
      obtain ⟨hx, hr⟩ := h e he
      exact loading_of_awaited ha (CacheEntry.idle_of_isExpired hx hr)
  | @join _ r' e' load' he' hx hr =>
      by_cases hreq : r = r'
      · subst hreq
        cases Option.some.inj (he.symm.trans he')
        obtain ⟨t, ht⟩ := CacheEntry.written_of_isExpired hx
        refine ⟨_, put_find?_self _ _ _, ?_, Or.inr ⟨rfl, ?_⟩⟩
        · rw [← ha, CacheEntry.awaited_of_written ht, hr]
          rfl
        · intro t' ht'
          rcases hw with hsame | ⟨hnone, -⟩
          · cases Option.some.inj (ht.symm.trans (hsame.trans ht'))
            rw [CacheEntry.isExpired_of_written ht] at hx
            exact of_decide_eq_true hx
          · exact nomatch ht.symm.trans hnone
      · exact hst.put hreq
  | @refresh _ r' e' he' hx hn =>
      refine Stranded.put ⟨e, he, ha, hw⟩ ?_
      rintro rfl
      cases Option.some.inj (he.symm.trans he')
      exact loading_of_awaited ha (CacheEntry.idle_of_needsRefresh hn)
  | @touch _ r' e' he' hx hn =>
      by_cases hreq : r = r'
      · subst hreq
        cases Option.some.inj (he.symm.trans he')
        exact ⟨_, put_find?_self _ _ _, ha, hw⟩
      · exact hst.put hreq
  | evict r' h =>
      rcases h r with hsame | ⟨-, e', he', hidle⟩
      · exact ⟨e, hsame.trans he, ha, hw⟩
      · cases Option.some.inj (he.symm.trans he')
        exact absurd hidle (loading_of_awaited ha)
  | invalidate v r' => exact hst.put (of_decide_eq_false hi)
  | invalidateAll v => exact nomatch hi
  | purge v =>
      refine ⟨e, ?_, ha, hw⟩
      have hkeep : (e.isExpired v.now config.expire && e.refresh.isNone) = false :=
        Bool.eq_false_iff.mpr fun hstale =>
          loading_of_awaited ha (CacheEntry.idle_of_stale hstale)
      show (v.find? r).filter _ = some e
      rw [he, Option.filter_some, hkeep]
      rfl
  | die hf' hr => exact ⟨e, he, ha, hw⟩
  | supersede hf' hr hg => exact ⟨e, he, ha, hw⟩
  | @write _ load' f' e' response length hf' hr he' hg =>
      refine Stranded.put ⟨e, he, ha, hw⟩ ?_
      rintro rfl
      cases Option.some.inj (he.symm.trans he')
      exact absurd_of_awaited hs he ha hf hl hf' hr ⟨rfl, hg.symm⟩
  | @keep _ load' f' e' cause length hf' hr he' hg hwritten =>
      refine Stranded.put ⟨e, he, ha, hw⟩ ?_
      rintro rfl
      cases Option.some.inj (he.symm.trans he')
      exact absurd_of_awaited hs he ha hf hl hf' hr ⟨rfl, hg.symm⟩
  | @fail _ load' f' e' cause length hf' hr he' hg hwritten =>
      refine Stranded.put ⟨e, he, ha, hw⟩ ?_
      rintro rfl
      cases Option.some.inj (he.symm.trans he')
      exact absurd_of_awaited hs he ha hf hl hf' hr ⟨rfl, hg.symm⟩

/-- Whoever asks for a stranded entry gets the load it waits for, once its value has expired. -/
theorem answer_of_stranded (hs : v.Sound) (hst : v.Stranded config r load written)
    (hf : v.flight? load = some f) {time : Nat} {how : TaskEnd}
    (hl : f.landing = some ⟨time, .died how⟩) :
    v.answer config r = load ↔ ∀ t, written = some t → config.expire.nanos ≤ v.now - t := by
  obtain ⟨e, he, ha, hw⟩ := hst
  cases ht : e.writtenAt with
  | none =>
      rw [CacheEntry.awaited_of_unwritten ht] at ha
      rw [answer_of_live he (CacheEntry.isExpired_of_unwritten ht)]
      refine iff_of_true (Option.some.inj ha) ?_
      rcases hw with hsame | ⟨-, hold⟩
      · intro t hwritten
        exact nomatch ht.symm.trans (hsame.trans hwritten)
      · exact hold
  | some t =>
      rw [CacheEntry.awaited_of_written ht] at ha
      have hwritten : written = some t := by
        rcases hw with hsame | ⟨hnone, -⟩
        · exact hsame.symm.trans ht
        · exact nomatch ht.symm.trans hnone
      have hx : e.isExpired v.now config.expire = decide (config.expire.nanos ≤ v.now - t) :=
        CacheEntry.isExpired_of_written ht
      by_cases hold : config.expire.nanos ≤ v.now - t
      · rw [decide_eq_true hold] at hx
        rw [answer_of_expired he hx, ha]
        refine iff_of_true rfl ?_
        intro t' ht'
        cases Option.some.inj (hwritten.symm.trans ht')
        exact hold
      · -- the value was written by a load that did not die
        rw [decide_eq_false hold] at hx
        rw [answer_of_live he hx]
        refine iff_of_false ?_ fun hall => hold (hall t hwritten)
        rintro rfl
        obtain ⟨response, length, hgave⟩ := (hs.tracks r e he).written t ht f hf
        exact nomatch hgave.symm.trans hl

end CacheView

namespace History

variable {h : History} {r : Request} {load : Nat} {f : Flight}

/-- Events that do not invalidate a request leave its entry waiting for a load that has ended. -/
theorem stranded_steps (ho : h.Orderly) (hs : h.view.Sound) (events : List CacheEvent)
    (hkeep : ∀ ev ∈ events, ev.invalidates r = false) (hf : h.flight? load = some f)
    (hl : f.landing ≠ none) {written : Option Nat}
    (hst : h.view.Stranded h.cache.config r load written) :
    (h.steps events).view.Stranded h.cache.config r load written := by
  refine (steps_keep (P := fun v => v.Sound ∧ v.Flown load f ∧
    v.Stranded h.cache.config r load written) ho events ?_
    ⟨hs, ⟨f, hf, rfl, rfl, fun _ => rfl⟩, hst⟩).2.2
  rintro ev hev v w hm ⟨hs, hflown, hst⟩
  have ⟨f', hf', _, _, heq⟩ := hflown
  refine ⟨CacheView.sound_move hm hs, CacheView.flown_move hm hflown, ?_⟩
  exact CacheView.stranded_move hm (hkeep ev hev) hs hf' (heq hl ▸ hl) hst

/-- A load that ends while it runs has landed. -/
theorem flight?_land (how : LoadEnd) (hf : h.flight? load = some f) (hr : f.landing = none) :
    (h.step (.land load how)).flight? load = some (f.land h.now how) := by
  show (h.land load how).flight? load = _
  rw [land_of_running how hf hr]
  exact CacheView.flights_land_self (v := h.view) hf

/-- A load that dies while its entry waits for it strands the entry. -/
theorem stranded_of_died (hs : h.view.Sound) (hf : h.flight? load = some f)
    (hr : f.landing = none) (cause : TaskEnd) {e : CacheEntry}
    (he : h.cache.find? f.ticket.request = some e) (hg : e.generation = f.ticket.generation) :
    (h.step (.land load (.died cause))).view.Stranded
      (h.step (.land load (.died cause))).cache.config f.ticket.request load e.writtenAt := by
  have ha := (hs.tracks _ e he).awaited load f hf hr ⟨rfl, hg.symm⟩
  show (h.land load (.died cause)).view.Stranded _ _ _ _
  rw [land_of_running (.died cause) hf hr]
  exact ⟨e, he, ha, Or.inl rfl⟩

/-- A load that has landed is what it is in whatever follows. -/
theorem flight?_land_steps (ho : h.Orderly) (how : LoadEnd) (hf : h.flight? load = some f)
    (hr : f.landing = none) (after : List CacheEvent) :
    ((h.step (.land load how)).steps after).flight? load = some (f.land h.now how) :=
  landed_steps (orderly_step ho (.land load how)) after (flight?_land how hf hr)
    (Option.some_ne_none _)

/-- A load whose loader gave a failure is not the answer for anyone who asks afterwards. -/
theorem answer_ne_of_gave (ho : h.Orderly) (hs : h.view.Sound) (hf : h.flight? load = some f)
    (hr : f.landing = none) (cause : Failure) (length : Duration) (after : List CacheEvent)
    (r : Request) :
    ((h.step (.land load (.gave (.error cause) length))).steps after).answer r ≠ load := by
  have ho' := orderly_steps (orderly_step ho (.land load (.gave (.error cause) length))) after
  have hs' := sound_steps ho hs (.land load (.gave (.error cause) length) :: after)
  rw [answer_eq ho']
  exact CacheView.answer_ne_of_failed hs' (flight?_land_steps ho _ hf hr after) rfl

/-- A load that died is the answer as long as its entry is stranded and has no value to serve. -/
theorem answer_eq_iff_of_died (ho : h.Orderly) (hs : h.view.Sound)
    (hf : h.flight? load = some f) (hr : f.landing = none) (cause : TaskEnd)
    (after : List CacheEvent) {h' : History}
    (hh : h' = (h.step (.land load (.died cause))).steps after) :
    h'.answer f.ticket.request = load ↔
      ∃ e, h.cache.find? f.ticket.request = some e ∧ e.generation = f.ticket.generation ∧
        (∀ ev ∈ after, ev.invalidates f.ticket.request = false) ∧
        ∀ w, e.writtenAt = some w → h.cache.config.expire.nanos ≤ h'.now - w := by
  have ho₁ := orderly_step ho (.land load (.died cause))
  have hs₁ := sound_steps ho hs [.land load (.died cause)]
  have ho' : h'.Orderly := hh ▸ orderly_steps ho₁ after
  have hs' : h'.view.Sound := hh ▸ sound_steps ho₁ hs₁ after
  have hc₁ := config_step ho (.land load (.died cause))
  have hc' : h'.cache.config = h.cache.config := hh ▸ (config_steps ho₁ after).trans hc₁
  have hf₁ := flight?_land (.died cause) hf hr
  have hf' : h'.flight? load = some (f.land h.now (.died cause)) :=
    hh ▸ flight?_land_steps ho (.died cause) hf hr after
  have hg : f.ticket.generation < h.cache.generations := hs.logged.drawn load f hf
  have hg₁ := generations_steps ho [.land load (.died cause)] hg
  rw [answer_eq ho', hc']
  have hiff : ∀ e, h.cache.find? f.ticket.request = some e →
      e.generation = f.ticket.generation →
      (∀ ev ∈ after, ev.invalidates f.ticket.request = false) →
      (h'.view.answer h.cache.config f.ticket.request = load ↔
        ∀ w, e.writtenAt = some w → h.cache.config.expire.nanos ≤ h'.now - w) := by
    intro e he hge hkeep
    have hst := stranded_steps ho₁ hs₁ after hkeep hf₁ (Option.some_ne_none _)
      (stranded_of_died hs hf hr cause he hge)
    rw [← hh, hc₁] at hst
    exact CacheView.answer_of_stranded hs' hst hf' rfl
  constructor
  · intro ha
    -- otherwise the request has left the generation of the load behind
    have hnot : ¬ h'.view.Parted f.ticket.request f.ticket.generation := fun hp =>
      CacheView.answer_ne_of_parted (f := f.land _ (.died cause)) hs' hp hf' ha
    have ⟨e, he, hge⟩ : ∃ e, h.cache.find? f.ticket.request = some e ∧
        e.generation = f.ticket.generation := by
      refine Classical.byContradiction fun hnone => hnot ?_
      rw [hh, ← steps_cons]
      exact parted_steps ho _ ⟨hg, fun e he hge => hnone ⟨e, he, hge⟩⟩
    have hkeep : ∀ ev ∈ after, ev.invalidates f.ticket.request = false := by
      refine fun ev hev => Bool.eq_false_iff.mpr fun hi => hnot ?_
      rw [hh]
      exact parted_of_invalidates ho₁ hev hi hg₁
    exact ⟨e, he, hge, hkeep, (hiff e he hge hkeep).mp ha⟩
  · rintro ⟨e, he, hge, hkeep, hold⟩
    exact (hiff e he hge hkeep).mpr hold

/-- **FAILED LOADS ARE FORGOTTEN, UNLESS THEY DIE.**  After a load has ended without a response, its
    request is answered with it if and only if it died while the entry of the request waited for it,
    the entry was not invalidated since, and it has no value that could still be served.  Any caller
    who does not get a load that died gets a fresh response or a load that has not ended. -/
theorem answer_eq_failed_iff (config : CacheConfig) (before after : List CacheEvent)
    (load : Nat) (f : Flight) (how : LoadEnd) (h : History)
    (hf : (run config before).flight? load = some f) (hrun : f.landing = none)
    (hfail : ∀ response, how.outcome ≠ .ok response)
    (hh : h = run config (before ++ .land load how :: after)) :
    (h.answer f.ticket.request = load ↔
      (∃ cause, how = .died cause) ∧
        ∃ e, (run config before).cache.find? f.ticket.request = some e ∧
          e.generation = f.ticket.generation ∧
          (∀ ev ∈ after, ev.invalidates f.ticket.request = false) ∧
          ∀ w, e.writtenAt = some w → config.expire.nanos ≤ h.now - w) ∧
    ∀ r, (∃ response, h.Fresh r response) ∨ h.Pending r ↔ ¬ h.Abandoned r := by
  have ho := orderly_run config before
  have hs := sound_run config before
  constructor
  · rw [run_append, steps_cons] at hh
    cases how with
    | gave outcome length =>
        cases outcome with
        | ok response => exact absurd rfl (hfail response)
        | error cause =>
            rw [hh]
            refine iff_of_false (answer_ne_of_gave ho hs hf hrun cause length after _) ?_
            rintro ⟨⟨_, hdied⟩, -⟩
            exact nomatch hdied
    | died cause =>
        have hiff := answer_eq_iff_of_died ho hs hf hrun cause after hh
        rw [config_run] at hiff
        exact hiff.trans ⟨fun hex => ⟨⟨cause, rfl⟩, hex⟩, And.right⟩
  · rw [hh]
    exact fresh_or_pending_iff (orderly_run config _) (sound_run config _)

/-- A loader that panics on the first load: an hour later, after a cleanup, the next caller gets the
    dead load still, and not one that has not ended. -/
theorem answer_eq_of_first_load_panicked :
    (run ⟨2000, none, 10, false, 60000⟩ [.get default, .land 0 (.died (.panickedWith "boom")),
      .pass 3600000000000, .purge]).answer default = 0 ∧
    ¬ (run ⟨2000, none, 10, false, 60000⟩ [.get default, .land 0 (.died (.panickedWith "boom")),
      .pass 3600000000000, .purge]).Pending default := by
  have hiff := answer_eq_failed_iff ⟨2000, none, 10, false, 60000⟩ [.get default]
    [.pass 3600000000000, .purge] 0 ⟨⟨0, default, 0⟩, 0, none⟩ (.died (.panickedWith "boom")) _
    rfl rfl (fun _ h => nomatch h) rfl
  have ha := hiff.1.mpr ⟨⟨_, rfl⟩, ⟨0, 0, none, 0, none⟩, rfl, rfl,
    by simp [CacheEvent.invalidates], fun _ h => nomatch h⟩
  refine ⟨ha, fun hp => (hiff.2 default).mp (Or.inr hp) ?_⟩
  exact ⟨⟨⟨0, default, 0⟩, 0, some ⟨0, .died (.panickedWith "boom")⟩⟩, 0, _, ha ▸ rfl, rfl⟩

/-- Not every load that ended without a response is forgotten: one that died answers the next
    caller, an hour later. -/
theorem failed_load_is_kept :
    ¬ ∀ (config : CacheConfig) (before after : List CacheEvent) (load : Nat) (f : Flight)
        (how : LoadEnd), (run config before).flight? load = some f → f.landing = none →
      (∀ response, how.outcome ≠ .ok response) →
      (run config (before ++ .land load how :: after)).answer f.ticket.request ≠ load := by
  intro hforgotten
  exact hforgotten ⟨2000, none, 10, false, 60000⟩ [.get default] [.pass 3600000000000] 0
    ⟨⟨0, default, 0⟩, 0, none⟩ (.died (.panickedWith "boom")) rfl rfl (fun _ h => nomatch h) rfl

end History

end Courier
