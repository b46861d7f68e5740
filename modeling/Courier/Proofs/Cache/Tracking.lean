import Courier.Proofs.Cache.Moves

/-!
# Tracking — the entry of a request knows its loads

An entry waits for at most one load: its own as long as it has no value, and its refresh afterwards
(`CacheEntry.awaited`).  The invariant of a cache is that this is the whole truth (`Tracks`):

* the load of an entry without a value has given no outcome;
* the load of an entry with a value gave a response, at the time the value was written;
* a refresh has given no outcome, and was started after the load it replaces;
* no load of the entry's generation runs but the one it waits for.

All moves keep it (`sound_move`), so it holds in every history (`sound_run`).
-/

namespace Courier

namespace CacheEntry

variable {e : CacheEntry} {now w : Nat} {life : Duration}

/-- The load that an entry waits for. -/
def awaited (e : CacheEntry) : Option Nat :=
  match e.writtenAt with
  | none => some e.load
  | some _ => e.refresh

theorem awaited_of_unwritten (h : e.writtenAt = none) : e.awaited = some e.load := by
  rw [awaited, h]

theorem awaited_of_written (h : e.writtenAt = some w) : e.awaited = e.refresh := by
  rw [awaited, h]

theorem isLoading_eq (e : CacheEntry) : e.isLoading = e.awaited.isSome := by
  rw [isLoading, awaited]
  cases e.writtenAt with
  | none => rfl
  | some w => exact Bool.false_or _

/-- An entry expires when its value is as old as it may get. -/
theorem isExpired_of_written (h : e.writtenAt = some w) :
    e.isExpired now life = decide (life.nanos ≤ now - w) := by
  rw [isExpired, h]

/-- An entry without a value does not expire. -/
theorem isExpired_of_unwritten (h : e.writtenAt = none) : e.isExpired now life = false := by
  rw [isExpired, h]

theorem written_of_isExpired (h : e.isExpired now life = true) : ∃ w, e.writtenAt = some w := by
  cases hw : e.writtenAt with
  | none => exact nomatch (isExpired_of_unwritten hw).symm.trans h
  | some w => exact ⟨w, rfl⟩

/-- An entry that has expired is loading only if it is being refreshed. -/
theorem idle_of_isExpired (hx : e.isExpired now life = true) (hr : e.refresh = none) :
    e.isLoading = false := by
  obtain ⟨w, hw⟩ := written_of_isExpired hx
  rw [isLoading_eq, awaited_of_written hw, hr]
  rfl

/-- What a cleanup removes is not loading. -/
theorem idle_of_stale (h : (e.isExpired now life && e.refresh.isNone) = true) :
    e.isLoading = false := by
  obtain ⟨hx, hr⟩ := Bool.and_eq_true_iff.mp h
  exact idle_of_isExpired hx (Option.isNone_iff_eq_none.mp hr)

/-- An entry is not refreshed while a load is running for it. -/
theorem idle_of_needsRefresh {age : Option Duration} (h : e.needsRefresh now age = true) :
    e.isLoading = false := by
  unfold needsRefresh at h
  split at h
  · rename_i hw
    obtain ⟨hnone, -⟩ := Bool.and_eq_true_iff.mp h
    rw [isLoading_eq, awaited_of_written hw, Option.isNone_iff_eq_none.mp hnone]
    rfl
  · exact nomatch h

end CacheEntry

/-- A load of a request, for a generation. -/
def Flight.Of (f : Flight) (r : Request) (generation : Nat) : Prop :=
  f.ticket.request = r ∧ f.ticket.generation = generation

/-- A load whose loader has given no outcome: it runs, or it died. -/
def Flight.Silent (f : Flight) : Prop :=
  ∀ l, f.landing = some l → ∃ how, l.how = .died how

theorem Flight.silent_of_running {f : Flight} (h : f.landing = none) : f.Silent := by
  intro l hl
  exact nomatch h.symm.trans hl

namespace CacheView

/-- The entry of a request tells the truth about its loads. -/
structure Tracks (v : CacheView) (r : Request) (e : CacheEntry) : Prop where
  drawn : e.generation < v.generations
  load : ∃ f, v.flight? e.load = some f ∧ f.Of r e.generation
  unwritten : e.writtenAt = none → ∀ f, v.flight? e.load = some f → f.Silent
  written : ∀ w, e.writtenAt = some w → ∀ f, v.flight? e.load = some f →
    ∃ response length, f.landing = some ⟨w, .gave (.ok response) length⟩
  refresh : ∀ load, e.refresh = some load → e.load ≤ load ∧
    ∃ f, v.flight? load = some f ∧ f.Of r e.generation ∧ f.Silent
  awaited : ∀ load f, v.flight? load = some f → f.landing = none → f.Of r e.generation →
    e.awaited = some load

/-- The loads are numbered and started in order, and nothing happened in the future. -/
structure Logged (v : CacheView) : Prop where
  number : ∀ load f, v.flight? load = some f → f.ticket.load = load
  drawn : ∀ load f, v.flight? load = some f → f.ticket.generation < v.generations
  past : ∀ load f, v.flight? load = some f → f.started ≤ v.now ∧
    ∀ l, f.landing = some l → f.started ≤ l.time ∧ l.time ≤ v.now
  order : ∀ load load' (f f' : Flight), v.flight? load = some f → v.flight? load' = some f' →
    load ≤ load' → f.started ≤ f'.started

/-- **THE INVARIANT**: the loads are logged, and every entry tracks its loads. -/
structure Sound (v : CacheView) : Prop where
  logged : v.Logged
  tracks : ∀ r e, v.find? r = some e → v.Tracks r e

variable {config : CacheConfig} {ev : CacheEvent} {v w : CacheView} {r r' : Request}
  {e : CacheEntry} {f : Flight} {load load' generation : Nat} {how : LoadEnd}

/-! ## The loads after a move -/

/-- The loads after one was started. -/
theorem flights_begin (h : (v.begin r generation).flight? load = some f) :
    v.flight? load = some f ∨
      (load = v.flights.length ∧ f = Flight.begin v.now ⟨load, r, generation⟩) := by
  have h' : (v.flights ++ [Flight.begin v.now ⟨v.flights.length, r, generation⟩])[load]?
      = some f := h
  by_cases hlt : load < v.flights.length
  · rw [List.getElem?_append_left hlt] at h'
    exact Or.inl h'
  · rw [List.getElem?_append_right (Nat.le_of_not_lt hlt)] at h'
    have hlen : load - v.flights.length = 0 := by
      have := (List.getElem?_eq_some_iff.mp h').1
      simp only [List.length_singleton] at this
      omega
    have heq : load = v.flights.length := by omega
    rw [hlen] at h'
    subst heq
    exact Or.inr ⟨rfl, (Option.some.inj h').symm⟩

/-- A load that was there is there after another was started. -/
theorem flights_begin_of_some (h : v.flight? load = some f) :
    (v.begin r generation).flight? load = some f :=
  (List.getElem?_append_left (List.getElem?_eq_some_iff.mp h).1).trans h

/-- A load that is started is the last. -/
theorem flights_begin_self : (v.begin r generation).flight? v.flights.length
    = some (Flight.begin v.now ⟨v.flights.length, r, generation⟩) :=
  List.getElem?_concat_length

/-- The loads after one ended. -/
theorem flights_land {f' : Flight} (h : (v.land load f how).flight? load' = some f') :
    (load' ≠ load ∧ v.flight? load' = some f') ∨ (load' = load ∧ f' = f.land v.now how) := by
  have h' : (v.flights.set load (f.land v.now how))[load']? = some f' := h
  by_cases heq : load' = load
  · subst heq
    rw [List.getElem?_set_self' ] at h'
    obtain ⟨_, _, hf⟩ := Option.map_eq_some_iff.mp h'
    exact Or.inr ⟨rfl, hf.symm⟩
  · rw [List.getElem?_set_ne (Ne.symm heq)] at h'
    exact Or.inl ⟨heq, h'⟩

/-- A load that did not end is as it was. -/
theorem flights_land_of_ne {f' : Flight} (hne : load' ≠ load)
    (h : v.flight? load' = some f') : (v.land load f how).flight? load' = some f' :=
  (List.getElem?_set_ne (Ne.symm hne)).trans h

/-- A load that ended has landed. -/
theorem flights_land_self {f' : Flight} (h : v.flight? load = some f') :
    (v.land load f how).flight? load = some (f.land v.now how) :=
  List.getElem?_set_self (List.getElem?_eq_some_iff.mp h).1

/-! ## The log -/

theorem logged_begin (hl : v.Logged) (hg : generation < v.generations) :
    (v.begin r generation).Logged := by
  refine ⟨?_, ?_, ?_, ?_⟩
  · intro load f hf
    rcases flights_begin hf with hold | ⟨-, rfl⟩
    · exact hl.number load f hold
    · rfl
  · intro load f hf
    rcases flights_begin hf with hold | ⟨-, rfl⟩
    · exact hl.drawn load f hold
    · exact hg
  · intro load f hf
    rcases flights_begin hf with hold | ⟨-, rfl⟩
    · exact hl.past load f hold
    · exact ⟨Nat.le_refl _, fun l hl => nomatch hl⟩
  · intro load load' f f' hf hf' hle
    rcases flights_begin hf with hold | ⟨hload, rfl⟩
    · rcases flights_begin hf' with hold' | ⟨-, rfl⟩
      · exact hl.order load load' f f' hold hold' hle
      · exact (hl.past load f hold).1
    · rcases flights_begin hf' with hold' | ⟨-, rfl⟩
      · -- nothing was started after the last load
        have := (List.getElem?_eq_some_iff.mp hold').1
        omega
      · exact Nat.le_refl _

theorem logged_land (hl : v.Logged) (hf : v.flight? load = some f) :
    (v.land load f how).Logged := by
  refine ⟨?_, ?_, ?_, ?_⟩
  · intro load' f' hf'
    rcases flights_land hf' with ⟨-, hold⟩ | ⟨rfl, rfl⟩
    · exact hl.number load' f' hold
    · exact hl.number load' f hf
  · intro load' f' hf'
    rcases flights_land hf' with ⟨-, hold⟩ | ⟨rfl, rfl⟩
    · exact hl.drawn load' f' hold
    · exact hl.drawn load' f hf
  · intro load' f' hf'
    rcases flights_land hf' with ⟨-, hold⟩ | ⟨rfl, rfl⟩
    · exact hl.past load' f' hold
    · have hstart := (hl.past load' f hf).1
      refine ⟨hstart, ?_⟩
      intro l hl'
      cases hl'
      exact ⟨hstart, Nat.le_refl _⟩
  · intro i j fi fj hi hj hij
    -- landing does not change when a load was started
    have hstarted : ∀ k fk, (v.land load f how).flight? k = some fk →
        ∃ f', v.flight? k = some f' ∧ f'.started = fk.started := by
      intro k fk hk
      rcases flights_land hk with ⟨-, hold⟩ | ⟨rfl, rfl⟩
      · exact ⟨fk, hold, rfl⟩
      · exact ⟨f, hf, rfl⟩
    obtain ⟨gi, hgi, hsi⟩ := hstarted i fi hi
    obtain ⟨gj, hgj, hsj⟩ := hstarted j fj hj
    rw [← hsi, ← hsj]
    exact hl.order i j gi gj hgi hgj hij

/-- More time and more generations do not hurt the log. -/
theorem Logged.mono (hl : v.Logged) (hn : v.now ≤ w.now) (hg : v.generations ≤ w.generations)
    (hf : w.flights = v.flights) : w.Logged := by
  have hflight : ∀ load, w.flight? load = v.flight? load := by
    intro load
    rw [flight?, hf]
    rfl
  refine ⟨?_, ?_, ?_, ?_⟩
  · intro load f h
    exact hl.number load f (hflight load ▸ h)
  · intro load f h
    exact Nat.lt_of_lt_of_le (hl.drawn load f (hflight load ▸ h)) hg
  · intro load f h
    obtain ⟨hs, hland⟩ := hl.past load f (hflight load ▸ h)
    refine ⟨Nat.le_trans hs hn, ?_⟩
    intro l hl'
    obtain ⟨h1, h2⟩ := hland l hl'
    exact ⟨h1, Nat.le_trans h2 hn⟩
  · intro i j fi fj hi hj hij
    exact hl.order i j fi fj (hflight i ▸ hi) (hflight j ▸ hj) hij

/-! ## The entries -/

/-- An entry goes on tracking its loads as long as the loads of its generation are what they
    were. -/
theorem Tracks.frame (ht : v.Tracks r e) (hg : v.generations ≤ w.generations)
    (hkeep : ∀ load f, v.flight? load = some f → f.Of r e.generation →
      w.flight? load = some f)
    (hnew : ∀ load f, w.flight? load = some f → f.Of r e.generation →
      v.flight? load = some f) : w.Tracks r e := by
  obtain ⟨f₀, hf₀, hof₀⟩ := ht.load
  have hload : ∀ f, w.flight? e.load = some f → v.flight? e.load = some f := by
    intro f hf
    rw [← hf, hkeep e.load f₀ hf₀ hof₀]
    exact hf₀
  refine ⟨Nat.lt_of_lt_of_le ht.drawn hg, ⟨f₀, hkeep _ f₀ hf₀ hof₀, hof₀⟩, ?_, ?_, ?_, ?_⟩
  · intro hw f hf
    exact ht.unwritten hw f (hload f hf)
  · intro t hw f hf
    exact ht.written t hw f (hload f hf)
  · intro load hr
    obtain ⟨hle, f, hf, hof, hs⟩ := ht.refresh load hr
    exact ⟨hle, f, hkeep load f hf hof, hof, hs⟩
  · intro load f hf hrun hof
    exact ht.awaited load f (hnew load f hf hof) hrun hof

/-- A load of another request or generation may start. -/
theorem Tracks.frame_begin (ht : v.Tracks r e) (hne : r ≠ r' ∨ e.generation ≠ generation) :
    (v.begin r' generation).Tracks r e := by
  refine ht.frame (Nat.le_refl _) (fun load f hf _ => flights_begin_of_some hf) ?_
  intro load f hf hof
  rcases flights_begin hf with hold | ⟨-, rfl⟩
  · exact hold
  · rcases hne with hne | hne
    · exact absurd hof.1.symm hne
    · exact absurd hof.2.symm hne

/-- A load of another request or generation may end. -/
theorem Tracks.frame_land (ht : v.Tracks r e) (hf : v.flight? load = some f)
    (hne : ¬ f.Of r e.generation) : (v.land load f how).Tracks r e := by
  refine ht.frame (Nat.le_refl _) ?_ ?_
  · intro load' f' hf' hof
    refine flights_land_of_ne ?_ hf'
    intro heq
    rw [heq, hf] at hf'
    exact hne (Option.some.inj hf' ▸ hof)
  · intro load' f' hf' hof
    rcases flights_land hf' with ⟨-, hold⟩ | ⟨-, rfl⟩
    · exact hold
    · exact absurd hof hne

/-- What the requests have for entries does not matter to one of them. -/
theorem Tracks.of_loads (ht : v.Tracks r e) (hf : w.flights = v.flights)
    (hg : v.generations ≤ w.generations) : w.Tracks r e := by
  have hflight : ∀ load, w.flight? load = v.flight? load := by
    intro load
    rw [flight?, hf]
    rfl
  refine ht.frame hg ?_ ?_
  · intro load f h _
    rw [hflight]
    exact h
  · intro load f h _
    rw [← hflight]
    exact h

/-- A new entry waits for the load that was started with it. -/
theorem tracks_loading (hl : v.Logged) (now : Nat) :
    Tracks { v.begin r v.generations with generations := v.generations + 1 } r
      (.loading v.flights.length v.generations now) := by
  refine ⟨Nat.lt_succ_self _, ⟨_, flights_begin_self, rfl, rfl⟩, ?_, ?_, ?_, ?_⟩
  · intro _ f hf
    cases Option.some.inj (flights_begin_self.symm.trans hf)
    exact Flight.silent_of_running rfl
  · intro w hw
    exact nomatch hw
  · intro load hr
    exact nomatch hr
  · intro load f hf _ hof
    rcases flights_begin hf with hold | ⟨rfl, -⟩
    · -- no older load has the new generation
      have := hl.drawn load f hold
      rw [hof.2] at this
      exact absurd this (Nat.lt_irrefl _)
    · rfl

/-- An entry that is not loading waits for no load. -/
theorem Tracks.idle (ht : v.Tracks r e) (hi : e.isLoading = false) (hf : v.flight? load = some f)
    (hof : f.Of r e.generation) : f.landing ≠ none := by
  intro hrun
  rw [CacheEntry.isLoading_eq, ht.awaited load f hf hrun hof] at hi
  exact nomatch hi

theorem Tracks.touch (ht : v.Tracks r e) (now : Nat) :
    v.Tracks r { e with accessedAt := now } :=
  ⟨ht.drawn, ht.load, ht.unwritten, ht.written, ht.refresh, ht.awaited⟩

/-- An entry with a value waits for its refresh, from when it is started. -/
theorem Tracks.begin_refresh (ht : v.Tracks r e) (hi : e.isLoading = false) (now : Nat) :
    (v.begin r e.generation).Tracks r
      { e with accessedAt := now, refresh := some v.flights.length } := by
  obtain ⟨f₀, hf₀, hof₀⟩ := ht.load
  have hlt : e.load < v.flights.length := (List.getElem?_eq_some_iff.mp hf₀).1
  have hload : ∀ f, (v.begin r e.generation).flight? e.load = some f →
      v.flight? e.load = some f := by
    intro f hf
    rw [← hf, flights_begin_of_some hf₀]
    exact hf₀
  obtain ⟨w, hw⟩ : ∃ w, e.writtenAt = some w := by
    cases hw : e.writtenAt with
    | none =>
        rw [CacheEntry.isLoading_eq, CacheEntry.awaited_of_unwritten hw] at hi
        exact nomatch hi
    | some w => exact ⟨w, rfl⟩
  refine ⟨ht.drawn, ⟨f₀, flights_begin_of_some hf₀, hof₀⟩, ?_, ?_, ?_, ?_⟩
  · intro hnone
    exact nomatch hw.symm.trans hnone
  · intro t ht' f hf
    exact ht.written t ht' f (hload f hf)
  · intro load hr
    cases hr
    exact ⟨Nat.le_of_lt hlt, _, flights_begin_self, ⟨rfl, rfl⟩, Flight.silent_of_running rfl⟩
  · intro load f hf hrun hof
    rcases flights_begin hf with hold | ⟨rfl, -⟩
    · exact absurd hrun (ht.idle hi hold hof)
    · exact CacheEntry.awaited_of_written hw

/-- An expired entry that takes over its refresh waits for the same load as before. -/
theorem Tracks.join (ht : v.Tracks r e) {w : Nat} (hw : e.writtenAt = some w)
    (hr : e.refresh = some load) (now : Nat) :
    v.Tracks r { e with load := load, writtenAt := none, accessedAt := now } := by
  obtain ⟨-, f, hf, hof, hs⟩ := ht.refresh load hr
  refine ⟨ht.drawn, ⟨f, hf, hof⟩, ?_, ?_, ?_, ?_⟩
  · intro _ f' hf'
    exact Option.some.inj (hf.symm.trans hf') ▸ hs
  · intro t ht'
    exact nomatch ht'
  · intro load' hr'
    cases Option.some.inj (hr.symm.trans hr')
    exact ⟨Nat.le_refl _, f, hf, hof, hs⟩
  · intro load' f' hf' hrun hof'
    rw [← ht.awaited load' f' hf' hrun hof', CacheEntry.awaited_of_written hw, hr]
    rfl

/-- An entry may go on waiting for a load that died. -/
theorem Tracks.land_died (ht : v.Tracks r e) (hf : v.flight? load = some f)
    (hr : f.landing = none) (how : TaskEnd) : (v.land load f (.died how)).Tracks r e := by
  have hsilent : (f.land v.now (.died how)).Silent := by
    intro l hl
    cases hl
    exact ⟨how, rfl⟩
  -- a load that was silent is silent still, and one that was heard is as it was
  have hold : ∀ load' f', (v.land load f (.died how)).flight? load' = some f' →
      ∃ f₀, v.flight? load' = some f₀ ∧ (f₀.Silent → f'.Silent) ∧
        (f₀.landing ≠ none → f' = f₀) ∧ (f'.landing = none → f' = f₀) := by
    intro load' f' hf'
    rcases flights_land hf' with ⟨-, hsame⟩ | ⟨rfl, rfl⟩
    · exact ⟨f', hsame, id, fun _ => rfl, fun _ => rfl⟩
    · exact ⟨f, hf, fun _ => hsilent, fun hne => absurd hr hne, fun hne => nomatch hne⟩
  have hstill : ∀ load' f₀, v.flight? load' = some f₀ → f₀.Of r e.generation →
      ∃ f', (v.land load f (.died how)).flight? load' = some f' ∧ f'.Of r e.generation := by
    intro load' f₀ hf₀ hof
    by_cases heq : load' = load
    · subst heq
      cases Option.some.inj (hf.symm.trans hf₀)
      exact ⟨_, flights_land_self hf, hof⟩
    · exact ⟨f₀, flights_land_of_ne heq hf₀, hof⟩
  obtain ⟨f₀, hf₀, hof₀⟩ := ht.load
  refine ⟨ht.drawn, hstill _ f₀ hf₀ hof₀, ?_, ?_, ?_, ?_⟩
  · intro hw f' hf'
    obtain ⟨f₁, hf₁, hs, -, -⟩ := hold _ f' hf'
    exact hs (ht.unwritten hw f₁ hf₁)
  · intro w hw f' hf'
    obtain ⟨f₁, hf₁, -, hsame, -⟩ := hold _ f' hf'
    obtain ⟨response, length, hl⟩ := ht.written w hw f₁ hf₁
    rw [hsame (by rw [hl]; exact Option.some_ne_none _)]
    exact ⟨response, length, hl⟩
  · intro load' hr'
    obtain ⟨hle, f₁, hf₁, hof₁, hs₁⟩ := ht.refresh load' hr'
    obtain ⟨f', hf', hof'⟩ := hstill load' f₁ hf₁ hof₁
    obtain ⟨f₂, hf₂, hs, -, -⟩ := hold load' f' hf'
    cases Option.some.inj (hf₁.symm.trans hf₂)
    exact ⟨hle, f', hf', hof', hs hs₁⟩
  · intro load' f' hf' hrun hof'
    obtain ⟨f₁, hf₁, -, -, hsame⟩ := hold load' f' hf'
    have heq := hsame hrun
    rw [heq] at hrun hof'
    exact ht.awaited load' f₁ hf₁ hrun hof'

/-- When the load that an entry waits for gives an outcome, no load of its generation is left. -/
theorem Tracks.none_running (ht : v.Tracks r e) (hf : v.flight? load = some f)
    (hr : f.landing = none) (hof : f.Of r e.generation) {f' : Flight}
    (hf' : (v.land load f how).flight? load' = some f') (hof' : f'.Of r e.generation) :
    f'.landing ≠ none := by
  intro hrun
  rcases flights_land hf' with ⟨hne, hold⟩ | ⟨-, rfl⟩
  · have h1 := ht.awaited load f hf hr hof
    have h2 := ht.awaited load' f' hold hrun hof'
    exact hne (Option.some.inj (h2.symm.trans h1))
  · exact nomatch hrun

/-- A response is written by the load that the entry waits for. -/
theorem Tracks.write (ht : v.Tracks r e) (hf : v.flight? load = some f) (hr : f.landing = none)
    (hof : f.Of r e.generation) (response : Response) (length : Duration) :
    (v.land load f (.gave (.ok response) length)).Tracks r
      { e with load := load, writtenAt := some v.now, refresh := none } := by
  refine ⟨ht.drawn, ⟨_, flights_land_self hf, hof⟩, ?_, ?_, ?_, ?_⟩
  · intro hw
    exact nomatch hw
  · intro w hw f' hf'
    cases hw
    cases Option.some.inj ((flights_land_self hf).symm.trans hf')
    exact ⟨response, length, rfl⟩
  · intro load' hr'
    exact nomatch hr'
  · intro load' f' hf' hrun hof'
    exact absurd hrun (ht.none_running hf hr hof hf' hof')

/-- A refresh that fails leaves the entry with its value. -/
theorem Tracks.fail_refresh (ht : v.Tracks r e) (hf : v.flight? load = some f)
    (hr : f.landing = none) (hof : f.Of r e.generation) (hw : e.writtenAt.isSome = true)
    (how : LoadEnd) : (v.land load f how).Tracks r { e with refresh := none } := by
  obtain ⟨w, hw⟩ := Option.isSome_iff_exists.mp hw
  obtain ⟨f₀, hf₀, hof₀⟩ := ht.load
  obtain ⟨response, length, hl⟩ := ht.written w hw f₀ hf₀
  have hne : e.load ≠ load := by
    intro heq
    rw [heq, hf] at hf₀
    rw [← Option.some.inj hf₀, hr] at hl
    exact nomatch hl
  have hf₀' : (v.land load f how).flight? e.load = some f₀ := flights_land_of_ne hne hf₀
  refine ⟨ht.drawn, ⟨f₀, hf₀', hof₀⟩, ?_, ?_, ?_, ?_⟩
  · intro hnone
    exact nomatch hw.symm.trans hnone
  · intro t ht' f' hf'
    cases Option.some.inj (hf₀'.symm.trans hf')
    exact ht.written t ht' f₀ hf₀
  · intro load' hr'
    exact nomatch hr'
  · intro load' f' hf' hrun hof'
    exact absurd hrun (ht.none_running hf hr hof hf' hof')

/-! ## Every move keeps the invariant -/

/-- The entries after one was put. -/
theorem sound_put {x : Option CacheEntry} (hl : v.Logged)
    (hself : ∀ e, x = some e → v.Tracks r e)
    (hother : ∀ r' e, r' ≠ r → v.find? r' = some e → v.Tracks r' e) : (v.put r x).Sound := by
  refine ⟨hl.mono (Nat.le_refl _) (Nat.le_refl _) rfl, ?_⟩
  intro r' e he
  by_cases hr : r' = r
  · subst hr
    rw [put_find?_self] at he
    exact (hself e he).of_loads rfl (Nat.le_refl _)
  · rw [put_find?_of_ne _ _ hr] at he
    exact (hother r' e hr he).of_loads rfl (Nat.le_refl _)

/-- Fewer entries, as time passes. -/
theorem Sound.of_subset (hs : v.Sound) (hn : v.now ≤ w.now) (hg : w.generations = v.generations)
    (hf : w.flights = v.flights) (he : ∀ r e, w.find? r = some e → v.find? r = some e) :
    w.Sound := by
  refine ⟨hs.logged.mono hn (Nat.le_of_eq hg.symm) hf, ?_⟩
  intro r e h
  exact (hs.tracks r e (he r e h)).of_loads hf (Nat.le_of_eq hg.symm)

/-- The invariant survives every move. -/
theorem sound_move (hm : Move config ev v w) (hs : v.Sound) : w.Sound := by
  cases hm with
  | pass v nanos => exact hs.of_subset (Nat.le_add_right _ _) rfl rfl fun _ _ h => h
  | @start _ r h =>
      refine sound_put ?_ ?_ ?_
      · exact logged_begin (hs.logged.mono (w := { v with generations := v.generations + 1 })
          (Nat.le_refl _) (Nat.le_succ _) rfl) (Nat.lt_succ_self _)
      · intro e he
        cases he
        exact tracks_loading hs.logged v.now
      · intro r' e hne he
        exact ((hs.tracks r' e he).frame_begin (Or.inl hne)).of_loads rfl (Nat.le_succ _)
  | @join _ r e load he hx hr =>
      refine sound_put hs.logged ?_ fun r' e' _ h => hs.tracks r' e' h
      intro e' he'
      cases he'
      obtain ⟨w, hw⟩ := CacheEntry.written_of_isExpired hx
      exact (hs.tracks r e he).join hw hr v.now
  | @refresh _ r e he hx hn =>
      have ht := hs.tracks r e he
      refine sound_put (logged_begin hs.logged ht.drawn) ?_ ?_
      · intro e' he'
        cases he'
        exact ht.begin_refresh (CacheEntry.idle_of_needsRefresh hn) v.now
      · intro r' e' hne h
        exact (hs.tracks r' e' h).frame_begin (Or.inl hne)
  | @touch _ r e he hx hn =>
      refine sound_put hs.logged ?_ fun r' e' _ h => hs.tracks r' e' h
      intro e' he'
      cases he'
      exact (hs.tracks r e he).touch v.now
  | evict r h =>
      refine hs.of_subset (Nat.le_refl _) rfl rfl ?_
      intro r' e he
      rcases h r' with hsame | ⟨hnone, -⟩
      · exact hsame.symm.trans he
      · exact nomatch hnone.symm.trans he
  | invalidate v r =>
      exact sound_put hs.logged (fun e he => nomatch he) fun r' e _ h => hs.tracks r' e h
  | invalidateAll v => exact hs.of_subset (Nat.le_refl _) rfl rfl fun _ _ h => nomatch h
  | purge v =>
      refine hs.of_subset (Nat.le_refl _) rfl rfl ?_
      intro r e he
      exact Option.eq_some_of_filter_eq_some he
  | @die _ load f how hf hr =>
      refine ⟨logged_land hs.logged hf, ?_⟩
      intro r e he
      exact (hs.tracks r e he).land_died hf hr how
  | @supersede _ load f outcome length hf hr hg =>
      refine ⟨logged_land hs.logged hf, ?_⟩
      intro r e he
      refine (hs.tracks r e he).frame_land hf ?_
      intro hof
      exact hg e (hof.1 ▸ he) hof.2.symm
  | @write _ load f e response length hf hr he hg =>
      have hother : ∀ r' e', r' ≠ f.ticket.request → v.find? r' = some e' →
          (v.land load f (.gave (.ok response) length)).Tracks r' e' := by
        intro r' e' hne h
        exact (hs.tracks r' e' h).frame_land hf fun hof => hne hof.1.symm
      refine sound_put (logged_land hs.logged hf) ?_ hother
      intro e' he'
      cases he'
      rw [hs.logged.number load f hf]
      exact (hs.tracks _ e he).write hf hr ⟨rfl, hg.symm⟩ response length
  | @keep _ load f e cause length hf hr he hg hw =>
      refine sound_put (logged_land hs.logged hf) ?_ ?_
      · intro e' he'
        cases he'
        exact (hs.tracks _ e he).fail_refresh hf hr ⟨rfl, hg.symm⟩ hw _
      · intro r' e' hne h
        exact (hs.tracks r' e' h).frame_land hf fun hof => hne hof.1.symm
  | @fail _ load f e cause length hf hr he hg hw =>
      refine sound_put (logged_land hs.logged hf) (fun e' he' => nomatch he') ?_
      intro r' e' hne h
      exact (hs.tracks r' e' h).frame_land hf fun hof => hne hof.1.symm

theorem sound_start (config : CacheConfig) : (History.start config).view.Sound := by
  refine ⟨⟨?_, ?_, ?_, ?_⟩, ?_⟩
  · intro load f hf
    exact nomatch hf
  · intro load f hf
    exact nomatch hf
  · intro load f hf
    exact nomatch hf
  · intro load load' f f' hf
    exact nomatch hf
  · intro r e he
    exact nomatch he

end CacheView

namespace History

variable {h : History}

/-- A sound history stays sound. -/
theorem sound_steps (ho : h.Orderly) (hs : h.view.Sound) (events : List CacheEvent) :
    (h.steps events).view.Sound :=
  steps_keep ho events (fun _ _ _ _ hm hs => CacheView.sound_move hm hs) hs

/-- **EVERY HISTORY IS SOUND.** -/
theorem sound_run (config : CacheConfig) (events : List CacheEvent) :
    (run config events).view.Sound :=
  sound_steps (orderly_start config) (CacheView.sound_start config) events

end History

end Courier
