import Courier.Proofs.Cache.Views

/-!
# Moves — what one event can do

A `Move` is one change of the view of a history, with everything that has to hold for it to happen.
An event is a chain of moves (`step_moves`): asking is one move, and making room afterwards another.
What all moves keep is therefore kept by every history (`steps_keep`), and no
later proof has to look into the operations of the cache again.
-/

namespace Courier

open Cache Entries

variable {config : CacheConfig} {ev : CacheEvent} {h : History} {v v' w : CacheView}

/-- The changes that an event can make to a view. -/
inductive Move (config : CacheConfig) : CacheEvent → CacheView → CacheView → Prop where
  | pass (v : CacheView) (nanos : Nat) :
      Move config (.pass nanos) v { v with now := v.now + nanos }
  /-- A first load starts, or one that replaces an expired entry. -/
  | start {v : CacheView} {r : Request}
      (h : ∀ e, v.find? r = some e →
        e.isExpired v.now config.expire = true ∧ e.refresh = none) :
      Move config (.get r) v
        ({ v.begin r v.generations with generations := v.generations + 1 }.put r
          (some (.loading v.flights.length v.generations v.now)))
  /-- An expired entry waits for its refresh. -/
  | join {v : CacheView} {r : Request} {e : CacheEntry} {load : Nat}
      (he : v.find? r = some e) (hx : e.isExpired v.now config.expire = true)
      (hr : e.refresh = some load) :
      Move config (.get r) v
        (v.put r (some { e with load := load, writtenAt := none, accessedAt := v.now }))
  /-- A refresh starts while the value is served. -/
  | refresh {v : CacheView} {r : Request} {e : CacheEntry}
      (he : v.find? r = some e) (hx : e.isExpired v.now config.expire = false)
      (hn : e.needsRefresh v.now config.refresh = true) :
      Move config (.get r) v
        ((v.begin r e.generation).put r
          (some { e with accessedAt := v.now, refresh := some v.flights.length }))
  | touch {v : CacheView} {r : Request} {e : CacheEntry}
      (he : v.find? r = some e) (hx : e.isExpired v.now config.expire = false)
      (hn : e.needsRefresh v.now config.refresh = false) :
      Move config (.get r) v (v.put r (some { e with accessedAt := v.now }))
  /-- Room is made, of entries that no load is running for. -/
  | evict {v : CacheView} {find? : Request → Option CacheEntry} (r : Request)
      (h : ∀ r', find? r' = v.find? r' ∨
        (find? r' = none ∧ ∃ e, v.find? r' = some e ∧ e.isLoading = false)) :
      Move config (.get r) v { v with find? := find? }
  | invalidate (v : CacheView) (r : Request) : Move config (.invalidate r) v (v.put r none)
  | invalidateAll (v : CacheView) :
      Move config .invalidateAll v { v with find? := fun _ => none }
  | purge (v : CacheView) :
      Move config .purge v
        { v with find? := fun r => (v.find? r).filter fun e =>
            !(e.isExpired v.now config.expire && e.refresh.isNone) }
  | die {v : CacheView} {load : Nat} {f : Flight} {how : TaskEnd}
      (hf : v.flight? load = some f) (hr : f.landing = none) :
      Move config (.land load (.died how)) v (v.land load f (.died how))
  /-- An outcome arrives for an entry that is gone or was replaced. -/
  | supersede {v : CacheView} {load : Nat} {f : Flight} {outcome : Outcome Response}
      {length : Duration} (hf : v.flight? load = some f) (hr : f.landing = none)
      (hg : ∀ e, v.find? f.ticket.request = some e → e.generation ≠ f.ticket.generation) :
      Move config (.land load (.gave outcome length)) v (v.land load f (.gave outcome length))
  | write {v : CacheView} {load : Nat} {f : Flight} {e : CacheEntry} {response : Response}
      {length : Duration} (hf : v.flight? load = some f) (hr : f.landing = none)
      (he : v.find? f.ticket.request = some e) (hg : e.generation = f.ticket.generation) :
      Move config (.land load (.gave (.ok response) length)) v
        ((v.land load f (.gave (.ok response) length)).put f.ticket.request
          (some { e with load := f.ticket.load, writtenAt := some v.now, refresh := none }))
  /-- A refresh fails and the value stays. -/
  | keep {v : CacheView} {load : Nat} {f : Flight} {e : CacheEntry} {cause : Failure}
      {length : Duration} (hf : v.flight? load = some f) (hr : f.landing = none)
      (he : v.find? f.ticket.request = some e) (hg : e.generation = f.ticket.generation)
      (hw : e.writtenAt.isSome = true) :
      Move config (.land load (.gave (.error cause) length)) v
        ((v.land load f (.gave (.error cause) length)).put f.ticket.request
          (some { e with refresh := none }))
  /-- A load fails and there is no value. -/
  | fail {v : CacheView} {load : Nat} {f : Flight} {e : CacheEntry} {cause : Failure}
      {length : Duration} (hf : v.flight? load = some f) (hr : f.landing = none)
      (he : v.find? f.ticket.request = some e) (hg : e.generation = f.ticket.generation)
      (hw : e.writtenAt = none) :
      Move config (.land load (.gave (.error cause) length)) v
        ((v.land load f (.gave (.error cause) length)).put f.ticket.request none)

/-- A chain of moves of one event. -/
inductive Moves (config : CacheConfig) (ev : CacheEvent) : CacheView → CacheView → Prop where
  | done (v : CacheView) : Moves config ev v v
  | more {v v' w : CacheView} : Move config ev v v' → Moves config ev v' w → Moves config ev v w

/-- A single move is a chain. -/
theorem Moves.one (hm : Move config ev v w) : Moves config ev v w :=
  .more hm (.done w)

/-- What every move of an event keeps, a chain of them keeps. -/
theorem Moves.keep {P : CacheView → Prop} (hmove : ∀ v w, Move config ev v w → P v → P w)
    (hm : Moves config ev v w) (hP : P v) : P w := by
  induction hm with
  | done v => exact hP
  | more hm _ ih => exact ih (hmove _ _ hm hP)

/-! ## Events are chains of moves -/

namespace CacheView

/-- Asking is a move. -/
theorem move_ask (config : CacheConfig) (v : CacheView) (r : Request) :
    Move config (.get r) v (v.ask config r) := by
  refine ask_cases config v r ?_ ?_ ?_ ?_
  · intro h
    exact .start h
  · intro e load he hx hr
    exact .join he hx hr
  · intro e he hx hn
    exact .refresh he hx hn
  · intro e he hx hn
    exact .touch he hx hn

/-- The end of a load is a move, or nothing. -/
theorem moves_finish (config : CacheConfig) (v : CacheView) (load : Nat) (how : LoadEnd) :
    Moves config (.land load how) v (v.finish load how) := by
  rcases v.running_or_not load with ⟨f, hf, hr⟩ | hn
  · cases how with
    | died how =>
        rw [finish_of_kept hf hr fun e _ => LoadEnd.leaves_of_died how]
        exact .one (.die hf hr)
    | gave outcome length =>
        by_cases hg : ∃ e, v.find? f.ticket.request = some e ∧
            e.generation = f.ticket.generation
        · obtain ⟨e, he, hg⟩ := hg
          rw [finish_of_running hf hr, he, Option.bind_some]
          cases outcome with
          | ok response =>
              rw [LoadEnd.leaves_of_ok hg]
              exact .one (.write hf hr he hg)
          | error cause =>
              rw [LoadEnd.leaves_of_error hg]
              cases hw : e.writtenAt.isSome with
              | true => exact .one (.keep hf hr he hg hw)
              | false =>
                  have hnone := Option.not_isSome_iff_eq_none.mp (ne_true_of_eq_false hw)
                  exact .one (.fail hf hr he hg hnone)
        · have hne : ∀ e, v.find? f.ticket.request = some e →
              e.generation ≠ f.ticket.generation :=
            fun e he hg' => hg ⟨e, he, hg'⟩
          rw [finish_of_kept hf hr fun e he => LoadEnd.leaves_of_ne _ (hne e he)]
          exact .one (.supersede hf hr hne)
  · rw [finish_of_not_running hn how]
    exact .done v

/-- What an event does to a view is a chain of moves. -/
theorem moves_next (config : CacheConfig) (v : CacheView) (ev : CacheEvent) :
    Moves config ev v (v.next config ev) := by
  cases ev with
  | pass nanos => exact .one (.pass v nanos)
  | get r => exact .one (move_ask config v r)
  | invalidate r => exact .one (.invalidate v r)
  | invalidateAll => exact .one (.invalidateAll v)
  | purge => exact .one (.purge v)
  | land load how => exact moves_finish config v load how

end CacheView

namespace History

variable {r : Request}

/-- Asking the cache is a move of its view. -/
theorem Asked.move (ha : h.Asked r) :
    Move h.cache.config (.get r) h.view (h.ask r).view := by
  rw [ha.view]
  exact CacheView.move_ask h.cache.config h.view r

/-- A get leaves a history in order, the making of room included. -/
theorem orderly_get (ho : h.Orderly) (r : Request) : (h.get r).Orderly := by
  rw [get_eq]
  exact (asked ho r).orderly.of_alike (alike_enforceCapacity _) rfl

/-- A get leaves the configuration alone. -/
theorem config_get (ho : h.Orderly) (r : Request) :
    (h.get r).cache.config = h.cache.config :=
  (alike_enforceCapacity (h.ask r).cache).config.trans (asked ho r).config

/-- A get is two moves: it asks, and then room is made. -/
theorem moves_get (ho : h.Orderly) (r : Request) :
    Moves h.cache.config (.get r) h.view (h.get r).view := by
  have hevict : Move h.cache.config (.get r) (h.ask r).view
      { (h.ask r).view with find? := (h.ask r).cache.enforceCapacity.1.find? } :=
    .evict r fun r' => find?_enforceCapacity (asked ho r).orderly.distinct
  have hgens : (h.ask r).cache.enforceCapacity.1.generations = (h.ask r).cache.generations :=
    (alike_enforceCapacity (h.ask r).cache).generations
  have hview : (h.get r).view
      = { (h.ask r).view with find? := (h.ask r).cache.enforceCapacity.1.find? } :=
    CacheView.eq_of_parts rfl hgens rfl fun _ => rfl
  rw [hview]
  exact .more (asked ho r).move (.one hevict)

/-- The end of a load leaves a history in order, whether or not the load was running. -/
theorem orderly_land (ho : h.Orderly) (load : Nat) (how : LoadEnd) :
    (h.land load how).Orderly := by
  rcases h.running_or_not load with ⟨f, hf, hr⟩ | hn
  · rw [land_of_running how hf hr]
    exact ho.of_alike (alike_reach _ _ _ _) (List.length_set)
  · rw [land_of_not_running how hn]
    exact ho

/-- The end of a load leaves the configuration alone. -/
theorem config_land (h : History) (load : Nat) (how : LoadEnd) :
    (h.land load how).cache.config = h.cache.config := by
  rcases h.running_or_not load with ⟨f, hf, hr⟩ | hn
  · rw [land_of_running how hf hr]
    exact (alike_reach _ _ _ _).config
  · rw [land_of_not_running how hn]

/-- Events keep a history in order. -/
theorem orderly_step (ho : h.Orderly) (ev : CacheEvent) : (h.step ev).Orderly := by
  cases ev with
  | pass nanos => exact ⟨ho.distinct, ho.loads⟩
  | get r => exact orderly_get ho r
  | invalidate r => exact ho.of_alike (alike_invalidate _ r) rfl
  | invalidateAll => exact ho.of_alike (alike_invalidateAll _) rfl
  | purge => exact ho.of_alike (alike_purge _ _) rfl
  | land load how => exact orderly_land ho load how

/-- No event changes the configuration. -/
theorem config_step (ho : h.Orderly) (ev : CacheEvent) :
    (h.step ev).cache.config = h.cache.config := by
  cases ev with
  | pass nanos => rfl
  | get r => exact config_get ho r
  | invalidate r => rfl
  | invalidateAll => rfl
  | purge => exact (alike_purge _ _).config
  | land load how => exact config_land h load how

/-- **EVERY EVENT IS A CHAIN OF MOVES.** -/
theorem step_moves (ho : h.Orderly) (ev : CacheEvent) :
    Moves h.cache.config ev h.view (h.step ev).view := by
  cases ev with
  | get r => exact moves_get ho r
  | _ =>
      rw [view_step ho]
      · exact CacheView.moves_next h.cache.config h.view _
      · intro r hev
        exact nomatch hev

/-! ## Runs -/

theorem orderly_steps (ho : h.Orderly) (events : List CacheEvent) : (h.steps events).Orderly :=
  steps_induct (P := Orderly) (fun _ ev ho => orderly_step ho ev) ho events

/-- A history is in order at every moment. -/
theorem orderly_run (config : CacheConfig) (events : List CacheEvent) :
    (run config events).Orderly :=
  orderly_steps (orderly_start config) events

theorem config_steps (ho : h.Orderly) (events : List CacheEvent) :
    (h.steps events).cache.config = h.cache.config := by
  induction events generalizing h with
  | nil => rfl
  | cons ev rest ih => exact (ih (orderly_step ho ev)).trans (config_step ho ev)

/-- The configuration of a cache stays what it was made with. -/
theorem config_run (config : CacheConfig) (events : List CacheEvent) :
    (run config events).cache.config = config :=
  config_steps (orderly_start config) events

/-- What the moves of some events keep, the events keep. -/
theorem steps_keep {P : CacheView → Prop} (ho : h.Orderly) (events : List CacheEvent)
    (hmove : ∀ ev ∈ events, ∀ v w, Move h.cache.config ev v w → P v → P w) (hP : P h.view) :
    P (h.steps events).view := by
  induction events generalizing h with
  | nil => exact hP
  | cons ev rest ih =>
      refine ih (orderly_step ho ev) ?_ ?_
      · intro ev' hev'
        rw [config_step ho ev]
        exact hmove ev' (List.mem_cons_of_mem _ hev')
      · exact (step_moves ho ev).keep (hmove ev List.mem_cons_self) hP

end History

end Courier
