import Courier.Proofs.Cache.Room
import Mathlib.Data.List.Nodup

/-!
# Counting — what the counters of a cache are told

A cache that counts adds to its counters, and to nothing else: each operation is described by what
it adds (`ask_counts`, `enforceCapacity_counts`, `purge_counts`, `finish_counts`).  A cache that does
not count is the same cache with its counters at zero (`Cache.uncounted`): it answers alike, and it
goes on alike (`History.uncounted_step`).
-/

namespace Courier

/-- A configuration with lookups and loads counted or not. -/
def CacheConfig.counting (config : CacheConfig) (on : Bool) : CacheConfig :=
  { config with recordStats := on }

/-- How a get goes, by the entry that its request has. -/
inductive Asking where
  /-- There is no entry. -/
  | absent
  /-- The value of the entry has expired, and a refresh of it runs. -/
  | joined
  /-- The value of the entry has expired, and is loaded anew. -/
  | reloaded
  /-- The value of the entry is served, and a refresh of it starts. -/
  | refreshed
  /-- The entry is served as it is. -/
  | served
  deriving DecidableEq

namespace Asking

/-- Whether a get is a hit. -/
def isHit : Asking → Bool
  | refreshed | served => true
  | absent | joined | reloaded => false

/-- Whether a get finds an expired entry. -/
def isLate : Asking → Bool
  | joined | reloaded => true
  | absent | refreshed | served => false

/-- Whether a get starts a load. -/
def isStart : Asking → Bool
  | absent | reloaded | refreshed => true
  | joined | served => false

/-- Whether a get adds an entry. -/
def isNew (how : Asking) : Bool :=
  how = .absent

end Asking

namespace Cache

open Entries

variable {c c' : Cache} {now : Nat} {r : Request} {e : CacheEntry} {t : Ticket}

/-- How asking for a request goes. -/
def asking (c : Cache) (now : Nat) (r : Request) : Asking :=
  match c.find? r with
  | none => .absent
  | some e =>
    if e.isExpired now c.config.expire then
      if e.refresh.isSome then .joined else .reloaded
    else if e.needsRefresh now c.config.refresh then .refreshed
    else .served

/-! ## Entries that are lost -/

/-- How many entries of a cache another one has none for. -/
def lost (c c' : Cache) : Nat :=
  c.entries.countP fun p => (c'.find? p.1).isNone

/-- What is not lost is kept. -/
theorem size_add_lost (hd : Distinct c.entries) (hd' : Distinct c'.entries)
    (h : ∀ r, c'.find? r ≠ none → c.find? r ≠ none) : c'.size + c.lost c' = c.size := by
  have hkept : ∀ p : Request × CacheEntry,
      (c'.find? p.1).isSome = decide (p.1 ∈ c'.entries.map Prod.fst) := by
    intro p
    rw [Bool.eq_iff_iff, decide_eq_true_iff, mem_keys_iff]
    exact Option.isSome_iff_ne_none
  have hkeys : ((c.entries.map Prod.fst).filter (· ∈ c'.entries.map Prod.fst)).Perm
      (c'.entries.map Prod.fst) := by
    refine (List.perm_ext_iff_of_nodup (hd.filter _) hd').mpr fun r => ?_
    rw [List.mem_filter, decide_eq_true_iff]
    exact ⟨And.right, fun hr => ⟨mem_keys_iff.mpr (h r (mem_keys_iff.mp hr)), hr⟩⟩
  have hsize : c.entries.countP (fun p => (c'.find? p.1).isSome) = c'.size := by
    have hlength := hkeys.length_eq
    rw [← List.countP_eq_length_filter, List.countP_map, List.length_map] at hlength
    rw [size, ← hlength]
    exact List.countP_congr fun p _ => by rw [hkept p]; rfl
  have hrest : c.lost c' = c.entries.countP fun p => decide (¬ (c'.find? p.1).isSome = true) :=
    List.countP_congr fun p _ => by cases c'.find? p.1 <;> simp
  rw [← hsize, hrest]
  exact (List.length_eq_countP_add_countP _).symm

/-! ## What each operation adds -/

/-- A cache that counts. -/
theorem count_on (hc : c.config.recordStats = true) (change : CacheStats → CacheStats) :
    c.count change = { c with stats := change c.stats } :=
  if_pos hc

/-- What asking adds to the counters, the entries and the loads. -/
structure AskCounts (c : Cache) (how : Asking) (result : Cache × Lookup) : Prop where
  stats : c.config.recordStats = true → result.1.stats = { c.stats with
    hits := c.stats.hits + how.isHit.toNat
    misses := c.stats.misses + (!how.isHit).toNat
    evictions := c.stats.evictions + how.isLate.toNat }
  size : result.1.size = c.size + how.isNew.toNat
  started : result.2.started.toList.length = how.isStart.toNat

/-- As many entries as before. -/
theorem size_adjust (c : Cache) (r : Request) (change : CacheEntry → CacheEntry)
    (stats : CacheStats) :
    ({ c with entries := c.entries.adjust r change, stats := stats } : Cache).size = c.size :=
  List.length_map _

theorem askAbsent_counts (c : Cache) (now : Nat) (r : Request) :
    AskCounts c .absent (c.askAbsent now r) := by
  obtain ⟨stats, hask⟩ := c.askAbsent_eq now r
  refine ⟨fun hc => ?_, ?_, ?_⟩
  · simp [askAbsent, countMiss, count_on hc, startFresh, startLoad, Asking.isHit, Asking.isLate]
  · rw [hask]
    exact List.length_append
  · rw [hask]
    rfl

theorem askExpired_counts (c : Cache) (now : Nat) (r : Request) (e : CacheEntry) :
    AskCounts c (if e.refresh.isSome then .joined else .reloaded) (c.askExpired now r e) := by
  cases hr : e.refresh with
  | none =>
      obtain ⟨stats, hask⟩ := c.askExpired_eq_start now r hr
      refine ⟨fun hc => ?_, ?_, ?_⟩
      · simp [askExpired, hr, countMiss, countEvictions, count, hc, startFresh, startLoad,
          Asking.isHit, Asking.isLate]
      · rw [hask]
        exact c.size_adjust r _ stats
      · rw [hask]
        rfl
  | some load =>
      obtain ⟨stats, hask⟩ := c.askExpired_eq_join now r hr
      refine ⟨fun hc => ?_, ?_, ?_⟩
      · simp [askExpired, hr, countMiss, countEvictions, count, hc, Asking.isHit, Asking.isLate]
      · rw [hask]
        exact c.size_adjust r _ stats
      · rw [hask]
        rfl

theorem askLive_counts (c : Cache) (now : Nat) (r : Request) (e : CacheEntry) :
    AskCounts c (if e.needsRefresh now c.config.refresh then .refreshed else .served)
      (c.askLive now r e) := by
  cases hn : e.needsRefresh now c.config.refresh with
  | true =>
      obtain ⟨stats, hask⟩ := c.askLive_eq_refresh r hn
      refine ⟨fun hc => ?_, ?_, ?_⟩
      · simp [askLive, hn, countHit, count_on hc, startLoad, Asking.isHit, Asking.isLate]
      · rw [hask]
        exact c.size_adjust r _ stats
      · rw [hask]
        rfl
  | false =>
      obtain ⟨stats, hask⟩ := c.askLive_eq_touch r hn
      refine ⟨fun hc => ?_, ?_, ?_⟩
      · simp [askLive, hn, countHit, count_on hc, Asking.isHit, Asking.isLate]
      · rw [hask]
        exact c.size_adjust r _ stats
      · rw [hask]
        rfl

/-- **ASKING IS COUNTED** as what it is. -/
theorem ask_counts (c : Cache) (now : Nat) (r : Request) :
    AskCounts c (c.asking now r) (c.ask now r) := by
  rw [asking]
  cases he : c.find? r with
  | none =>
      rw [ask_of_absent he]
      exact c.askAbsent_counts now r
  | some e =>
      dsimp only
      cases hx : e.isExpired now c.config.expire with
      | true =>
          rw [ask_of_expired he hx, if_pos rfl]
          exact c.askExpired_counts now r e
      | false =>
          rw [ask_of_live he hx, if_neg Bool.false_ne_true]
          exact c.askLive_counts now r e

/-- What is removed is counted as that. -/
structure LossCounts (c : Cache) (c' : Cache) : Prop where
  stats : c.config.recordStats = true →
    c'.stats = { c.stats with evictions := c.stats.evictions + c.lost c' }
  size : c'.size + c.lost c' = c.size

/-- Dropping an entry leaves one less. -/
theorem size_invalidate (hd : Distinct c.entries) (h : c.find? r ≠ none) :
    (c.invalidate r).size + 1 = c.size := by
  have hone : c.entries.countP (fun p => decide (p.1 = r)) = 1 := by
    have hcount := List.count_eq_one_of_mem hd (mem_keys_iff.mpr h)
    rwa [List.count, List.countP_map] at hcount
  have hrest : (c.invalidate r).size = c.entries.countP fun p => decide ¬ decide (p.1 = r) = true := by
    rw [invalidate, size, remove, ← List.countP_eq_length_filter]
    exact List.countP_congr fun p _ => by simp
  rw [hrest, ← hone, Nat.add_comm]
  exact (List.length_eq_countP_add_countP _).symm

/-- The counter and the entries change together, entry by entry. -/
theorem evict_stats (n : Nat) (hd : Distinct c.entries) (hc : c.config.recordStats = true) :
    ∃ k, (evict n c).1.stats = { c.stats with evictions := c.stats.evictions + k } ∧
      (evict n c).1.size + k = c.size := by
  induction n generalizing c with
  | zero => exact ⟨0, rfl, rfl⟩
  | succ n ih =>
      rw [evict]
      split
      · exact ⟨0, rfl, rfl⟩
      · rename_i req x hold
        have hone : (c.invalidate req).countEvictions 1 = { c.invalidate req with
            stats := { c.stats with evictions := c.stats.evictions + 1 } } := if_pos hc
        have hfound : c.find? req ≠ none := by
          rw [show c.find? req = some x from lookup_of_mem hd (oldest?_mem hold).1]
          exact Option.some_ne_none x
        obtain ⟨k, hstats, hsize⟩ := ih (c := (c.invalidate req).countEvictions 1)
          (((alike_invalidate c req).trans (alike_countEvictions _ 1)).distinct hd)
          (by rw [hone]; exact hc)
        refine ⟨k + 1, ?_, ?_⟩
        · refine hstats.trans ?_
          rw [hone, Nat.add_comm k 1, ← Nat.add_assoc]
        · have hdropped : ((c.invalidate req).countEvictions 1).size + 1 = c.size := by
            rw [hone]
            exact size_invalidate hd hfound
          rw [← hdropped, ← hsize]
          exact (Nat.add_assoc _ k 1).symm

/-- **MAKING ROOM IS COUNTED** by the entries that are lost. -/
theorem enforceCapacity_counts (hd : Distinct c.entries) : LossCounts c c.enforceCapacity.1 := by
  have hsize : c.enforceCapacity.1.size + c.lost c.enforceCapacity.1 = c.size := by
    refine size_add_lost hd ((alike_enforceCapacity c).distinct hd) fun r hr => ?_
    rcases find?_enforceCapacity hd with hsame | ⟨hnone, -⟩
    · exact hsame ▸ hr
    · exact absurd hnone hr
  refine ⟨fun hc => ?_, hsize⟩
  obtain ⟨k, hstats, hk⟩ := evict_stats (c.size - c.config.maximumSize) hd hc
  have hlost : c.lost c.enforceCapacity.1 = k :=
    Nat.add_left_cancel (hsize.trans hk.symm)
  rw [hlost]
  exact hstats

/-- **CLEANING UP IS COUNTED** by the entries that are lost. -/
theorem purge_counts (hd : Distinct c.entries) (now : Nat) : LossCounts c (c.purge now).1 := by
  have hsize : (c.purge now).1.size + c.lost (c.purge now).1 = c.size := by
    refine size_add_lost hd ((alike_purge c now).distinct hd) fun r hr hnone => hr ?_
    rw [find?_purge hd, hnone]
    rfl
  refine ⟨fun hc => ?_, hsize⟩
  have hpurge : (c.purge now).1 = { c with
      entries := c.entries.filter fun p => !c.isStale now p.2
      stats := { c.stats with evictions :=
        c.stats.evictions + (c.entries.filter fun p => c.isStale now p.2).length } } := if_pos hc
  have hsplit : (c.purge now).1.size + (c.entries.filter fun p => c.isStale now p.2).length
      = c.size := by
    rw [hpurge, size, Nat.add_comm, ← List.countP_eq_length_filter,
      ← List.countP_eq_length_filter]
    refine Eq.trans ?_ (List.length_eq_countP_add_countP fun p => c.isStale now p.2).symm
    exact congrArg _ (List.countP_congr fun p _ => by simp)
  have hlost := Nat.add_left_cancel (hsize.trans hsplit.symm)
  rw [hlost, hpurge]

/-- Dropping an entry counts nothing. -/
theorem invalidate_size (hd : Distinct c.entries) (r : Request) :
    (c.invalidate r).size + c.lost (c.invalidate r) = c.size := by
  refine size_add_lost hd ((alike_invalidate c r).distinct hd) fun r' hr hnone => hr ?_
  rw [find?_invalidate, hnone]
  split <;> rfl

theorem stats_written (c : Cache) (now : Nat) (t : Ticket) : (c.written now t).stats = c.stats := by
  rw [written]
  split
  · split <;> rfl
  · rfl

theorem stats_failed (c : Cache) (t : Ticket) : (c.failed t).1.stats = c.stats := by
  rw [failed]
  split
  · rfl
  · split
    · rfl
    · split <;> rfl

end Cache

namespace LoadEnd

/-- Whether a loader gave a response. -/
def isSuccess : LoadEnd → Bool
  | .gave (.ok _) _ => true
  | .gave (.error _) _ | .died _ => false

/-- Whether a loader gave a failure. -/
def isFailure : LoadEnd → Bool
  | .gave (.error _) _ => true
  | .gave (.ok _) _ | .died _ => false

/-- Whether a load ended without an outcome. -/
def isDeath : LoadEnd → Bool
  | .died _ => true
  | .gave _ _ => false

variable {c : Cache}

/-- **THE END OF A LOAD IS COUNTED** if it gave an outcome. -/
theorem reach_stats (how : LoadEnd) (hc : c.config.recordStats = true) (now : Nat) (t : Ticket) :
    ∃ time, (how.reach c now t).stats = { c.stats with
      successes := c.stats.successes + how.isSuccess.toNat
      failures := c.stats.failures + how.isFailure.toNat
      loadTime := time } := by
  cases how with
  | died how => exact ⟨c.stats.loadTime, rfl⟩
  | gave outcome length =>
      cases outcome with
      | ok response =>
          refine ⟨⟨c.stats.loadTime.nanos + length.nanos⟩, (Cache.stats_written _ now t).trans ?_⟩
          rw [Cache.countLoad, Cache.count_on hc]
          rfl
      | error cause =>
          refine ⟨⟨c.stats.loadTime.nanos + length.nanos⟩, (Cache.stats_failed _ t).trans ?_⟩
          rw [Cache.countLoad, Cache.count_on hc]
          rfl

theorem reach_size (how : LoadEnd) (hd : Entries.Distinct c.entries) (now : Nat) (t : Ticket) :
    (how.reach c now t).size + c.lost (how.reach c now t) = c.size := by
  refine Cache.size_add_lost hd ((History.alike_reach how c now t).distinct hd) fun r hr hnone => ?_
  refine hr ((find?_reach how).trans ?_)
  split
  · rename_i heq
    rw [← heq, hnone]
    rfl
  · exact hnone

end LoadEnd

/-! ## Caches that do not count -/

namespace Cache

/-- A cache that does not count, and has counted nothing. -/
def uncounted (c : Cache) : Cache :=
  { c with config := c.config.counting false, stats := .zero }

/-- The same, of a result. -/
def bare {β : Type} (result : Cache × β) : Cache × β :=
  (result.1.uncounted, result.2)

variable (c : Cache) (now : Nat) (r : Request) (e : CacheEntry) (t : Ticket)

/-- Nothing that is counted shows in a cache that does not count. -/
theorem uncounted_count (change : CacheStats → CacheStats) :
    (c.count change).uncounted = c.uncounted := by
  rw [count]
  split <;> rfl

/-- A cache that does not count asks the same where nothing is kept. -/
theorem askAbsent_uncounted : c.uncounted.askAbsent now r = bare (c.askAbsent now r) := by
  obtain ⟨stats, hask⟩ := c.askAbsent_eq now r
  rw [hask]
  rfl

/-- It asks the same where an entry has expired. -/
theorem askExpired_uncounted : c.uncounted.askExpired now r e = bare (c.askExpired now r e) := by
  cases hr : e.refresh with
  | none =>
      obtain ⟨stats, hask⟩ := c.askExpired_eq_start now r hr
      rw [hask, askExpired, hr]
      rfl
  | some load =>
      obtain ⟨stats, hask⟩ := c.askExpired_eq_join now r hr
      rw [hask, askExpired, hr]
      rfl

/-- It asks the same where an entry is live. -/
theorem askLive_uncounted : c.uncounted.askLive now r e = bare (c.askLive now r e) := by
  cases hn : e.needsRefresh now c.config.refresh with
  | true =>
      obtain ⟨stats, hask⟩ := c.askLive_eq_refresh r hn
      rw [hask, askLive]
      exact if_pos hn
  | false =>
      obtain ⟨stats, hask⟩ := c.askLive_eq_touch r hn
      rw [hask, askLive]
      exact if_neg (ne_true_of_eq_false hn)

/-- So it asks the same. -/
theorem ask_uncounted : c.uncounted.ask now r = bare (c.ask now r) := by
  have hfound : c.uncounted.find? r = c.find? r := rfl
  cases he : c.find? r with
  | none =>
      rw [ask_of_absent he, ask_of_absent (hfound.trans he)]
      exact c.askAbsent_uncounted now r
  | some e =>
      cases hx : e.isExpired now c.config.expire with
      | true =>
          rw [ask_of_expired he hx, ask_of_expired (hfound.trans he) hx]
          exact c.askExpired_uncounted now r e
      | false =>
          rw [ask_of_live he hx, ask_of_live (hfound.trans he) hx]
          exact c.askLive_uncounted now r e

/-- It evicts the same entries, in the same order. -/
theorem evict_uncounted (n : Nat) : evict n c.uncounted = bare (evict n c) := by
  induction n generalizing c with
  | zero => rfl
  | succ n ih =>
      rw [evict, evict]
      have hsame : c.uncounted.entries = c.entries := rfl
      rw [hsame]
      split
      · rfl
      · rename_i req x hold
        have hcounted : ((c.uncounted.invalidate req).countEvictions 1)
            = ((c.invalidate req).countEvictions 1).uncounted :=
          (uncounted_count (c.invalidate req) _).symm
        have hnext := ih ((c.invalidate req).countEvictions 1)
        rw [← hcounted] at hnext
        exact congrArg (fun x : Cache × List Log => (x.1, Log.evicted req.urlText :: x.2)) hnext

/-- It gives the same to whoever gets. -/
theorem get_uncounted : c.uncounted.get now r = bare (c.get now r) := by
  rw [get, get, ask_uncounted]
  have hroom := evict_uncounted (c.ask now r).1
    ((c.ask now r).1.size - (c.ask now r).1.config.maximumSize)
  exact congrArg (fun x : Cache × List Log =>
    (x.1, { (c.ask now r).2 with told := (c.ask now r).2.told ++ x.2 })) hroom

/-- It removes the same entries in a pass. -/
theorem purge_uncounted : c.uncounted.purge now = bare (c.purge now) := by
  have hcounted :=
    uncounted_count { c with entries := c.entries.filter fun p => !c.isStale now p.2 } fun s =>
      { s with evictions := s.evictions + (c.entries.filter fun p => c.isStale now p.2).length }
  exact congrArg (·, (c.purge now).2) hcounted.symm

/-- It takes the same response. -/
theorem written_uncounted : c.uncounted.written now t = (c.written now t).uncounted := by
  rw [written, written]
  have hfound : c.uncounted.find? t.request = c.find? t.request := rfl
  rw [hfound]
  split
  · split <;> rfl
  · rfl

/-- It takes the same failure. -/
theorem failed_uncounted : c.uncounted.failed t = bare (c.failed t) := by
  rw [failed, failed]
  have hfound : c.uncounted.find? t.request = c.find? t.request := rfl
  rw [hfound]
  split
  · rfl
  · split
    · rfl
    · split <;> rfl

/-- So it takes the same end of a load. -/
theorem reach_uncounted (how : LoadEnd) :
    how.reach c.uncounted now t = (how.reach c now t).uncounted := by
  cases how with
  | died how => rfl
  | gave outcome length =>
      cases outcome with
      | ok response =>
          show (c.uncounted.countLoad true length).written now t = _
          refine Eq.trans ?_ (written_uncounted _ now t)
          exact congrArg (·.written now t) (uncounted_count c _).symm
      | error cause =>
          show ((c.uncounted.countLoad false length).failed t).1 = _
          refine Eq.trans ?_ (congrArg Prod.fst (failed_uncounted _ t))
          exact congrArg (fun c : Cache => (c.failed t).1) (uncounted_count c _).symm

end Cache

namespace History

/-- A history whose cache does not count. -/
def uncounted (h : History) : History :=
  { h with cache := h.cache.uncounted }

/-- **WHETHER IT COUNTS MAKES NO DIFFERENCE** to what a cache does next. -/
theorem uncounted_step (h : History) (ev : CacheEvent) :
    h.uncounted.step ev = (h.step ev).uncounted := by
  cases ev with
  | pass nanos => rfl
  | get r =>
      show ({ h with
        cache := (h.cache.uncounted.get h.now r).1
        flights := h.flights ++ (h.cache.uncounted.get h.now r).2.started.toList.map
          (Flight.begin h.now) } : History) = _
      rw [h.cache.get_uncounted]
      rfl
  | invalidate r => rfl
  | invalidateAll => rfl
  | purge =>
      show ({ h with cache := (h.cache.uncounted.purge h.now).1 } : History) = _
      rw [h.cache.purge_uncounted]
      rfl
  | land load how =>
      show h.uncounted.land load how = (h.land load how).uncounted
      rcases h.running_or_not load with ⟨f, hf, hr⟩ | hn
      · rw [land_of_running how hf hr, land_of_running (h := h.uncounted) how hf hr]
        show ({ h with
          cache := how.reach h.cache.uncounted h.now f.ticket
          flights := h.flights.set load (f.land h.now how) } : History) = _
        rw [h.cache.reach_uncounted]
        rfl
      · rw [land_of_not_running how hn, land_of_not_running (h := h.uncounted) how hn]

/-- A run without counts goes beside the run with them. -/
theorem uncounted_steps (h : History) (events : List CacheEvent) :
    h.uncounted.steps events = (h.steps events).uncounted := by
  induction events generalizing h with
  | nil => rfl
  | cons ev rest ih =>
      rw [steps_cons, uncounted_step, ih]
      rfl

/-- A run of a cache that does not count is one of a cache that does, without the counters. -/
theorem run_uncounted (config : CacheConfig) (events : List CacheEvent) :
    run (config.counting false) events = (run (config.counting true) events).uncounted :=
  uncounted_steps (start (config.counting true)) events

end History

end Courier
