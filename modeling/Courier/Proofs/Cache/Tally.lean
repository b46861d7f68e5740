import Courier.Proofs.Cache.Counting

/-!
# Tally — the counters of a cache add up

What happens to a cache can be counted along a run by whoever sees its entries and its loads: how
each get goes (`History.went`), and how many entries are lost to want of room, to cleanups, to
invalidations and to loads that fail.  A `History.total` is the sum of such a count over a run, and
where every event keeps a balance, a run does (`total_balance`).  So the counters of a cache that
counts are these sums (`Balanced`), and a cache that does not count is the same without them.
-/

namespace Courier

/-- Whether an event is a get. -/
def CacheEvent.isGet : CacheEvent → Bool
  | .get _ => true
  | _ => false

/-- Whether a load has ended, and in such a way. -/
def Flight.hasEnded (is : LoadEnd → Bool) (f : Flight) : Bool :=
  f.landing.any fun l => is l.how

namespace History

variable {config : CacheConfig} {h : History}

/-! ## Counts and their sums -/

/-- How a get goes now. -/
def asking (h : History) (r : Request) : Asking :=
  h.cache.asking h.now r

/-- The gets that go in such a way. -/
def went (is : Asking → Bool) (h : History) : CacheEvent → Nat
  | .get r => (is (h.asking r)).toNat
  | _ => 0

/-- The entries that are removed to make room. -/
def crowded (h : History) : CacheEvent → Nat
  | .get r => (h.ask r).cache.lost (h.get r).cache
  | _ => 0

/-- The entries that a cleanup removes. -/
def cleaned (h : History) : CacheEvent → Nat
  | .purge => h.cache.lost (h.step .purge).cache
  | _ => 0

/-- The entries that are invalidated. -/
def dropped (h : History) : CacheEvent → Nat
  | .invalidate r => h.cache.lost (h.step (.invalidate r)).cache
  | .invalidateAll => h.cache.lost (h.step .invalidateAll).cache
  | _ => 0

/-- The entries that are removed since a load failed. -/
def failed (h : History) : CacheEvent → Nat
  | .land load how => h.cache.lost (h.step (.land load how)).cache
  | _ => 0

/-- The sum of a count over the events of a run. -/
def total (count : History → CacheEvent → Nat) (h : History) : List CacheEvent → Nat
  | [] => 0
  | ev :: rest => count h ev + total count (h.step ev) rest

theorem total_add (f g : History → CacheEvent → Nat) (h : History) (events : List CacheEvent) :
    total (fun h ev => f h ev + g h ev) h events = total f h events + total g h events := by
  induction events generalizing h with
  | nil => rfl
  | cons ev rest ih =>
      rw [total, total, total, ih]
      omega

/-- **WHAT BALANCES AT EVERY EVENT** balances over a run. -/
theorem total_balance {m : History → Nat} {a b : History → CacheEvent → Nat}
    (hstep : ∀ (h : History) ev, h.Proper config → m (h.step ev) + a h ev = m h + b h ev)
    (hp : h.Proper config) (events : List CacheEvent) :
    m (h.steps events) + total a h events = m h + total b h events := by
  induction events generalizing h with
  | nil => rfl
  | cons ev rest ih =>
      have hone := hstep h ev hp
      have hrest := ih (hp.step ev)
      rw [steps_cons, total, total]
      omega

/-- What every event adds to, a run adds to. -/
theorem total_gain {m : History → Nat} {b : History → CacheEvent → Nat}
    (hstep : ∀ (h : History) ev, h.Proper config → m (h.step ev) = m h + b h ev)
    (hp : h.Proper config) (events : List CacheEvent) :
    m (h.steps events) = m h + total b h events := by
  induction events generalizing h with
  | nil => rfl
  | cons ev rest ih =>
      rw [steps_cons, ih (hp.step ev), hstep h ev hp, total, Nat.add_assoc]

/-- Gets of one kind or the other are all gets. -/
theorem total_went (is : Asking → Bool) (h : History) (events : List CacheEvent) :
    total (went is) h events + total (went fun how => !is how) h events
      = events.countP CacheEvent.isGet := by
  induction events generalizing h with
  | nil => rfl
  | cons ev rest ih =>
      rw [total, total, List.countP_cons, ← ih (h.step ev)]
      cases ev with
      | get r =>
          simp only [went, CacheEvent.isGet]
          cases is (h.asking r) <;> simp <;> omega
      | _ =>
          simp only [went, CacheEvent.isGet]
          simp

/-! ## What an event adds -/

/-- **THE ENTRIES** are those that were added, less those that were lost. -/
theorem size_step (ho : h.Orderly) (ev : CacheEvent) :
    (h.step ev).cache.size + (h.crowded ev + h.cleaned ev + h.dropped ev + h.failed ev)
      = h.cache.size + h.went Asking.isNew ev := by
  cases ev with
  | pass nanos => rfl
  | get r =>
      have hasked := (h.cache.ask_counts h.now r).size
      have hroom := (Cache.enforceCapacity_counts (asked ho r).orderly.distinct).size
      show (h.get r).cache.size + ((h.ask r).cache.lost (h.get r).cache + 0 + 0 + 0)
        = h.cache.size + (h.asking r).isNew.toNat
      exact hroom.trans hasked
  | invalidate r =>
      have hsize := Cache.invalidate_size ho.distinct r
      show (h.cache.invalidate r).size + (0 + 0 + h.cache.lost (h.cache.invalidate r) + 0)
        = h.cache.size + 0
      omega
  | invalidateAll =>
      have hsize : h.cache.invalidateAll.size + h.cache.lost h.cache.invalidateAll = h.cache.size :=
        Cache.size_add_lost ho.distinct List.nodup_nil fun r hr => absurd rfl hr
      show h.cache.invalidateAll.size + (0 + 0 + h.cache.lost h.cache.invalidateAll + 0)
        = h.cache.size + 0
      omega
  | purge =>
      have hsize := (Cache.purge_counts ho.distinct h.now).size
      show (h.cache.purge h.now).1.size + (0 + h.cache.lost (h.cache.purge h.now).1 + 0 + 0)
        = h.cache.size + 0
      omega
  | land load how =>
      have hsize : (h.land load how).cache.size + h.cache.lost (h.land load how).cache
          = h.cache.size := by
        rcases h.running_or_not load with ⟨f, hf, hr⟩ | hn
        · rw [land_of_running how hf hr]
          exact how.reach_size ho.distinct h.now f.ticket
        · rw [land_of_not_running how hn]
          exact Cache.size_add_lost ho.distinct ho.distinct fun r hr => hr
      show (h.land load how).cache.size + (0 + 0 + 0 + h.cache.lost (h.land load how).cache)
        = h.cache.size + 0
      omega

/-- **THE LOADS** are started by gets. -/
theorem flights_step (h : History) (ev : CacheEvent) :
    (h.step ev).flights.length = h.flights.length + h.went Asking.isStart ev := by
  cases ev with
  | get r =>
      have hstarted := (h.cache.ask_counts h.now r).started
      show (h.flights ++ (h.cache.ask h.now r).2.started.toList.map (Flight.begin h.now)).length = _
      rw [List.length_append, List.length_map, hstarted]
      rfl
  | land load how =>
      show (h.land load how).flights.length = _
      rcases h.running_or_not load with ⟨f, hf, hr⟩ | hn
      · rw [land_of_running how hf hr]
        exact List.length_set
      · rw [land_of_not_running how hn]
        rfl
  | _ => rfl

/-- What an event adds to the counters of lookups and removals. -/
structure Counted (h : History) (ev : CacheEvent) : Prop where
  hits : (h.step ev).cache.stats.hits = h.cache.stats.hits + h.went Asking.isHit ev
  misses : (h.step ev).cache.stats.misses
    = h.cache.stats.misses + h.went (fun how => !how.isHit) ev
  evictions : (h.step ev).cache.stats.evictions
    = h.cache.stats.evictions + (h.crowded ev + h.cleaned ev + h.went Asking.isLate ev)

/-- **LOOKUPS AND REMOVALS** are counted as what they are. -/
theorem counted_step (ho : h.Orderly) (hc : h.cache.config.recordStats = true) (ev : CacheEvent) :
    h.Counted ev := by
  cases ev with
  | pass nanos => exact ⟨rfl, rfl, rfl⟩
  | get r =>
      have hasked := (h.cache.ask_counts h.now r).stats hc
      have hroom := (Cache.enforceCapacity_counts (asked ho r).orderly.distinct).stats
        (by rw [(asked ho r).config]; exact hc)
      have hstats : (h.get r).cache.stats = { (h.cache.ask h.now r).1.stats with
          evictions := (h.cache.ask h.now r).1.stats.evictions
            + (h.ask r).cache.lost (h.get r).cache } := hroom
      rw [hasked] at hstats
      refine ⟨?_, ?_, ?_⟩
      · exact congrArg CacheStats.hits hstats
      · exact congrArg CacheStats.misses hstats
      · refine (congrArg CacheStats.evictions hstats).trans ?_
        show h.cache.stats.evictions + (h.asking r).isLate.toNat
            + (h.ask r).cache.lost (h.get r).cache
          = h.cache.stats.evictions + ((h.ask r).cache.lost (h.get r).cache + 0
            + (h.asking r).isLate.toNat)
        omega
  | invalidate r => exact ⟨rfl, rfl, rfl⟩
  | invalidateAll => exact ⟨rfl, rfl, rfl⟩
  | purge =>
      have hstats := (Cache.purge_counts ho.distinct h.now).stats hc
      have hhits : (h.cache.purge h.now).1.stats.hits = h.cache.stats.hits :=
        hstats ▸ rfl
      have hmisses : (h.cache.purge h.now).1.stats.misses = h.cache.stats.misses :=
        hstats ▸ rfl
      refine ⟨hhits, hmisses, (congrArg CacheStats.evictions hstats).trans ?_⟩
      show h.cache.stats.evictions + h.cache.lost (h.cache.purge h.now).1
        = h.cache.stats.evictions + (0 + h.cache.lost (h.cache.purge h.now).1 + 0)
      omega
  | land load how =>
      rcases h.running_or_not load with ⟨f, hf, hr⟩ | hn
      · obtain ⟨time, hstats⟩ := how.reach_stats hc h.now f.ticket
        have hland : (h.step (.land load how)).cache = how.reach h.cache h.now f.ticket :=
          congrArg History.cache (land_of_running how hf hr)
        rw [← hland] at hstats
        exact ⟨by rw [hstats]; rfl, by rw [hstats]; rfl, by rw [hstats]; rfl⟩
      · have hland : h.step (.land load how) = h := land_of_not_running how hn
        exact ⟨congrArg (·.cache.stats.hits) hland, congrArg (·.cache.stats.misses) hland,
          congrArg (·.cache.stats.evictions) hland⟩

/-! ## The ends of loads -/

/-- The loads that have ended in such a way. -/
def endings (is : LoadEnd → Bool) (h : History) : Nat :=
  h.flights.countP (Flight.hasEnded is)

/-- A load that is running ends in one way. -/
theorem endings_land (is : LoadEnd → Bool) {load : Nat} {f : Flight} (how : LoadEnd)
    (hf : h.flight? load = some f) (hr : f.landing = none) :
    (h.land load how).endings is = h.endings is + (is how).toNat := by
  obtain ⟨hlt, hget⟩ := List.getElem?_eq_some_iff.mp hf
  have hbefore : Flight.hasEnded is h.flights[load] = false := by
    rw [hget, Flight.hasEnded, hr]
    rfl
  have hafter : Flight.hasEnded is (f.land h.now how) = is how := rfl
  rw [land_of_running how hf hr, endings, List.countP_set hlt, hbefore, hafter]
  cases is how <;> rfl

/-- Gets start loads, and end none. -/
theorem endings_get (is : LoadEnd → Bool) (h : History) (r : Request) :
    (h.get r).endings is = h.endings is := by
  have hfresh : ((h.cache.get h.now r).2.started.toList.map (Flight.begin h.now)).countP
      (Flight.hasEnded is) = 0 := by
    refine List.countP_eq_zero.mpr fun f hf => ?_
    obtain ⟨t, -, rfl⟩ := List.mem_map.mp hf
    exact Bool.false_ne_true
  show (h.flights ++ _).countP _ = _
  rw [List.countP_append, hfresh]
  rfl

/-- The loads that ended with an outcome are counted. -/
def CountsEndings (h : History) : Prop :=
  h.cache.stats.successes = h.endings LoadEnd.isSuccess ∧
    h.cache.stats.failures = h.endings LoadEnd.isFailure

/-- **LOADS THAT RETURN** are counted as what they return. -/
theorem countsEndings_step (ho : h.Orderly) (hc : h.cache.config.recordStats = true)
    (he : h.CountsEndings) (ev : CacheEvent) : (h.step ev).CountsEndings := by
  obtain ⟨hsuccesses, hfailures⟩ := he
  cases ev with
  | pass nanos => exact ⟨hsuccesses, hfailures⟩
  | get r =>
      have hasked := (h.cache.ask_counts h.now r).stats hc
      have hroom := (Cache.enforceCapacity_counts (asked ho r).orderly.distinct).stats
        (by rw [(asked ho r).config]; exact hc)
      have hstats : (h.get r).cache.stats = { (h.cache.ask h.now r).1.stats with
          evictions := (h.cache.ask h.now r).1.stats.evictions
            + (h.ask r).cache.lost (h.get r).cache } := hroom
      rw [hasked] at hstats
      refine ⟨?_, ?_⟩
      · exact (congrArg CacheStats.successes hstats).trans
          (hsuccesses.trans (h.endings_get _ r).symm)
      · exact (congrArg CacheStats.failures hstats).trans
          (hfailures.trans (h.endings_get _ r).symm)
  | invalidate r => exact ⟨hsuccesses, hfailures⟩
  | invalidateAll => exact ⟨hsuccesses, hfailures⟩
  | purge =>
      have hstats := (Cache.purge_counts ho.distinct h.now).stats hc
      exact ⟨(congrArg CacheStats.successes hstats).trans hsuccesses,
        (congrArg CacheStats.failures hstats).trans hfailures⟩
  | land load how =>
      show (h.land load how).CountsEndings
      rcases h.running_or_not load with ⟨f, hf, hr⟩ | hn
      · obtain ⟨time, hstats⟩ := how.reach_stats hc h.now f.ticket
        have hland : (h.land load how).cache = how.reach h.cache h.now f.ticket :=
          congrArg History.cache (land_of_running how hf hr)
        rw [← hland] at hstats
        rw [CountsEndings, endings_land _ how hf hr, endings_land _ how hf hr, ← hsuccesses,
          ← hfailures]
        exact ⟨congrArg CacheStats.successes hstats, congrArg CacheStats.failures hstats⟩
      · rw [land_of_not_running how hn]
        exact ⟨hsuccesses, hfailures⟩

/-- A load runs, or has ended with a response, with a failure, or without an outcome. -/
theorem endings_all (h : History) :
    h.endings LoadEnd.isSuccess + h.endings LoadEnd.isFailure + h.running.length
      + h.endings LoadEnd.isDeath = h.flights.length := by
  have hrunning : h.running.length = h.flights.countP fun f => f.landing.isNone := by
    rw [running, List.length_map, List.countP_eq_length_filter]
  rw [hrunning]
  simp only [endings]
  induction h.flights with
  | nil => rfl
  | cons f rest ih =>
      simp only [List.countP_cons, List.length_cons, ← ih]
      obtain ⟨ticket, started, landing⟩ := f
      rcases landing with - | ⟨time, (_ | _) | _⟩ <;> simp [Flight.hasEnded, LoadEnd.isSuccess,
        LoadEnd.isFailure, LoadEnd.isDeath] <;> omega

/-! ## The books of a run -/

/-- **THE BOOKS BALANCE**: the counters of a cache after a run are what happened in the run, counted
    by its gets, its loads and its entries. -/
structure Balanced (first last : History) (events : List CacheEvent) : Prop where
  /-- Every get was a hit or a miss. -/
  lookups : last.cache.stats.hits + last.cache.stats.misses = events.countP CacheEvent.isGet
  /-- Every miss started a load but those that joined a refresh, and so did the hits that started
      one. -/
  loads : last.flights.length + total (went fun how => how = .joined) first events
    = last.cache.stats.misses + total (went fun how => how = .refreshed) first events
  /-- The loads that are counted are those whose loader returned, with a response or a failure. -/
  successes : last.cache.stats.successes = last.endings LoadEnd.isSuccess
  failures : last.cache.stats.failures = last.endings LoadEnd.isFailure
  /-- These are all but the loads that run and those that ended without an outcome. -/
  ended : last.cache.stats.successes + last.cache.stats.failures + last.running.length
    + last.endings LoadEnd.isDeath = last.flights.length
  /-- Entries are removed to make room, and by cleanups, and expired ones are found by gets. -/
  evictions : last.cache.stats.evictions
    = total crowded first events + total cleaned first events
      + total (went Asking.isLate) first events
  /-- The entries are those that misses on absent keys added, less those that were removed. -/
  entries : last.cache.size + (total crowded first events + total cleaned first events
      + total dropped first events + total failed first events)
    = total (went fun how => how = .absent) first events

/-- Every load was started by a miss or by a hit, and every miss that joined no refresh started
    one. -/
theorem total_starts (h : History) (events : List CacheEvent) :
    total (went Asking.isStart) h events + total (went fun how => how = .joined) h events
      = total (went fun how => !how.isHit) h events
        + total (went fun how => how = .refreshed) h events := by
  rw [← total_add, ← total_add]
  congr 1
  funext h ev
  cases ev with
  | get r =>
      simp only [went]
      cases h.asking r <;> rfl
  | _ => rfl

theorem balanced_run (config : CacheConfig) (hc : config.recordStats = true)
    (events : List CacheEvent) : Balanced (start config) (run config events) events := by
  have hp : (start config).Proper config := proper_start config
  have hon : ∀ h : History, h.Proper config → h.cache.config.recordStats = true :=
    fun h hp => hp.config ▸ hc
  have hhits := total_gain (m := fun h => h.cache.stats.hits)
    (fun h ev hp => (counted_step hp.orderly (hon h hp) ev).hits) hp events
  have hmisses := total_gain (m := fun h => h.cache.stats.misses)
    (fun h ev hp => (counted_step hp.orderly (hon h hp) ev).misses) hp events
  have hevictions := total_gain (m := fun h => h.cache.stats.evictions)
    (fun h ev hp => (counted_step hp.orderly (hon h hp) ev).evictions) hp events
  have hflights := total_gain (m := fun h => h.flights.length)
    (fun h ev _ => flights_step h ev) hp events
  have hsize := total_balance (m := fun h => h.cache.size)
    (fun h ev hp => size_step hp.orderly ev) hp events
  have hendings : (run config events).Proper config ∧ (run config events).CountsEndings :=
    steps_induct (P := fun h => h.Proper config ∧ h.CountsEndings)
      (fun h ev ⟨hp, he⟩ => ⟨hp.step ev, countsEndings_step hp.orderly (hon h hp) he ev⟩)
      ⟨hp, rfl, rfl⟩ events
  obtain ⟨-, hsuccesses, hfailures⟩ := hendings
  have hwent := total_went Asking.isHit (start config) events
  have hstarts := total_starts (start config) events
  have hall := (run config events).endings_all
  simp only [total_add] at hevictions hsize
  have hzero : (start config).cache.stats = .zero ∧ (start config).flights = [] ∧
      (start config).cache.size = 0 := ⟨rfl, rfl, rfl⟩
  obtain ⟨hstats, hnone, hempty⟩ := hzero
  rw [hstats] at hhits hmisses hevictions
  rw [hnone] at hflights
  rw [hempty] at hsize
  have hrun : (start config).steps events = run config events := rfl
  rw [hrun] at hhits hmisses hevictions hflights hsize
  simp only [CacheStats.zero, List.length_nil, Nat.zero_add] at hhits hmisses hevictions hflights hsize
  refine
    { lookups := by rw [hhits, hmisses, hwent]
      loads := by rw [hflights, hmisses, hstarts]
      successes := hsuccesses
      failures := hfailures
      ended := by rw [hsuccesses, hfailures, hall]
      evictions := hevictions
      entries := hsize }

/-- **THE LEDGER OF A CACHE.**  After every run of a cache that counts, the books balance.  A cache
    that does not count has counted nothing, and is otherwise the same: at any time it has the same
    entries and has started the same loads, which ended alike, and whoever asks gets the same. -/
theorem ledger_of_cache (config : CacheConfig) (events : List CacheEvent) :
    Balanced (start (config.counting true)) (run (config.counting true) events) events ∧
      (run (config.counting false) events).cache.stats = .zero ∧
      (run (config.counting false) events).cache.entries
        = (run (config.counting true) events).cache.entries ∧
      (run (config.counting false) events).flights
        = (run (config.counting true) events).flights ∧
      ∀ now r, ((run (config.counting false) events).cache.get now r).2
        = ((run (config.counting true) events).cache.get now r).2 := by
  refine ⟨balanced_run _ rfl events, ?_⟩
  rw [run_uncounted]
  refine ⟨rfl, rfl, rfl, fun now r => ?_⟩
  show (((run (config.counting true) events).cache.uncounted).get now r).2 = _
  rw [Cache.get_uncounted]
  rfl

end History

end Courier
