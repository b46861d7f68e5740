import Courier.Decimal.Binary64
import Courier.Time

/-!
# Counters of the cache

Lookups, removals and loads, and what follows from them. Sums stop at the greatest number of
sixty-four bits, and the rates are doubles.
-/

namespace Courier

/-- The counters of a cache. -/
structure CacheStats where
  /-- Lookups that joined an entry. -/
  hits : Nat
  /-- Lookups that needed a load. -/
  misses : Nat
  /-- Entries removed for their age or for want of room. -/
  evictions : Nat
  /-- Loads that gave a response. -/
  successes : Nat
  /-- Loads that failed. -/
  failures : Nat
  /-- The time of all loads together. -/
  loadTime : Duration
  deriving Repr, DecidableEq

namespace CacheStats

/-- Nothing was counted. -/
def zero : CacheStats := ⟨0, 0, 0, 0, 0, .zero⟩

instance : Inhabited CacheStats := ⟨zero⟩

/-- The greatest sum. -/
def maxCount : Nat := Nat.pow 2 64 - 1

/-- All lookups. -/
def requests (s : CacheStats) : Nat :=
  min (s.hits + s.misses) maxCount

/-- All loads that ended. -/
def loads (s : CacheStats) : Nat :=
  min (s.successes + s.failures) maxCount

/-- A share of all lookups, as the nearest double to the quotient of two doubles. -/
def share (s : CacheStats) (part : Nat) : Binary64 :=
  ((Binary64.ofNat part).bind fun a =>
    (Binary64.ofNat s.requests).bind fun b => Binary64.div a b).getD (Binary64.zero false)

/-- The share of hits; one before any lookup. -/
def hitRate (s : CacheStats) : Binary64 :=
  if s.requests = 0 then (Binary64.ofNat 1).getD (Binary64.zero false) else s.share s.hits

/-- The share of misses; zero before any lookup. -/
def missRate (s : CacheStats) : Binary64 :=
  if s.requests = 0 then Binary64.zero false else s.share s.misses

/-- The mean time of a load, and no time before any load. Up to thirty-two bits of loads the time is
divided by its parts, and behind them as a whole. -/
def loadPenalty? (s : CacheStats) : Option Duration :=
  if s.loads < Nat.pow 2 32 then
    if s.loads = 0 then some .zero else s.loadTime.divide? s.loads
  else s.loadTime.divideWide? s.loads

end CacheStats

end Courier
