import Courier.Cache.Stats
import Courier.Config
import Courier.Log

/-!
# Cache — one load for all who ask

Every request has at most one entry, and an entry has one load whose outcome everyone gets who asks
while the entry lives. The first to ask starts the load. A value expires some time after it was
written; an expired entry is loaded anew, or takes over the refresh that is already running. With a
refresh age, asking for an older value starts a load in the background while the value is still
served. A load that fails leaves no entry behind, unless the entry still has a value. Entries
belong to a generation, and a load writes only to an entry of its own generation, so what was
invalidated is not brought back by a load that started before.

The cache itself only starts and ends loads; who runs them is not its matter. Times are nanoseconds
of one clock.
-/

namespace Courier

/-- An entry of the cache. -/
structure CacheEntry where
  /-- The load whose outcome callers get. -/
  load : Nat
  generation : Nat
  /-- When its value was written; none while there is no value. -/
  writtenAt : Option Nat
  accessedAt : Nat
  /-- The load that runs in the background. -/
  refresh : Option Nat
  deriving Repr, DecidableEq, Inhabited

namespace CacheEntry

/-- An entry whose first load has just begun. -/
def loading (load generation now : Nat) : CacheEntry :=
  ⟨load, generation, none, now, none⟩

/-- Whether the value is too old to be served. -/
def isExpired (e : CacheEntry) (now : Nat) (life : Duration) : Bool :=
  match e.writtenAt with
  | some written => life.nanos ≤ now - written
  | none => false

/-- Whether the value is old enough to be loaded anew and no load does so yet. -/
def needsRefresh (e : CacheEntry) (now : Nat) (age : Option Duration) : Bool :=
  match age, e.writtenAt with
  | some age, some written => e.refresh.isNone && age.nanos ≤ now - written
  | _, _ => false

/-- Whether a load or a refresh of it runs. -/
def isLoading (e : CacheEntry) : Bool :=
  e.writtenAt.isNone || e.refresh.isSome

end CacheEntry

/-- What a load is for: its number, the request, and the generation it may write to. -/
structure Ticket where
  load : Nat
  request : Request
  generation : Nat
  deriving Repr, DecidableEq, Inhabited

/-- What asking the cache comes to: the load whose outcome is the answer, the load that was started
by asking, if any, and what is told about it. -/
structure Lookup where
  load : Nat
  started : Option Ticket
  told : List Log
  deriving Repr, DecidableEq, Inhabited

/-- The entries of a cache, each request once. -/
abbrev Entries := List (Request × CacheEntry)

namespace Entries

/-- Changes the entry of a request, if there is one. -/
def adjust (request : Request) (change : CacheEntry → CacheEntry) (entries : Entries) : Entries :=
  entries.map fun (r, e) => if r = request then (r, change e) else (r, e)

/-- The entries of all other requests. -/
def remove (request : Request) (entries : Entries) : Entries :=
  entries.filter fun (r, _) => r ≠ request

/-- The one of two entries that was asked for earlier; of equals, the first. -/
def older (a b : Request × CacheEntry) : Request × CacheEntry :=
  if b.2.accessedAt < a.2.accessedAt then b else a

/-- The entry that was not asked for for the longest time, of those that no load is running for. -/
def oldest? (entries : Entries) : Option (Request × CacheEntry) :=
  match entries.filter fun (_, e) => !e.isLoading with
  | [] => none
  | first :: rest => some (rest.foldl older first)

end Entries

/-- A response cache. -/
structure Cache where
  config : CacheConfig
  entries : Entries
  /-- The generations drawn so far. -/
  generations : Nat
  /-- The loads started so far. -/
  loads : Nat
  stats : CacheStats
  deriving Repr, DecidableEq, Inhabited

namespace Cache

/-- An empty cache. -/
def new (config : CacheConfig) : Cache :=
  ⟨config, [], 0, 0, .zero⟩

/-- Counts something, if the cache counts. -/
def count (c : Cache) (change : CacheStats → CacheStats) : Cache :=
  if c.config.recordStats then { c with stats := change c.stats } else c

/-- Counts a hit. -/
def countHit (c : Cache) : Cache :=
  c.count fun s => { s with hits := s.hits + 1 }

/-- Counts a miss. -/
def countMiss (c : Cache) : Cache :=
  c.count fun s => { s with misses := s.misses + 1 }

/-- Counts removed entries. -/
def countEvictions (c : Cache) (n : Nat) : Cache :=
  c.count fun s => { s with evictions := s.evictions + n }

/-- Counts a load that ended. -/
def countLoad (c : Cache) (succeeded : Bool) (length : Duration) : Cache :=
  c.count fun s =>
    let s := { s with loadTime := ⟨s.loadTime.nanos + length.nanos⟩ }
    if succeeded then { s with successes := s.successes + 1 }
    else { s with failures := s.failures + 1 }

/-- The entry of a request. -/
def find? (c : Cache) (request : Request) : Option CacheEntry :=
  c.entries.lookup request

/-- The number of entries. -/
def size (c : Cache) : Nat :=
  c.entries.length

/-- Starts a load for a generation. -/
def startLoad (c : Cache) (request : Request) (generation : Nat) : Cache × Ticket :=
  ({ c with loads := c.loads + 1 }, ⟨c.loads, request, generation⟩)

/-- Starts a load for a new generation. -/
def startFresh (c : Cache) (request : Request) : Cache × Ticket :=
  { c with generations := c.generations + 1 }.startLoad request c.generations

/-- Asks for a request that has no entry. -/
def askAbsent (c : Cache) (now : Nat) (request : Request) : Cache × Lookup :=
  let (c, ticket) := c.countMiss.startFresh request
  ({ c with
    entries := c.entries ++ [(request, .loading ticket.load ticket.generation now)] },
    ⟨ticket.load, some ticket, []⟩)

/-- Asks for a request whose value has expired: the refresh that runs becomes its load, or a new
load is started. -/
def askExpired (c : Cache) (now : Nat) (request : Request) (e : CacheEntry) : Cache × Lookup :=
  let c := (c.countEvictions 1).countMiss
  match e.refresh with
  | some refresh =>
    let joined := { e with load := refresh, writtenAt := none, accessedAt := now }
    ({ c with entries := c.entries.adjust request fun _ => joined },
      ⟨refresh, none, [.joiningRefresh request.urlText]⟩)
  | none =>
    let (c, ticket) := c.startFresh request
    let anew := .loading ticket.load ticket.generation now
    ({ c with entries := c.entries.adjust request fun _ => anew },
      ⟨ticket.load, some ticket, [.reloading request.urlText]⟩)

/-- Asks for a request that is loading or has a value to serve. -/
def askLive (c : Cache) (now : Nat) (request : Request) (e : CacheEntry) : Cache × Lookup :=
  let c := c.countHit
  if e.needsRefresh now c.config.refresh then
    let (c, ticket) := c.startLoad request e.generation
    let refreshed := { e with accessedAt := now, refresh := some ticket.load }
    ({ c with entries := c.entries.adjust request fun _ => refreshed },
      ⟨e.load, some ticket, [.refreshing request.urlText]⟩)
  else
    ({ c with entries := c.entries.adjust request fun e => { e with accessedAt := now } },
      ⟨e.load, none, []⟩)

/-- Asks for a request. -/
def ask (c : Cache) (now : Nat) (request : Request) : Cache × Lookup :=
  match c.find? request with
  | none => c.askAbsent now request
  | some e =>
    if e.isExpired now c.config.expire then c.askExpired now request e
    else c.askLive now request e

/-- Removes up to `excess` entries, the longest unasked first, and none that is loading. -/
def evict : Nat → Cache → Cache × List Log
  | 0, c => (c, [])
  | excess + 1, c =>
    match c.entries.oldest? with
    | none => (c, [])
    | some (request, _) =>
      let c := { c with entries := c.entries.remove request }.countEvictions 1
      let (c, told) := evict excess c
      (c, .evicted request.urlText :: told)

/-- Removes entries until there are no more than allowed, as far as that is possible. -/
def enforceCapacity (c : Cache) : Cache × List Log :=
  evict (c.size - c.config.maximumSize) c

/-- Asks for a request, and then makes room. -/
def get (c : Cache) (now : Nat) (request : Request) : Cache × Lookup :=
  let (c, found) := c.ask now request
  let (c, told) := c.enforceCapacity
  (c, { found with told := found.told ++ told })

/-- Drops the entry of a request. -/
def invalidate (c : Cache) (request : Request) : Cache :=
  { c with entries := c.entries.remove request }

/-- Drops all entries. -/
def invalidateAll (c : Cache) : Cache :=
  { c with entries := [] }

/-- Whether a cleanup removes an entry: its value has expired and no refresh of it runs. -/
def isStale (c : Cache) (now : Nat) (e : CacheEntry) : Bool :=
  e.isExpired now c.config.expire && e.refresh.isNone

/-- Removes what has expired. Gives the number of entries removed. -/
def purge (c : Cache) (now : Nat) : Cache × Nat :=
  let removed := (c.entries.filter fun (_, e) => c.isStale now e).length
  ({ c with entries := c.entries.filter fun (_, e) => !c.isStale now e }.countEvictions removed,
    removed)

/-- A load gave a response: the entry of its generation has a value now. -/
def written (c : Cache) (now : Nat) (ticket : Ticket) : Cache :=
  match c.find? ticket.request with
  | some e =>
    if e.generation = ticket.generation then
      { c with
        entries := c.entries.adjust ticket.request fun e =>
          { e with load := ticket.load, writtenAt := some now, refresh := none } }
    else c
  | none => c

/-- A load failed: the entry of its generation goes on without a refresh if it has a value, and is
removed if it has none. Tells whether a value, or an entry of others, was kept. -/
def failed (c : Cache) (ticket : Ticket) : Cache × Bool :=
  match c.find? ticket.request with
  | none => (c, true)
  | some e =>
    if e.generation ≠ ticket.generation then (c, true)
    else if e.writtenAt.isSome then
      ({ c with
        entries := c.entries.adjust ticket.request fun e => { e with refresh := none } }, true)
    else ({ c with entries := c.entries.remove ticket.request }, false)

/-- A load ended with an outcome after some time. -/
def finish (c : Cache) (now : Nat) (ticket : Ticket) (outcome : Outcome Response)
    (length : Duration) : Cache × List Log :=
  match outcome with
  | .ok _ =>
    ((c.countLoad true length).written now ticket, [.loadCompleted ticket.request.urlText])
  | .error f =>
    let (c, keepsValue) := (c.countLoad false length).failed ticket
    (c, [.loadFailed ticket.request.urlText f keepsValue])

end Cache

end Courier
