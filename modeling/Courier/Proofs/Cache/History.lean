import Courier.Cache

/-!
# Histories — everything that can happen to a cache

A cache starts loads and is told how they end, but when a load ends, and how, is not for the cache
to say.  A `History` is a cache together with the time and every load it ever started; a
`CacheEvent` is one thing that happens to it, and `History.run` lets any list of events happen, in
any order and with any time between them.  A load that is running may land at any moment: its loader
gives an outcome, or its task ends without one, in a panic or dropped, and then the cache hears
nothing of it.

What decides who gets which load is only the time, the loads, and the entry of each request: this
is the `CacheView` of a history.
-/

namespace Courier

/-- How a load ends: its loader gives an outcome, which took some time, or its task ends without
    one. -/
inductive LoadEnd where
  | gave (outcome : Outcome Response) (length : Duration)
  | died (how : TaskEnd)

namespace LoadEnd

/-- The outcome of the load for those who wait for it. -/
def outcome : LoadEnd → Outcome Response
  | .gave outcome _ => outcome
  | .died how => .error (.taskFailed how)

/-- What becomes of a cache when a load ends: the cache hears of outcomes only. -/
def reach (how : LoadEnd) (c : Cache) (now : Nat) (ticket : Ticket) : Cache :=
  match how with
  | .gave outcome length => (c.finish now ticket outcome length).1
  | .died _ => c

end LoadEnd

/-- The end of a load: when it ended, and how. -/
structure Landing where
  time : Nat
  how : LoadEnd

/-- A load that was started: its ticket, when that was, and its end once it has ended. -/
structure Flight where
  ticket : Ticket
  started : Nat
  landing : Option Landing

namespace Flight

/-- A load that is started now. -/
def begin (now : Nat) (ticket : Ticket) : Flight :=
  ⟨ticket, now, none⟩

/-- The load when it ends now. -/
def land (f : Flight) (now : Nat) (how : LoadEnd) : Flight :=
  { f with landing := some ⟨now, how⟩ }

end Flight

/-- A cache, the time, and every load the cache has started, by its number. -/
structure History where
  cache : Cache
  now : Nat
  flights : List Flight

/-- What can happen to a cache. -/
inductive CacheEvent where
  /-- Time passes, in nanoseconds. -/
  | pass (nanos : Nat)
  | get (request : Request)
  | invalidate (request : Request)
  | invalidateAll
  | purge
  /-- A load ends, if it is running. -/
  | land (load : Nat) (how : LoadEnd)

/-- Whether an event invalidates the entry of a request. -/
def CacheEvent.invalidates (r : Request) : CacheEvent → Bool
  | .invalidate r' => r = r'
  | .invalidateAll => true
  | _ => false

namespace History

/-- An empty cache at the beginning of time. -/
def start (config : CacheConfig) : History :=
  ⟨.new config, 0, []⟩

/-- The number of the load whose outcome a caller gets who asks for a request now. -/
def answer (h : History) (r : Request) : Nat :=
  (h.cache.get h.now r).2.load

/-- Asks for a request, before room is made. -/
def ask (h : History) (r : Request) : History :=
  { h with
    cache := (h.cache.ask h.now r).1
    flights := h.flights ++ (h.cache.ask h.now r).2.started.toList.map (Flight.begin h.now) }

/-- Asks for a request. -/
def get (h : History) (r : Request) : History :=
  { h with
    cache := (h.cache.get h.now r).1
    flights := h.flights ++ (h.cache.get h.now r).2.started.toList.map (Flight.begin h.now) }

/-- The load with a number, if it was started. -/
def flight? (h : History) (load : Nat) : Option Flight :=
  h.flights[load]?

/-- Ends a load, if it is running. -/
def land (h : History) (load : Nat) (how : LoadEnd) : History :=
  match h.flight? load with
  | none => h
  | some f =>
    if f.landing.isNone then
      { h with
        cache := how.reach h.cache h.now f.ticket
        flights := h.flights.set load (f.land h.now how) }
    else h

/-- Lets an event happen. -/
def step (h : History) : CacheEvent → History
  | .pass nanos => { h with now := h.now + nanos }
  | .get r => h.get r
  | .invalidate r => { h with cache := h.cache.invalidate r }
  | .invalidateAll => { h with cache := h.cache.invalidateAll }
  | .purge => { h with cache := (h.cache.purge h.now).1 }
  | .land load how => h.land load how

/-- Lets events happen one after the other. -/
def steps (h : History) (events : List CacheEvent) : History :=
  events.foldl step h

/-- The history of a new cache. -/
def run (config : CacheConfig) (events : List CacheEvent) : History :=
  (start config).steps events

/-- The tickets of the loads that have not ended. -/
def running (h : History) : List Ticket :=
  (h.flights.filter fun f => f.landing.isNone).map Flight.ticket

/-- What the callers of a load get, once it has ended. -/
def result? (h : History) (load : Nat) : Option (Outcome Response) :=
  match h.flight? load with
  | some ⟨_, _, some l⟩ =>
    match l.how.outcome with
    | .ok response => some (.ok response)
    | .error f => some (.error (.sharedLoad f))
  | _ => none

@[simp] theorem steps_cons (h : History) (ev : CacheEvent) (events : List CacheEvent) :
    h.steps (ev :: events) = (h.step ev).steps events := rfl

theorem steps_append (h : History) (before after : List CacheEvent) :
    h.steps (before ++ after) = (h.steps before).steps after :=
  List.foldl_append

theorem run_append (config : CacheConfig) (before after : List CacheEvent) :
    run config (before ++ after) = (run config before).steps after :=
  steps_append _ before after

/-- What every event keeps, a history keeps. -/
theorem steps_induct {P : History → Prop} (hstep : ∀ h ev, P h → P (h.step ev))
    {h : History} (hP : P h) (events : List CacheEvent) : P (h.steps events) := by
  induction events generalizing h with
  | nil => exact hP
  | cons ev rest ih => exact ih (hstep h ev hP)

end History

/-- What of a history decides who gets which load: the time, the generations drawn, the loads, and
    the entry of each request. -/
structure CacheView where
  now : Nat
  generations : Nat
  flights : List Flight
  find? : Request → Option CacheEntry

namespace CacheView

/-- The load with a number, if it was started. -/
def flight? (v : CacheView) (load : Nat) : Option Flight :=
  v.flights[load]?

/-- Gives a request an entry, or takes it away. -/
def put (v : CacheView) (r : Request) (e : Option CacheEntry) : CacheView :=
  { v with find? := fun r' => if r' = r then e else v.find? r' }

/-- Starts a load. -/
def begin (v : CacheView) (r : Request) (generation : Nat) : CacheView :=
  { v with flights := v.flights ++ [Flight.begin v.now ⟨v.flights.length, r, generation⟩] }

/-- Ends a load. -/
def land (v : CacheView) (load : Nat) (f : Flight) (how : LoadEnd) : CacheView :=
  { v with flights := v.flights.set load (f.land v.now how) }

/-- A view is what it says of the time, the generations, the loads and the entries. -/
theorem eq_of_parts {v w : CacheView} (hn : w.now = v.now) (hg : w.generations = v.generations)
    (hf : w.flights = v.flights) (he : ∀ r, w.find? r = v.find? r) : w = v := by
  obtain ⟨now, generations, flights, find?⟩ := w
  obtain ⟨now', generations', flights', find?'⟩ := v
  cases hn
  cases hg
  cases hf
  cases (funext he : find? = find?')
  rfl

theorem length_begin (v : CacheView) (r : Request) (generation : Nat) :
    (v.begin r generation).flights.length = v.flights.length + 1 :=
  List.length_append

theorem put_find?_self (v : CacheView) (r : Request) (e : Option CacheEntry) :
    (v.put r e).find? r = e :=
  if_pos rfl

theorem put_find?_of_ne (v : CacheView) {r r' : Request} (e : Option CacheEntry)
    (h : r' ≠ r) : (v.put r e).find? r' = v.find? r' :=
  if_neg h

end CacheView

/-- The view of a history. -/
def History.view (h : History) : CacheView :=
  ⟨h.now, h.cache.generations, h.flights, h.cache.find?⟩

end Courier
