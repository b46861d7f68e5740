import Courier.Engine
import Courier.Retry.Strategy

/-!
# Client — calls through a cache, and calls around it

A client sends GET requests that are not critical through its cache and all others straight to the
transport. Requests that want retries share a pool of slots. A closed client turns calls down at
once; calls that hold a slot, or run without one, go on to their end.
-/

namespace Courier

/-- What a client without an engine to run on is told. -/
def noEngineReason : String :=
  "No Tokio runtime available: there is no reactor running, must be called from the context of " ++
    "a Tokio 1.x runtime"

/-- Refuses invalid settings, and a client with no engine to run on. -/
def Config.check (config : Config) (hasEngine : Bool) : Outcome Unit :=
  match config.validate with
  | .error f => .error f
  | .ok () => if hasEngine then .ok () else .error (.configuration noEngineReason)

/-- What is told of a client that was built. -/
def Config.toldOfBuilding (config : Config) : Log :=
  .clientBuilt config.retryPoolSize config.cache.maximumSize config.cache.expireMillis

namespace Delayer

/-- Waits as a strategy says, with all of the delay where jitter could leave less. -/
def ofStrategy (s : Strategy) : Delayer :=
  fun _ attempt => s.fullDelay attempt

end Delayer

namespace Engine

variable {α : Type}

/-- The engine of a new client. -/
def ofConfig (config : Config) (hasEngine : Bool) (parts : Parts) (present : Response → α)
    (epoch : Int) : Outcome (Engine α) :=
  (config.check hasEngine).map fun () =>
    let engine := new parts (fun request => dispatch request .response) present
      (.start epoch config.retryPoolSize) config.cache
    engine.startCleaner.tell none config.toldOfBuilding

/-- Whether the client is closed. -/
def isClosed (e : Engine α) : Bool :=
  e.ledger.closed

/-- Calls around the cache. The handler makes the result. -/
def criticalExecuteWith (e : Engine α) (request : Request) (handler : Handler α) :
    Engine α × Nat :=
  if e.isClosed then e.decidedFuture (.error .closed)
  else e.driveFuture (dispatch request handler)

/-- Calls around the cache. -/
def criticalExecute (e : Engine α) (request : Request) : Engine α × Nat :=
  e.criticalExecuteWith request (Handler.response.map e.present)

/-- Calls, through the cache where the request allows it. -/
def execute (e : Engine α) (request : Request) : Engine α × Nat :=
  if e.isClosed then e.decidedFuture (.error .closed)
  else if !request.isCacheEligible then e.criticalExecute request
  else
    let (e, load) := (e.tell none (.throughCache request.urlText)).lookup request
    e.spawnFuture fun future => .deliver future load

/-- Calls for one request after the other. -/
def callAll (call : Engine α → Request → Engine α × Nat) :
    Engine α → List Request → Engine α × List Nat
  | e, [] => (e, [])
  | e, request :: rest =>
    let (e, future) := call e request
    let (e, futures) := callAll call e rest
    (e, future :: futures)

/-- Closes the client: its transport, its pool of slots and the cleanup of its cache. -/
def close (e : Engine α) : Engine α :=
  if e.isClosed then e
  else
    let (pool, waiting) := e.ledger.pool.close
    let e := { e with ledger := { e.ledger with closed := true, pool := pool } }.wakeAll waiting
    let e := { e with ledger := { e.ledger with shut := true } }.mark none .transportClosed
    e.stopCleaner.tell none .clientClosed

/-- Drops the entry of a request. -/
def invalidate (e : Engine α) (request : Request) : Engine α :=
  { e with cache := e.cache.invalidate request }

/-- Drops all entries. -/
def invalidateAll (e : Engine α) : Engine α :=
  { e with cache := e.cache.invalidateAll }

/-- Removes what has expired. Gives the number of entries removed. -/
def cleanup (e : Engine α) : Engine α × Nat :=
  let (cache, removed) := e.cache.purge e.ledger.elapsed
  ({ e with cache := cache }, removed)

end Engine

end Courier
