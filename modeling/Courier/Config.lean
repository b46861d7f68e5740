import Courier.Failure
import Courier.Time

/-!
# Config — the settings of a client

The settings of the cache, of the bundled transport and of the retry pool, their defaults, and the
values that would keep a client from working. Settings are compared by value.
-/

namespace Courier

/-- How host names are resolved by the bundled transport. -/
inductive ResolverKind where
  | standard
  | random
  deriving Repr, DecidableEq, Inhabited

/-- The name of a kind of resolver. -/
def ResolverKind.name : ResolverKind → String
  | .standard => "standard"
  | .random => "random"

/-- The settings of the response cache. -/
structure CacheConfig where
  /-- Entries expire this many milliseconds after their value was written. -/
  expireMillis : Nat
  /-- Entries older than this are loaded anew on access, while their value is still served. -/
  refreshMillis : Option Nat
  /-- The bound on the number of entries. -/
  maximumSize : Nat
  /-- Whether lookups and loads are counted. -/
  recordStats : Bool
  /-- How often expired entries are removed in the background. -/
  cleanupMillis : Nat
  deriving Repr, DecidableEq

namespace CacheConfig

/-- The defaults: two seconds to live, no refresh, ten thousand entries, no counters, a cleanup
every minute. -/
def default : CacheConfig :=
  ⟨2000, none, 10000, false, 60000⟩

instance : Inhabited CacheConfig := ⟨default⟩

/-- Refuses a cleanup period of no time. -/
def validate (c : CacheConfig) : Outcome Unit :=
  if c.cleanupMillis = 0 then
    .error (.configuration "cache.cleanup_interval_ms must be greater than zero")
  else .ok ()

/-- The time to live. -/
def expire (c : CacheConfig) : Duration :=
  .ofMillis c.expireMillis

/-- The age at which an entry is loaded anew. -/
def refresh (c : CacheConfig) : Option Duration :=
  c.refreshMillis.map .ofMillis

/-- The cleanup period. -/
def cleanup (c : CacheConfig) : Duration :=
  .ofMillis c.cleanupMillis

end CacheConfig

/-- The settings of the bundled transport. -/
structure WireConfig where
  connectMillis : Option Nat
  requestMillis : Option Nat
  idleMillis : Option Nat
  maxIdlePerHost : Nat
  userAgent : Option String
  followRedirects : Bool
  maxRedirects : Nat
  resolver : ResolverKind
  deriving Repr, DecidableEq

namespace WireConfig

/-- The agent that requests name. -/
def defaultAgent : String := "callgate/0.1.0"

/-- The defaults: five seconds to connect, a minute for all, no redirects. -/
def default : WireConfig :=
  ⟨some 5000, some 60000, some 60000, Nat.pow 2 64 - 1, some defaultAgent, false, 5, .standard⟩

instance : Inhabited WireConfig := ⟨default⟩

end WireConfig

/-- The settings of a client. -/
structure Config where
  cache : CacheConfig
  wire : WireConfig
  /-- The delay between attempts, in milliseconds. -/
  retryMillis : Option Nat
  /-- How many retried requests may run at once. -/
  retryPoolSize : Nat
  deriving Repr, DecidableEq

namespace Config

/-- The defaults: no delay between attempts, sixty-four retry slots. -/
def default : Config :=
  ⟨.default, .default, none, 64⟩

instance : Inhabited Config := ⟨default⟩

/-- The greatest number of retry slots. -/
def maxPoolSize : Nat := Nat.pow 2 61 - 1

/-- Refuses a pool without slots or with too many, and what the cache refuses. -/
def validate (c : Config) : Outcome Unit :=
  if c.retryPoolSize = 0 then .error (.configuration "retry_pool_size must be greater than zero")
  else if c.retryPoolSize > maxPoolSize then
    .error (.configuration
      ("retry_pool_size must not exceed " ++ String.ofList (Numeral.digits maxPoolSize)))
  else c.cache.validate

/-- The delay between attempts. -/
def retryInterval (c : Config) : Duration :=
  .ofMillis (c.retryMillis.getD 0)

end Config

end Courier
