import Courier.Config
import Courier.Json.Decode
import Courier.Json.Printer
import Courier.Json.Record

/-!
# Settings as documents

Settings are written as JSON objects with all fields in their order, and read from objects that
name any of them or from lists that give the first ones: what a document does not name keeps its
default. `null` is a value of the optional fields alone.
Settings can be taken out of values that were read before in the same way.
-/

namespace Courier

open Courier.Json

/-- A number, or `null`. -/
def Json.ofNat? : Option Nat → Json
  | some n => .int n
  | none => .null

/-- A natural number of sixty-four bits that counts things of this machine. -/
def Json.size : Reader Nat :=
  natural (Nat.pow 2 64 - 1) "usize"

/-- A natural number of sixty-four bits. -/
def Json.long : Reader Nat :=
  natural (Nat.pow 2 64 - 1) "u64"

/-- A natural number of sixty-four bits that counts things of this machine, out of a value. -/
def Json.Decoder.size : Decoder Nat :=
  natural (Nat.pow 2 64 - 1) "usize"

/-- A natural number of sixty-four bits, out of a value. -/
def Json.Decoder.long : Decoder Nat :=
  natural (Nat.pow 2 64 - 1) "u64"

/-- Reads a value and puts it into a record. -/
def Json.into {α σ : Type} (read : Reader α) (set : α → σ) : Reader σ := fun rest =>
  (read rest).map fun (a, rest) => (set a, rest)

namespace ResolverKind

/-- The kinds of resolver, by name. -/
def byName : List (String × ResolverKind) :=
  [(standard.name, standard), (random.name, random)]

/-- Reads a kind of resolver. -/
def reader : Reader ResolverKind :=
  choice byName

/-- The kind of resolver that a value names. -/
def ofJson : Decoder ResolverKind :=
  .choice byName

end ResolverKind

namespace CacheConfig

/-- The settings as an object. -/
def toJson (c : CacheConfig) : Json :=
  .object [("expire_after_write_ms", .int c.expireMillis),
    ("refresh_after_write_ms", .ofNat? c.refreshMillis),
    ("maximum_size", .int c.maximumSize),
    ("record_stats", .bool c.recordStats),
    ("cleanup_interval_ms", .int c.cleanupMillis)]

/-- How the settings are read. -/
def layout : Layout CacheConfig where
  expected := "struct CacheConfig"
  fields := ["expire_after_write_ms", "refresh_after_write_ms", "maximum_size", "record_stats",
    "cleanup_interval_ms"]
  required := false
  read := fun name c =>
    match name with
    | "expire_after_write_ms" => into long fun n => { c with expireMillis := n }
    | "refresh_after_write_ms" => into (optional long) fun n => { c with refreshMillis := n }
    | "maximum_size" => into size fun n => { c with maximumSize := n }
    | "record_stats" => into flag fun b => { c with recordStats := b }
    | _ => into long fun n => { c with cleanupMillis := n }

/-- Reads settings. -/
def reader : Reader CacheConfig :=
  layout.reader .default

/-- Takes a field out of a value. -/
def setField (name : String) (c : CacheConfig) : Decoder CacheConfig :=
  match name with
  | "expire_after_write_ms" => .into Decoder.long fun n => { c with expireMillis := n }
  | "refresh_after_write_ms" => .into Decoder.long.optional fun n => { c with refreshMillis := n }
  | "maximum_size" => .into Decoder.size fun n => { c with maximumSize := n }
  | "record_stats" => .into Decoder.flag fun b => { c with recordStats := b }
  | _ => .into Decoder.long fun n => { c with cleanupMillis := n }

/-- The settings that a value gives. -/
def ofJson : Decoder CacheConfig :=
  .record layout.expected layout.fields setField .default

end CacheConfig

namespace WireConfig

/-- The settings as an object. -/
def toJson (c : WireConfig) : Json :=
  .object [("connect_timeout_ms", .ofNat? c.connectMillis),
    ("request_timeout_ms", .ofNat? c.requestMillis),
    ("pool_idle_timeout_ms", .ofNat? c.idleMillis),
    ("pool_max_idle_per_host", .int c.maxIdlePerHost),
    ("user_agent", match c.userAgent with | some s => .string s | none => .null),
    ("follow_redirects", .bool c.followRedirects),
    ("max_redirects", .int c.maxRedirects),
    ("resolver", .string c.resolver.name)]

/-- How the settings are read. -/
def layout : Layout WireConfig where
  expected := "struct TransportConfig"
  fields := ["connect_timeout_ms", "request_timeout_ms", "pool_idle_timeout_ms",
    "pool_max_idle_per_host", "user_agent", "follow_redirects", "max_redirects", "resolver"]
  required := false
  read := fun name c =>
    match name with
    | "connect_timeout_ms" => into (optional long) fun n => { c with connectMillis := n }
    | "request_timeout_ms" => into (optional long) fun n => { c with requestMillis := n }
    | "pool_idle_timeout_ms" => into (optional long) fun n => { c with idleMillis := n }
    | "pool_max_idle_per_host" => into size fun n => { c with maxIdlePerHost := n }
    | "user_agent" => into (optional (text "a string")) fun s => { c with userAgent := s }
    | "follow_redirects" => into flag fun b => { c with followRedirects := b }
    | "max_redirects" => into size fun n => { c with maxRedirects := n }
    | _ => into ResolverKind.reader fun k => { c with resolver := k }

/-- Reads settings. -/
def reader : Reader WireConfig :=
  layout.reader .default

/-- Takes a field out of a value. -/
def setField (name : String) (c : WireConfig) : Decoder WireConfig :=
  match name with
  | "connect_timeout_ms" => .into Decoder.long.optional fun n => { c with connectMillis := n }
  | "request_timeout_ms" => .into Decoder.long.optional fun n => { c with requestMillis := n }
  | "pool_idle_timeout_ms" => .into Decoder.long.optional fun n => { c with idleMillis := n }
  | "pool_max_idle_per_host" => .into Decoder.size fun n => { c with maxIdlePerHost := n }
  | "user_agent" =>
    .into (Decoder.text "a string").optional fun s => { c with userAgent := s }
  | "follow_redirects" => .into Decoder.flag fun b => { c with followRedirects := b }
  | "max_redirects" => .into Decoder.size fun n => { c with maxRedirects := n }
  | _ => .into ResolverKind.ofJson fun k => { c with resolver := k }

/-- The settings that a value gives. -/
def ofJson : Decoder WireConfig :=
  .record layout.expected layout.fields setField .default

end WireConfig

namespace Config

/-- The settings as an object. -/
def toJson (c : Config) : Json :=
  .object [("cache", c.cache.toJson), ("transport", c.wire.toJson),
    ("retry_interval_ms", .ofNat? c.retryMillis), ("retry_pool_size", .int c.retryPoolSize)]

/-- The text of the settings. -/
def print (c : Config) : String :=
  c.toJson.print

/-- How the settings are read. -/
def layout : Layout Config where
  expected := "struct ClientConfig"
  fields := ["cache", "transport", "retry_interval_ms", "retry_pool_size"]
  required := false
  read := fun name c =>
    match name with
    | "cache" => into CacheConfig.reader fun v => { c with cache := v }
    | "transport" => into WireConfig.reader fun v => { c with wire := v }
    | "retry_interval_ms" => into (optional long) fun n => { c with retryMillis := n }
    | _ => into size fun n => { c with retryPoolSize := n }

/-- Reads settings. -/
def reader : Reader Config :=
  layout.reader .default

/-- The settings that a document gives. -/
def parse (document : List UInt8) : Except Json.Error Config :=
  Json.whole reader document

end Config

end Courier
