import Courier.Config.Document
import Courier.Proofs.Json.Spelling

/-!
# Documents — settings and the texts they are read from

Settings read back from their own text.  A document may also name some of the fields alone, in any
order and with blanks between its parts: what it does not name keeps its default, what it names is
replaced, and `null` clears a field that may be empty (`Choice`).  Each record says once what its
fields make of their values (`takes_field`); the rest is the same for all three of them.
-/

namespace Courier

open Json Text.Utf8

/-- Which fields a document names, in which order, and which of them it gives as `null`; only some
    fields can be. -/
structure Choice (fields optionals : List String) where
  names : List String
  nulls : List String
  nodup : names.Nodup
  known : names ⊆ fields
  optional : nulls ⊆ optionals

namespace Choice

variable {α : Type} {fields optionals : List String}

/-- All fields, and none of them as `null`. -/
def all (h : fields.Nodup) : Choice fields optionals :=
  ⟨fields, [], h, List.Subset.refl fields, List.nil_subset _⟩

/-- The members of a document that names these fields of an object. -/
def members (ch : Choice fields optionals) (value : String → Json) : List (String × Json) :=
  ch.names.map fun name => (name, if name ∈ ch.nulls then .null else value name)

end Choice

/-- A field of a record, if these names name it, and otherwise as it was. -/
def picked {α : Type} (names : List String) (name : String) (mine base : α) : α :=
  if name ∈ names then mine else base

/-- A field that may be empty, and is if it is given as `null`. -/
def cleared {α : Type} (nulls : List String) (name : String) (mine : Option α) : Option α :=
  if name ∈ nulls then none else mine

namespace CacheConfig

/-- The numbers fit sixty-four bits. -/
structure Fits (c : CacheConfig) : Prop where
  expire : c.expireMillis ≤ maxInteger
  refresh : ∀ n ∈ c.refreshMillis, n ≤ maxInteger
  size : c.maximumSize ≤ maxInteger
  cleanup : c.cleanupMillis ≤ maxInteger

/-- The fields that may be empty. -/
def optionals : List String := ["refresh_after_write_ms"]

/-- The settings `base`, with the fields of `c` that these names name; those that are given as
    `null` are empty. -/
def laidOn (names nulls : List String) (c base : CacheConfig) : CacheConfig where
  expireMillis := picked names "expire_after_write_ms" c.expireMillis base.expireMillis
  refreshMillis := picked names "refresh_after_write_ms"
    (cleared nulls "refresh_after_write_ms" c.refreshMillis) base.refreshMillis
  maximumSize := picked names "maximum_size" c.maximumSize base.maximumSize
  recordStats := picked names "record_stats" c.recordStats base.recordStats
  cleanupMillis := picked names "cleanup_interval_ms" c.cleanupMillis base.cleanupMillis

/-- The document that names these fields of the settings. -/
def document (ch : Choice layout.fields optionals) (c : CacheConfig) : Json :=
  .object (ch.members c.toJson.get)

end CacheConfig

namespace WireConfig

/-- The numbers fit sixty-four bits. -/
structure Fits (c : WireConfig) : Prop where
  connect : ∀ n ∈ c.connectMillis, n ≤ maxInteger
  request : ∀ n ∈ c.requestMillis, n ≤ maxInteger
  idle : ∀ n ∈ c.idleMillis, n ≤ maxInteger
  perHost : c.maxIdlePerHost ≤ maxInteger
  redirects : c.maxRedirects ≤ maxInteger

/-- The fields that may be empty. -/
def optionals : List String :=
  ["connect_timeout_ms", "request_timeout_ms", "pool_idle_timeout_ms", "user_agent"]

/-- The settings `base`, with the fields of `c` that these names name; those that are given as
    `null` are empty. -/
def laidOn (names nulls : List String) (c base : WireConfig) : WireConfig where
  connectMillis := picked names "connect_timeout_ms"
    (cleared nulls "connect_timeout_ms" c.connectMillis) base.connectMillis
  requestMillis := picked names "request_timeout_ms"
    (cleared nulls "request_timeout_ms" c.requestMillis) base.requestMillis
  idleMillis := picked names "pool_idle_timeout_ms"
    (cleared nulls "pool_idle_timeout_ms" c.idleMillis) base.idleMillis
  maxIdlePerHost := picked names "pool_max_idle_per_host" c.maxIdlePerHost base.maxIdlePerHost
  userAgent := picked names "user_agent" (cleared nulls "user_agent" c.userAgent) base.userAgent
  followRedirects := picked names "follow_redirects" c.followRedirects base.followRedirects
  maxRedirects := picked names "max_redirects" c.maxRedirects base.maxRedirects
  resolver := picked names "resolver" c.resolver base.resolver

/-- The document that names these fields of the settings. -/
def document (ch : Choice layout.fields optionals) (c : WireConfig) : Json :=
  .object (ch.members c.toJson.get)

end WireConfig

/-- Which fields a document names, at the top and in the settings of the cache and the transport. -/
structure Naming where
  top : Choice Config.layout.fields ["retry_interval_ms"]
  cache : Choice CacheConfig.layout.fields CacheConfig.optionals
  wire : Choice WireConfig.layout.fields WireConfig.optionals

namespace Config

/-- The numbers fit sixty-four bits. -/
structure Fits (c : Config) : Prop where
  cache : c.cache.Fits
  wire : c.wire.Fits
  retry : ∀ n ∈ c.retryMillis, n ≤ maxInteger
  poolSize : c.retryPoolSize ≤ maxInteger

/-- The value of a field in a document: the settings of the cache and the transport are documents
    themselves. -/
def value (ch : Naming) (c : Config) (name : String) : Json :=
  if name = "cache" then c.cache.document ch.cache
  else if name = "transport" then c.wire.document ch.wire
  else c.toJson.get name

/-- The document that names these fields of the settings. -/
def document (ch : Naming) (c : Config) : Json :=
  .object (ch.top.members (value ch c))

/-- The settings `base`, with the fields of `c` that these names name. -/
def laidOn (ch : Naming) (names : List String) (c base : Config) : Config where
  cache := picked names "cache" (c.cache.laidOn ch.cache.names ch.cache.nulls .default) base.cache
  wire := picked names "transport" (c.wire.laidOn ch.wire.names ch.wire.nulls .default) base.wire
  retryMillis := picked names "retry_interval_ms"
    (cleared ch.top.nulls "retry_interval_ms" c.retryMillis) base.retryMillis
  retryPoolSize := picked names "retry_pool_size" c.retryPoolSize base.retryPoolSize

/-- What such a document is to give: the defaults, with the fields of `c` that it names. -/
def given (ch : Naming) (c : Config) : Config :=
  laidOn ch ch.top.names c .default

end Config

/-! ## One field -/

section Fields

variable {α σ : Type}

theorem picked_nil (name : String) (mine base : α) : picked [] name mine base = base :=
  if_neg List.not_mem_nil

/-- Names are as good one after the other as all at once. -/
theorem picked_cons (first : String) (names : List String) (name : String) (mine base : α) :
    picked (first :: names) name mine base
      = picked names name mine (picked [first] name mine base) := by
  rw [picked, picked, picked]
  -- a name that comes again finds the value that it would put there
  by_cases hfirst : name = first <;> by_cases hnames : name ∈ names <;> simp [hfirst, hnames]

theorem takes_into {read : Reader α} {v : Json} {a : α} (h : Takes read v a) (set : α → σ) :
    Takes (Json.into read set) v (set a) := by
  intro text ht blanks rest hb hrest
  rw [Json.into, h text ht blanks rest hb hrest]
  rfl

theorem takes_long {n : Nat} (h : n ≤ maxInteger) : Takes long (.int n) n :=
  takes_natural "u64" h (Nat.le_refl _)

theorem takes_size {n : Nat} (h : n ≤ maxInteger) : Takes size (.int n) n :=
  takes_natural "usize" h (Nat.le_refl _)

/-- A number that may be empty. -/
theorem takes_optional_long {n : Option Nat} (h : ∀ m ∈ n, m ≤ maxInteger) :
    Takes (optional long) (.ofNat? n) n := by
  cases n with
  | none => exact takes_optional_null long
  | some m => exact takes_optional (takes_long (h m rfl)) nofun

/-- A field that may be empty is taken from its value, or from `null`. -/
theorem takes_cleared {read : Reader α} {v : Json} {a : Option α} (name : String)
    (nulls : List String) (h : Takes (optional read) v a) :
    Takes (optional read) (if name ∈ nulls then .null else v) (cleared nulls name a) := by
  rw [cleared]
  split
  · exact takes_optional_null read
  · exact h

/-- A field that may not be empty is never given as `null`. -/
theorem takes_present {read : Reader α} {v : Json} {a : α} {name : String}
    {nulls optionals : List String} (hnulls : nulls ⊆ optionals) (hname : name ∉ optionals)
    (h : Takes read v a) : Takes read (if name ∈ nulls then .null else v) a := by
  rwa [if_neg fun hmem => hname (hnulls hmem)]

/-- What names one field after the other fills a record one after the other. -/
theorem fills_names {l : Layout σ} {lay : List String → σ → σ} {value : String → Json}
    (hnil : ∀ record, lay [] record = record)
    (hcons : ∀ name names record, lay (name :: names) record = lay names (lay [name] record))
    {names : List String} (h : ∀ name ∈ names, ∀ record,
      Takes (l.read name record) (value name) (lay [name] record)) (record : σ) :
    Fills l (names.map fun name => (name, value name)) record (lay names record) := by
  induction names generalizing record with
  | nil =>
      rw [hnil]
      exact .nil record
  | cons name names ih =>
      obtain ⟨hname, hnames⟩ := List.forall_mem_cons.mp h
      rw [hcons]
      exact .cons (hname record) (ih hnames _)

/-- **A DOCUMENT THAT NAMES SOME FIELDS** replaces these fields, if each of them is replaced. -/
theorem takes_members {l : Layout σ} {optionals : List String} (ch : Choice l.fields optionals)
    (lay : List String → σ → σ) (value : String → Json) (hl : l.required = false)
    (hnil : ∀ record, lay [] record = record)
    (hcons : ∀ name names record, lay (name :: names) record = lay names (lay [name] record))
    (h : ∀ name ∈ l.fields, ∀ record, Takes (l.read name record)
      (if name ∈ ch.nulls then .null else value name) (lay [name] record)) (record : σ) :
    Takes (l.reader record) (.object (ch.members value)) (lay ch.names record) := by
  refine takes_record hl (fills_names hnil hcons (fun name hn => h name (ch.known hn)) record)
    ?_ ?_
  · intro m hm
    obtain ⟨name, hname, rfl⟩ := List.mem_map.mp hm
    exact ch.known hname
  · rw [Choice.members, List.map_map]
    exact (List.map_id ch.names).symm ▸ ch.nodup

end Fields

namespace CacheConfig

variable {c : CacheConfig}

theorem laidOn_nil (nulls : List String) (c base : CacheConfig) :
    laidOn [] nulls c base = base := by
  simp only [laidOn, picked_nil]

theorem laidOn_cons (nulls : List String) (c : CacheConfig) (name : String) (names : List String)
    (base : CacheConfig) :
    laidOn (name :: names) nulls c base = laidOn names nulls c (laidOn [name] nulls c base) := by
  simp only [laidOn, ← picked_cons]

/-- **WHAT ONE FIELD MAKES** of the settings of the cache. -/
theorem takes_field (hc : c.Fits) {nulls : List String} (hnulls : nulls ⊆ optionals) {name : String}
    (hname : name ∈ layout.fields) (base : CacheConfig) :
    Takes (layout.read name base) (if name ∈ nulls then .null else c.toJson.get name)
      (laidOn [name] nulls c base) := by
  simp only [layout, List.mem_cons, List.not_mem_nil, or_false] at hname
  rcases hname with rfl | rfl | rfl | rfl | rfl
  · refine takes_present hnulls (by decide) ?_
    exact takes_into (takes_long hc.expire) fun n => { base with expireMillis := n }
  · exact takes_into (takes_cleared _ nulls (takes_optional_long hc.refresh))
      fun n => { base with refreshMillis := n }
  · refine takes_present hnulls (by decide) ?_
    exact takes_into (takes_size hc.size) fun n => { base with maximumSize := n }
  · refine takes_present hnulls (by decide) ?_
    exact takes_into (takes_flag c.recordStats) fun b => { base with recordStats := b }
  · refine takes_present hnulls (by decide) ?_
    exact takes_into (takes_long hc.cleanup) fun n => { base with cleanupMillis := n }

theorem takes_document (hc : c.Fits) (ch : Choice layout.fields optionals) :
    Takes reader (c.document ch) (c.laidOn ch.names ch.nulls .default) :=
  takes_members ch (fun names base => laidOn names ch.nulls c base) c.toJson.get rfl
    (laidOn_nil ch.nulls c) (laidOn_cons ch.nulls c)
    (fun _ hname base => takes_field hc ch.optional hname base) .default

end CacheConfig

namespace WireConfig

variable {c : WireConfig}

theorem laidOn_nil (nulls : List String) (c base : WireConfig) :
    laidOn [] nulls c base = base := by
  simp only [laidOn, picked_nil]

theorem laidOn_cons (nulls : List String) (c : WireConfig) (name : String) (names : List String)
    (base : WireConfig) :
    laidOn (name :: names) nulls c base = laidOn names nulls c (laidOn [name] nulls c base) := by
  simp only [laidOn, ← picked_cons]

/-- An agent that may be left out. -/
theorem takes_agent (s : Option String) :
    Takes (Json.optional (Json.text "a string"))
      (match s with | some s => .string s | none => .null) s := by
  cases s with
  | none => exact takes_optional_null _
  | some s => exact takes_optional (takes_text "a string" s) nofun

theorem takes_resolver (k : ResolverKind) : Takes ResolverKind.reader (.string k.name) k := by
  refine takes_choice ?_
  cases k <;> rfl

/-- **WHAT ONE FIELD MAKES** of the settings of the transport. -/
theorem takes_field (hc : c.Fits) {nulls : List String} (hnulls : nulls ⊆ optionals) {name : String}
    (hname : name ∈ layout.fields) (base : WireConfig) :
    Takes (layout.read name base) (if name ∈ nulls then .null else c.toJson.get name)
      (laidOn [name] nulls c base) := by
  simp only [layout, List.mem_cons, List.not_mem_nil, or_false] at hname
  rcases hname with rfl | rfl | rfl | rfl | rfl | rfl | rfl | rfl
  · exact takes_into (takes_cleared _ nulls (takes_optional_long hc.connect))
      fun n => { base with connectMillis := n }
  · exact takes_into (takes_cleared _ nulls (takes_optional_long hc.request))
      fun n => { base with requestMillis := n }
  · exact takes_into (takes_cleared _ nulls (takes_optional_long hc.idle))
      fun n => { base with idleMillis := n }
  · refine takes_present hnulls (by decide) ?_
    exact takes_into (takes_size hc.perHost) fun n => { base with maxIdlePerHost := n }
  · exact takes_into (takes_cleared _ nulls (takes_agent c.userAgent))
      fun s => { base with userAgent := s }
  · refine takes_present hnulls (by decide) ?_
    exact takes_into (takes_flag c.followRedirects) fun b => { base with followRedirects := b }
  · refine takes_present hnulls (by decide) ?_
    exact takes_into (takes_size hc.redirects) fun n => { base with maxRedirects := n }
  · refine takes_present hnulls (by decide) ?_
    exact takes_into (takes_resolver c.resolver) fun k => { base with resolver := k }

theorem takes_document (hc : c.Fits) (ch : Choice layout.fields optionals) :
    Takes reader (c.document ch) (c.laidOn ch.names ch.nulls .default) :=
  takes_members ch (fun names base => laidOn names ch.nulls c base) c.toJson.get rfl
    (laidOn_nil ch.nulls c) (laidOn_cons ch.nulls c)
    (fun _ hname base => takes_field hc ch.optional hname base) .default

end WireConfig

namespace Config

variable {c : Config}

theorem laidOn_nil (ch : Naming) (c base : Config) : laidOn ch [] c base = base := by
  simp only [laidOn, picked_nil]

theorem laidOn_cons (ch : Naming) (c : Config) (name : String) (names : List String)
    (base : Config) :
    laidOn ch (name :: names) c base = laidOn ch names c (laidOn ch [name] c base) := by
  simp only [laidOn, ← picked_cons]

/-- **WHAT ONE FIELD MAKES** of the settings. -/
theorem takes_field (hc : c.Fits) (ch : Naming) {name : String} (hname : name ∈ layout.fields)
    (base : Config) : Takes (layout.read name base)
      (if name ∈ ch.top.nulls then .null else value ch c name) (laidOn ch [name] c base) := by
  simp only [layout, List.mem_cons, List.not_mem_nil, or_false] at hname
  rcases hname with rfl | rfl | rfl | rfl
  · refine takes_present ch.top.optional (by decide) ?_
    exact takes_into (CacheConfig.takes_document hc.cache ch.cache)
      fun v => { base with cache := v }
  · refine takes_present ch.top.optional (by decide) ?_
    exact takes_into (WireConfig.takes_document hc.wire ch.wire)
      fun v => { base with wire := v }
  · exact takes_into (takes_cleared _ ch.top.nulls (takes_optional_long hc.retry))
      fun n => { base with retryMillis := n }
  · refine takes_present ch.top.optional (by decide) ?_
    exact takes_into (takes_size hc.poolSize) fun n => { base with retryPoolSize := n }

theorem takes_document (hc : c.Fits) (ch : Naming) : Takes reader (c.document ch) (c.given ch) :=
  takes_members ch.top (fun names base => laidOn ch names c base) (value ch c) rfl
    (laidOn_nil ch c) (laidOn_cons ch c) (fun _ hname base => takes_field hc ch hname base) .default

end Config

/-! ## The text of a document -/

/-- The text of a value spells it. -/
def Printable (v : Json) : Prop :=
  Spells v (octets (chars v))

section Printable

theorem printable_nat (n : Nat) : Printable (.int n) := by
  have hdigits : chars (.int n) = Numeral.digits n := by
    rw [chars, Numeral.integer, if_neg (Int.not_lt.mpr (Int.natCast_nonneg n)), Int.natAbs_natCast]
  rw [Printable, hdigits]
  exact .nat n rfl

theorem printable_ofNat? (n : Option Nat) : Printable (.ofNat? n) := by
  cases n with
  | none => exact .null
  | some n => exact printable_nat n

theorem printable_string (s : String) : Printable (.string s) := by
  rw [Printable, chars]
  exact .string s

/-- An object whose members can be printed. -/
def PrintableMembers (v : Json) : Prop :=
  ∃ members, v = .object members ∧ ∀ m ∈ members, Printable m.2

theorem PrintableMembers.printable {v : Json} (h : PrintableMembers v) : Printable v := by
  obtain ⟨members, rfl, hm⟩ := h
  exact spells_chars_object hm

/-- A member of an object can be printed, and what stands for one that is missing. -/
theorem PrintableMembers.get {v : Json} (h : PrintableMembers v) (name : String) :
    Printable (v.get name) := by
  obtain ⟨members, rfl, hm⟩ := h
  rw [Json.get]
  cases hfind : members.find? (·.1 == name) with
  | none => exact .null
  | some m => exact hm m (List.mem_of_find?_eq_some hfind)

theorem printable_members {fields optionals : List String} (ch : Choice fields optionals)
    {value : String → Json} (h : ∀ name, Printable (value name)) :
    Printable (.object (ch.members value)) := by
  refine spells_chars_object fun m hm => ?_
  obtain ⟨name, -, rfl⟩ := List.mem_map.mp hm
  dsimp only
  split
  · exact .null
  · exact h name

theorem CacheConfig.printable_toJson (c : CacheConfig) : PrintableMembers c.toJson := by
  refine ⟨_, rfl, fun m hm => ?_⟩
  simp only [List.mem_cons, List.not_mem_nil, or_false] at hm
  rcases hm with rfl | rfl | rfl | rfl | rfl
  · exact printable_nat _
  · exact printable_ofNat? _
  · exact printable_nat _
  · exact .bool _
  · exact printable_nat _

theorem WireConfig.printable_toJson (c : WireConfig) : PrintableMembers c.toJson := by
  refine ⟨_, rfl, fun m hm => ?_⟩
  simp only [List.mem_cons, List.not_mem_nil, or_false] at hm
  rcases hm with rfl | rfl | rfl | rfl | rfl | rfl | rfl | rfl
  · exact printable_ofNat? _
  · exact printable_ofNat? _
  · exact printable_ofNat? _
  · exact printable_nat _
  · cases c.userAgent with
    | none => exact .null
    | some s => exact printable_string s
  · exact .bool _
  · exact printable_nat _
  · exact printable_string _

theorem Config.printable_toJson (c : Config) : PrintableMembers c.toJson := by
  refine ⟨_, rfl, fun m hm => ?_⟩
  simp only [List.mem_cons, List.not_mem_nil, or_false] at hm
  rcases hm with rfl | rfl | rfl | rfl
  · exact c.cache.printable_toJson.printable
  · exact c.wire.printable_toJson.printable
  · exact printable_ofNat? _
  · exact printable_nat _

end Printable

namespace Config

variable {c : Config}

theorem printable_document (ch : Naming) (c : Config) : Printable (c.document ch) := by
  refine printable_members ch.top fun name => ?_
  rw [value]
  split
  · exact printable_members ch.cache c.cache.printable_toJson.get
  split
  · exact printable_members ch.wire c.wire.printable_toJson.get
  · exact c.printable_toJson.get name

/-- A document that names everything, in order. -/
def everything : Naming :=
  ⟨.all (by decide), .all (by decide), .all (by decide)⟩

theorem document_everything (c : Config) : c.document everything = c.toJson :=
  rfl

theorem given_everything (c : Config) : c.given everything = c :=
  rfl

/-- A text that spells a document gives what the document is to give. -/
theorem parse_spelled (hc : c.Fits) (ch : Naming) {text before after : List UInt8}
    (h : Spells (c.document ch) text) (hb : Blank before) (ha : Blank after) :
    parse (before ++ (text ++ after)) = .ok (c.given ch) :=
  whole_reads (takes_document hc ch text h) hb ha

/-- So does the text that is printed of it. -/
theorem parse_print (hc : c.Fits) (ch : Naming) :
    parse (encode (c.document ch).print) = .ok (c.given ch) := by
  have hread := parse_spelled hc ch (printable_document ch c) (List.forall_mem_nil _)
    (List.forall_mem_nil _)
  rw [List.nil_append, List.append_nil] at hread
  rw [Json.print, encode_ofList]
  exact hread

/-- **SETTINGS READ BACK** from their own text, and a document that names some of the fields gives
    the defaults with these fields replaced, at the top and in the settings of the cache and the
    transport alike.  A field that is given as `null` is empty, one that is not named keeps its
    default. -/
theorem documents_read_back (c : Config) (hc : c.Fits) :
    parse (encode c.print) = .ok c ∧
    ∀ ch : Naming, parse (encode (c.document ch).print) = .ok (c.given ch) ∧
      ∀ text before after, Spells (c.document ch) text → Blank before → Blank after →
        parse (before ++ (text ++ after)) = .ok (c.given ch) := by
  refine ⟨?_, fun ch => ⟨parse_print hc ch, fun _ _ _ h hb ha => parse_spelled hc ch h hb ha⟩⟩
  have hall := parse_print hc everything
  rw [document_everything, given_everything] at hall
  exact hall

/-- Settings with the greatest number, with an agent that has to be escaped and with a field that is
    empty though its default is not. -/
def ornate : Config where
  cache := { CacheConfig.default with refreshMillis := some maxInteger }
  wire := { WireConfig.default with
    connectMillis := none, userAgent := some "\"gate\" \\ é😀\n\x01", resolver := .random }
  retryMillis := some 250
  retryPoolSize := 8

/-- A document that names some fields out of their order, and one of them as `null`. -/
def sparse : Naming where
  top := ⟨["retry_pool_size", "transport"], [], by decide, by decide, by decide⟩
  cache := .all (by decide)
  wire := ⟨["user_agent", "request_timeout_ms"], ["request_timeout_ms"], by decide, by decide,
    by decide⟩

/-- The agent and the number of slots are replaced, the timeout is cleared, and the fields that are
    not named keep their defaults. -/
theorem documents_read_back_of_sparse :
    ornate.Fits ∧ parse (encode ornate.print) = .ok ornate ∧
    parse (encode (ornate.document sparse).print) = .ok { Config.default with
      wire := { WireConfig.default with
        requestMillis := none, userAgent := ornate.wire.userAgent }
      retryPoolSize := 8 } := by
  have hcache : ornate.cache.Fits :=
    ⟨by decide, by rintro n ⟨⟩; exact Nat.le_refl _, by decide, by decide⟩
  have hwire : ornate.wire.Fits :=
    ⟨nofun, by rintro n ⟨⟩; decide, by rintro n ⟨⟩; decide, by decide, by decide⟩
  have hfits : ornate.Fits := ⟨hcache, hwire, by rintro n ⟨⟩; decide, by decide⟩
  obtain ⟨hall, hsome⟩ := documents_read_back ornate hfits
  exact ⟨hfits, hall, (hsome sparse).1⟩

end Config

end Courier
