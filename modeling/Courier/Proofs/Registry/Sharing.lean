import Courier.Registry

/-!
# Sharing — who gets which client

Clients are numbered as they are built, so a client that is built is new to everyone.  A client that
is registered and open (`Registry.Serves`) is what everyone gets who asks for its configuration, until
it is dropped: until someone removes it, clears the registry or closes the client.  A client that was
dropped (`Registry.Dropped`) is never handed out again.  Whoever asks twice therefore gets the same
client exactly if it was not dropped in between (`Registry.Contract.shared`).
-/

namespace Courier

/-- What can happen to a registry and to the clients it has handed out. -/
inductive RegistryEvent where
  | get (config : Config)
  | remove (config : Config)
  | clear
  /-- Someone who has a client closes it. -/
  | close (client : Nat)
  /-- From now on there is an engine for clients to run on, or there is none. -/
  | engine (present : Bool)

/-- Whether an event drops the client of a configuration. -/
def RegistryEvent.drops (config : Config) (client : Nat) : RegistryEvent → Bool
  | .get _ | .engine _ => false
  | .remove c => c = config
  | .clear => true
  | .close n => n = client

namespace Registry

/-- Lets something happen.  A get that fails has nothing to go on with. -/
def step (r : Registry) : RegistryEvent → Registry
  | .get config =>
    match (r.get config).1 with
    | .ok (r, _) => r
    | .error _ => r
  | .remove config => (r.remove config).1
  | .clear => r.clear
  | .close client => (r.close client).1
  | .engine present => { r with hasEngine := present }

/-- Lets events happen one after the other. -/
def run (r : Registry) (events : List RegistryEvent) : Registry :=
  events.foldl step r

/-- The client for a configuration is this one, and it is open. -/
def Serves (r : Registry) (config : Config) (client : Nat) : Prop :=
  r.entries.lookup config = some client ∧ r.isClosed client = false

/-- Every configuration is registered once, with a client that was built from it. -/
structure Sound (r : Registry) : Prop where
  distinct : (r.entries.map Prod.fst).Nodup
  built : ∀ config client, (config, client) ∈ r.entries →
    ∃ closed, r.built[client]? = some ⟨config, closed⟩

/-- A client that was built and is not handed out any more. -/
structure Dropped (client : Nat) (r : Registry) : Prop where
  built : client < r.built.length
  gone : ∀ config, ¬ r.Serves config client

/-- A registry with a new client for a configuration. -/
def added (r : Registry) (config : Config) : Registry :=
  { r with
    built := r.built ++ [⟨config, false⟩]
    entries := r.entries.filter (·.1 ≠ config) ++ [(config, r.built.length)] }

/-- What whoever asks for a configuration gets: the client that is open, a new one, or a reason why
    there is none. -/
inductive Got (r : Registry) (config : Config) : Outcome (Registry × Nat) → Prop where
  | served {client : Nat} (h : r.Serves config client) : Got r config (.ok (r, client))
  | built (hnone : ∀ client, ¬ r.Serves config client) (hc : r.check config = .ok ()) :
      Got r config (.ok (r.added config, r.built.length))
  | failed {f : Failure} (hnone : ∀ client, ¬ r.Serves config client)
      (hc : r.check config = .error f) : Got r config (.error f)

variable {r r' : Registry} {c c' : Config} {n m : Nat} {ev : RegistryEvent} {f : Failure}
  {events : List RegistryEvent}

/-! ## Entries and clients -/

theorem lookup_others (entries : List (Config × Nat)) (c c' : Config) :
    (entries.filter (·.1 ≠ c)).lookup c' = if c' = c then none else entries.lookup c' := by
  induction entries with
  | nil => split <;> rfl
  | cons x rest ih =>
      obtain ⟨k, n⟩ := x
      by_cases hk : k = c
      · rw [List.filter_cons_of_neg (by simpa using hk), ih, List.lookup_cons]
        by_cases hc : c' = c
        · rw [if_pos hc, if_pos hc]
        · rw [if_neg hc, if_neg hc, beq_false_of_ne (hk ▸ hc)]
      · rw [List.filter_cons_of_pos (by simpa using hk), List.lookup_cons, List.lookup_cons]
        by_cases hc : c' = k
        · rw [if_neg (hc ▸ hk), hc, beq_self_eq_true]
        · rw [beq_false_of_ne hc, ih]

theorem lookup_added (r : Registry) (c c' : Config) :
    (r.added c).entries.lookup c' = if c' = c then some r.built.length else r.entries.lookup c' := by
  rw [added, List.lookup_append, lookup_others, List.lookup_cons]
  by_cases hc : c' = c
  · rw [if_pos hc, if_pos hc, hc, beq_self_eq_true]
    rfl
  · rw [if_neg hc, if_neg hc, beq_false_of_ne hc]
    exact Option.or_none

/-- A client that is added changes no other. -/
theorem isClosed_added (hn : n < r.built.length) : (r.added c).isClosed n = r.isClosed n := by
  rw [isClosed, isClosed, added, List.getElem?_append_left hn]

theorem isClosed_new (r : Registry) (c : Config) :
    (r.added c).isClosed r.built.length = false := by
  rw [isClosed, added, List.getElem?_concat_length]

/-- Whoever closes a client closes that one alone. -/
theorem built_close (r : Registry) (m n : Nat) : (r.close m).1.built[n]?
    = r.built[n]?.map fun b => { b with closed := b.closed || decide (m = n) } := by
  rw [close]
  split
  · rename_i hclosed
    cases hb : r.built[n]? with
    | none => rfl
    | some b =>
        obtain ⟨config, closed⟩ := b
        by_cases hm : m = n
        · rw [isClosed, hm, hb] at hclosed
          obtain rfl : closed = true := hclosed
          rfl
        · simp [hm]
  · rw [List.getElem?_modify]
    cases r.built[n]? with
    | none => rfl
    | some b => by_cases hm : m = n <;> simp [hm]

theorem isClosed_closed (hn : n < r.built.length) : (r.close n).1.isClosed n = true := by
  rw [isClosed, built_close, List.getElem?_eq_getElem hn]
  simp

theorem isClosed_other (hn : n ≠ m) : (r.close m).1.isClosed n = r.isClosed n := by
  rw [isClosed, isClosed, built_close]
  cases r.built[n]? <;> simp [Ne.symm hn]

/-- A client that is closed stays closed. -/
theorem isClosed_close (h : r.isClosed n = true) : (r.close m).1.isClosed n = true := by
  rw [isClosed] at h
  rw [isClosed, built_close]
  cases hb : r.built[n]? with
  | none => simp [hb] at h
  | some b =>
      rw [hb] at h
      simpa using Or.inl h

theorem entries_close (r : Registry) (n : Nat) : (r.close n).1.entries = r.entries := by
  rw [close]
  split <;> rfl

theorem length_close (r : Registry) (n : Nat) : (r.close n).1.built.length = r.built.length := by
  rw [close]
  split
  · rfl
  · exact List.length_modify _ _ _

theorem Sound.of_lookup (hs : r.Sound) (h : r.entries.lookup c = some n) :
    ∃ closed, r.built[n]? = some ⟨c, closed⟩ := by
  obtain ⟨before, after, hentries, -⟩ := List.lookup_eq_some_iff.mp h
  exact hs.built c n (hentries ▸ List.mem_append_right before List.mem_cons_self)

theorem Sound.lt (hs : r.Sound) (h : r.Serves c n) : n < r.built.length := by
  obtain ⟨closed, hb⟩ := hs.of_lookup h.1
  exact (List.getElem?_eq_some_iff.mp hb).1

/-- A client serves one configuration. -/
theorem Sound.config_unique (hs : r.Sound) (h : r.entries.lookup c = some n)
    (h' : r.entries.lookup c' = some n) : c = c' := by
  obtain ⟨closed, hb⟩ := hs.of_lookup h
  obtain ⟨closed', hb'⟩ := hs.of_lookup h'
  cases hb.symm.trans hb'
  rfl

/-- **WHOEVER ASKS FOR A CLIENT GETS ONE OF THESE.** -/
theorem got (r : Registry) (c : Config) : Got r c (r.get c).1 := by
  have hbuild : (∀ n, ¬ r.Serves c n) → Got r c (r.build c) := by
    intro hnone
    rw [build]
    cases hc : r.check c with
    | error f => exact .failed hnone hc
    | ok _ => exact .built hnone hc
  rw [get]
  cases hl : r.entries.lookup c with
  | none => exact hbuild fun n h => nomatch hl.symm.trans h.1
  | some n =>
      dsimp only
      split
      · rename_i hclosed
        refine hbuild fun m h => ?_
        cases hl.symm.trans h.1
        cases hclosed.symm.trans h.2
      · rename_i hopen
        exact .served ⟨hl, Bool.not_eq_true _ ▸ hopen⟩

/-- A get leaves the registry as it was, or adds a client where there was none that is open. -/
theorem step_get (r : Registry) (c : Config) :
    r.step (.get c) = r ∨ (r.step (.get c) = r.added c ∧ ∀ n, ¬ r.Serves c n) := by
  have hgot := r.got c
  rw [step]
  generalize (r.get c).1 = outcome at hgot
  cases hgot with
  | served h => exact Or.inl rfl
  | built hnone hc => exact Or.inr ⟨rfl, hnone⟩
  | failed hnone hc => exact Or.inl rfl

/-! ## What one event keeps -/

theorem sound_new (hasEngine : Bool) : (new hasEngine).Sound :=
  ⟨List.nodup_nil, fun _ _ h => nomatch h⟩

theorem Sound.added (hs : r.Sound) (c : Config) : (r.added c).Sound := by
  refine ⟨?_, fun c' n h => ?_⟩
  · show ((r.entries.filter (·.1 ≠ c) ++ [(c, r.built.length)]).map Prod.fst).Nodup
    rw [List.map_append]
    refine List.nodup_append.mpr ⟨hs.distinct.sublist (List.filter_sublist.map _), by simp, ?_⟩
    rintro k hk k' hk' rfl
    obtain ⟨x, hx, rfl⟩ := List.mem_map.mp hk
    have hne := (List.mem_filter.mp hx).2
    simp only [List.map_cons, List.map_nil, List.mem_singleton] at hk'
    simp [hk'] at hne
  · rcases List.mem_append.mp h with hold | hnew
    · obtain ⟨closed, hb⟩ := hs.built c' n (List.mem_filter.mp hold).1
      refine ⟨closed, ?_⟩
      rw [Registry.added, List.getElem?_append_left (List.getElem?_eq_some_iff.mp hb).1]
      exact hb
    · cases List.mem_singleton.mp hnew
      exact ⟨false, List.getElem?_concat_length⟩

theorem Sound.step (hs : r.Sound) (ev : RegistryEvent) : (r.step ev).Sound := by
  cases ev with
  | get c =>
      rcases r.step_get c with h | ⟨h, -⟩
      · rw [h]
        exact hs
      · rw [h]
        exact hs.added c
  | remove c =>
      exact ⟨hs.distinct.sublist (List.filter_sublist.map _),
        fun c' n h => hs.built c' n (List.mem_filter.mp h).1⟩
  | clear => exact ⟨List.nodup_nil, fun _ _ h => nomatch h⟩
  | close m =>
      refine ⟨?_, fun c n h => ?_⟩
      · show ((r.close m).1.entries.map Prod.fst).Nodup
        rw [entries_close]
        exact hs.distinct
      · change (c, n) ∈ (r.close m).1.entries at h
        rw [entries_close] at h
        obtain ⟨closed, hb⟩ := hs.built c n h
        refine ⟨closed || decide (m = n), ?_⟩
        show (r.close m).1.built[n]? = _
        rw [built_close, hb]
        rfl
  | engine present => exact ⟨hs.distinct, hs.built⟩

/-- Who is served is served on, unless the client is dropped. -/
theorem Serves.step (h : r.Serves c n) (hs : r.Sound) (hd : ev.drops c n = false) :
    (r.step ev).Serves c n := by
  cases ev with
  | get c' =>
      rcases r.step_get c' with heq | ⟨heq, hnone⟩
      · rw [heq]
        exact h
      · have hne : c ≠ c' := by
          rintro rfl
          exact hnone n h
        rw [heq, Serves, lookup_added, if_neg hne, isClosed_added (hs.lt h)]
        exact h
  | remove c' =>
      have hne : c ≠ c' := by
        rintro rfl
        simp [RegistryEvent.drops] at hd
      refine ⟨?_, h.2⟩
      show (r.entries.filter (·.1 ≠ c')).lookup c = some n
      rw [lookup_others, if_neg hne]
      exact h.1
  | clear => cases hd
  | close m =>
      have hne : n ≠ m := by
        rintro rfl
        simp [RegistryEvent.drops] at hd
      show (r.close m).1.Serves c n
      rw [Serves, entries_close, isClosed_other hne]
      exact h
  | engine present => exact h

/-- A client that an event drops is dropped. -/
theorem Serves.drop (h : r.Serves c n) (hs : r.Sound) (hd : ev.drops c n = true) :
    Dropped n (r.step ev) := by
  have hn := hs.lt h
  cases ev with
  | get c' => cases hd
  | remove c' =>
      obtain rfl : c' = c := by simpa [RegistryEvent.drops] using hd
      refine ⟨hn, fun k hk => ?_⟩
      have hl : (r.entries.filter (·.1 ≠ c')).lookup k = some n := hk.1
      rw [lookup_others] at hl
      split at hl
      · cases hl
      · exact absurd (hs.config_unique hl h.1) ‹_›
  | clear => exact ⟨hn, fun k hk => nomatch hk.1⟩
  | close m =>
      obtain rfl : m = n := by simpa [RegistryEvent.drops] using hd
      refine ⟨(length_close r m).symm ▸ hn, fun k hk => ?_⟩
      cases (isClosed_closed hn).symm.trans hk.2
  | engine present => cases hd

/-- A client that was dropped is not handed out again. -/
theorem Dropped.step (h : Dropped n r) (ev : RegistryEvent) : Dropped n (r.step ev) := by
  cases ev with
  | get c =>
      rcases r.step_get c with heq | ⟨heq, -⟩
      · rw [heq]
        exact h
      · rw [heq]
        refine ⟨Nat.lt_of_lt_of_eq (Nat.lt_succ_of_lt h.built) (by simp [Registry.added]), ?_⟩
        rintro k ⟨hl, hopen⟩
        rw [lookup_added] at hl
        rw [isClosed_added h.built] at hopen
        split at hl
        · -- whoever is added has a number of its own
          cases hl
          exact Nat.lt_irrefl _ h.built
        · exact h.gone k ⟨hl, hopen⟩
  | remove c =>
      refine ⟨h.built, fun k hk => ?_⟩
      have hl : (r.entries.filter (·.1 ≠ c)).lookup k = some n := hk.1
      rw [lookup_others] at hl
      split at hl
      · cases hl
      · exact h.gone k ⟨hl, hk.2⟩
  | clear => exact ⟨h.built, fun k hk => nomatch hk.1⟩
  | close m =>
      refine ⟨(length_close r m).symm ▸ h.built, fun k hk => h.gone k ⟨?_, ?_⟩⟩
      · rw [← entries_close r m]
        exact hk.1
      · cases hc : r.isClosed n with
        | false => rfl
        | true => cases (isClosed_close hc).symm.trans hk.2
  | engine present => exact ⟨h.built, h.gone⟩

/-! ## What a run keeps -/

theorem Sound.run (hs : r.Sound) (events : List RegistryEvent) : (r.run events).Sound := by
  induction events generalizing r with
  | nil => exact hs
  | cons ev rest ih => exact ih (hs.step ev)

theorem Dropped.run (h : Dropped n r) (events : List RegistryEvent) : Dropped n (r.run events) := by
  induction events generalizing r with
  | nil => exact h
  | cons ev rest ih => exact ih (h.step ev)

/-- **A CLIENT SERVES ITS CONFIGURATION UNTIL IT IS DROPPED**, and then nobody any more. -/
theorem Serves.run (h : r.Serves c n) (hs : r.Sound) (events : List RegistryEvent) :
    ((∀ ev ∈ events, ev.drops c n = false) ∧ (r.run events).Serves c n) ∨
      (¬ (∀ ev ∈ events, ev.drops c n = false) ∧ Dropped n (r.run events)) := by
  induction events generalizing r with
  | nil => exact Or.inl ⟨List.forall_mem_nil _, h⟩
  | cons ev rest ih =>
      rw [List.forall_mem_cons]
      cases hd : ev.drops c n with
      | true => exact Or.inr ⟨fun hnone => Bool.noConfusion hnone.1, (h.drop hs hd).run rest⟩
      | false =>
          rcases ih (h.step hs hd) (hs.step ev) with ⟨hnone, hserves⟩ | ⟨hsome, hdropped⟩
          · exact Or.inl ⟨⟨rfl, hnone⟩, hserves⟩
          · exact Or.inr ⟨fun hnone => hsome hnone.2, hdropped⟩

/-- Who is served gets the client. -/
theorem get_of_serves (h : r.Serves c n) : (r.get c).1 = .ok (r, n) := by
  have hgot := r.got c
  generalize (r.get c).1 = outcome at hgot
  cases hgot with
  | served h' =>
      cases h.1.symm.trans h'.1
      rfl
  | built hnone hc => exact absurd h (hnone n)
  | failed hnone hc => exact absurd h (hnone n)

/-- Who gets a client is served from then on, by a client that was open before or is new. -/
theorem serves_of_get (hs : r.Sound) (h : (r.get c).1 = .ok (r', n)) :
    r' = r.step (.get c) ∧ r'.Sound ∧ r'.Serves c n ∧ (r.Serves c n ∨ n = r.built.length) := by
  have hstep : r' = r.step (.get c) := by
    rw [step, h]
  refine ⟨hstep, hstep ▸ hs.step _, ?_⟩
  have hgot := r.got c
  rw [h] at hgot
  cases hgot with
  | served h' => exact ⟨h', Or.inl h'⟩
  | built hnone hc =>
      refine ⟨⟨?_, isClosed_new r c⟩, Or.inr rfl⟩
      rw [lookup_added, if_pos rfl]

/-- Nobody gets a client that was dropped. -/
theorem Dropped.not_get (h : Dropped n r) (hs : r.Sound) (hget : (r.get c).1 = .ok (r', m)) :
    m ≠ n := by
  rintro rfl
  rcases (serves_of_get hs hget).2.2.2 with hserves | hnew
  · exact h.gone c hserves
  · exact Nat.lt_irrefl _ (hnew ▸ h.built)

/-- **WHAT A REGISTRY KEEPS TO.** -/
structure Contract (r : Registry) : Prop where
  /-- A configuration has one client at most, and that was built from it. -/
  single : ∀ c n n', (c, n) ∈ r.entries → (c, n') ∈ r.entries → n = n'
  own : ∀ c n, (c, n) ∈ r.entries → ∃ closed, r.built[n]? = some ⟨c, closed⟩
  /-- Who gets a client gets one that is open, and that is registered from then on. -/
  opened : ∀ c r' n, (r.get c).1 = .ok (r', n) → r' = r.step (.get c) ∧
    r'.isClosed n = false ∧ (c, n) ∈ r'.entries ∧ r'.built[n]? = some ⟨c, false⟩
  /-- Who asks twice gets the same client exactly if it was not dropped in between; as long as it is
      not, there is always a client to get. -/
  shared : ∀ c r' n events, (r.get c).1 = .ok (r', n) →
    ((∀ ev ∈ events, ev.drops c n = false) →
      ((r'.run events).get c).1 = .ok (r'.run events, n)) ∧
    ∀ r'' n', ((r'.run events).get c).1 = .ok (r'', n') →
      (n = n' ↔ ∀ ev ∈ events, ev.drops c n = false)
  /-- A get fails exactly where there is no open client and none can be built, whether there is a
      closed one or not; and then everything is as it was. -/
  failed : ∀ c f, (r.get c).1 = .error f ↔
    (∀ n, (c, n) ∈ r.entries → r.isClosed n = true) ∧ r.check c = .error f
  unchanged : ∀ c f, (r.get c).1 = .error f → r.step (.get c) = r
  /-- Who removes a client gets it, and it stays as it is, as do all clients and the registration of
      all others. -/
  removed : ∀ c, (r.remove c).1.built = r.built ∧ (∀ n, (r.remove c).2 = some n ↔ (c, n) ∈ r.entries) ∧
    ∀ c' n, (c', n) ∈ (r.remove c).1.entries ↔ c' ≠ c ∧ (c', n) ∈ r.entries
  cleared : r.clear.built = r.built ∧ r.clear.entries = []

/-- What is registered once is found. -/
theorem Sound.lookup_iff (hs : r.Sound) : r.entries.lookup c = some n ↔ (c, n) ∈ r.entries := by
  constructor
  · intro h
    obtain ⟨before, after, hentries, -⟩ := List.lookup_eq_some_iff.mp h
    exact hentries ▸ List.mem_append_right before List.mem_cons_self
  · intro h
    obtain ⟨before, after, hentries⟩ := List.append_of_mem h
    refine List.lookup_eq_some_iff.mpr ⟨before, after, hentries, fun x hx => bne_iff_ne.mpr ?_⟩
    rintro rfl
    have hdistinct := hs.distinct
    rw [hentries, List.map_append, List.map_cons] at hdistinct
    exact (List.nodup_append.mp hdistinct).2.2 x.1 (List.mem_map_of_mem hx) x.1
      List.mem_cons_self rfl

/-- No open client is registered. -/
theorem Sound.not_serves_iff (hs : r.Sound) :
    (∀ n, ¬ r.Serves c n) ↔ ∀ n, (c, n) ∈ r.entries → r.isClosed n = true := by
  refine forall_congr' fun n => ?_
  rw [Serves, hs.lookup_iff, not_and, Bool.not_eq_false]

theorem Sound.contract (hs : r.Sound) : r.Contract := by
  refine
    { single := fun c n n' h h' => ?single
      own := hs.built
      opened := fun c r' n h => ?opened
      shared := fun c r' n events h => ?shared
      failed := fun c f => ?failed
      unchanged := fun c f h => ?unchanged
      removed := fun c => ⟨rfl, fun n => hs.lookup_iff, fun c' n => ?removed⟩
      cleared := ⟨rfl, rfl⟩ }
  case single =>
    exact Option.some.inj ((hs.lookup_iff.mpr h).symm.trans (hs.lookup_iff.mpr h'))
  case opened =>
    obtain ⟨hstep, hs', hserves, -⟩ := serves_of_get hs h
    obtain ⟨closed, hb⟩ := hs'.of_lookup hserves.1
    have hopen := hserves.2
    rw [isClosed, hb] at hopen
    exact ⟨hstep, hserves.2, hs'.lookup_iff.mp hserves.1, hopen ▸ hb⟩
  case shared =>
    obtain ⟨-, hs', hserves, -⟩ := serves_of_get hs h
    rcases hserves.run hs' events with ⟨hnone, hlater⟩ | ⟨hsome, hdropped⟩
    · refine ⟨fun _ => get_of_serves hlater, fun r'' n' hget => iff_of_true ?_ hnone⟩
      rw [get_of_serves hlater] at hget
      cases hget
      rfl
    · refine ⟨fun hnone => absurd hnone hsome, fun r'' n' hget => iff_of_false ?_ hsome⟩
      exact fun heq => hdropped.not_get (hs'.run events) hget heq.symm
  case failed =>
    rw [← hs.not_serves_iff]
    have hgot := r.got c
    constructor
    · intro h
      rw [h] at hgot
      cases hgot with
      | failed hnone hc => exact ⟨hnone, hc⟩
    · rintro ⟨hnone, hc⟩
      generalize (r.get c).1 = outcome at hgot
      cases hgot with
      | served h => exact absurd h (hnone _)
      | built _ hc' => cases hc.symm.trans hc'
      | failed _ hc' =>
          cases hc.symm.trans hc'
          rfl
  case unchanged =>
    rw [Registry.step, h]
  case removed =>
    show (c', n) ∈ r.entries.filter (·.1 ≠ c) ↔ _
    rw [List.mem_filter, decide_eq_true_eq, and_comm]

/-- **A REGISTRY KEEPS TO ITS CONTRACT**, whatever is asked of it, whichever clients are closed, and
    whether there is an engine for new ones or not. -/
theorem contract_kept (hasEngine : Bool) (events : List RegistryEvent) :
    ((new hasEngine).run events).Contract :=
  ((sound_new hasEngine).run events).contract

/-- A client is closed, and can only be replaced once there is an engine again. -/
example :
    let r := (new true).run [.get .default, .close 0, .engine false, .get .default]
    (r.get .default).1.isOk = false ∧ r.entries = [(.default, 0)] ∧ r.isClosed 0 = true ∧
      (r.run [.engine true, .get .default]).entries = [(.default, 1)] := by
  decide +kernel

end Registry

end Courier
