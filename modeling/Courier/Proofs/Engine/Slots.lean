import Courier.Proofs.Engine.Clients
import Courier.Proofs.Program.Gates

/-!
# Slots — no slot is lost, none is doubled

Whatever happens to a client, every slot of its pool is free or belongs to one dispatch that wants
retries (`Spread`).  Whoever holds a slot holds it to its end and then gives it back once
(`Client.gives_back`), slots go to those who wait in the order they came (`Keeps`), and whoever is
cancelled takes no slot and is gone, with all it had, when its turn comes
(`Client.leaves_of_cancelled`).  All this together is `slots_conserved`.
-/

namespace Courier

open SlotPool

variable {α : Type}

/-- A slot of a task is given back, once: nobody waits and it is free, or the first who waits gets
    it. -/
inductive SlotPool.GivesBack (p : SlotPool) (n : Nat) : SlotPool → Prop where
  | free (hw : p.waiting = []) :
      GivesBack p n { p with holders := p.holders.erase n, free := p.free + 1 }
  | passed {m : Nat} {rest : List Nat} (hw : p.waiting = m :: rest) :
      GivesBack p n
        { p with holders := p.holders.erase n, granted := p.granted ++ [m], waiting := rest }

theorem SlotPool.givesBack_leave {p : SlotPool} {n : Nat} (h : n ∈ p.holders) :
    p.GivesBack n (p.leave n).1 := by
  rw [leave, if_pos (List.contains_iff_mem.mpr h), putBack]
  split
  · exact .free ‹_›
  · exact .passed ‹_›

namespace Engine

/-- **HOW THE SLOTS ARE SPREAD** over the dispatches of a client, given how many there are and the
    requests that tasks were spawned for.  A slot that was given to a dispatch belongs to it, though
    it is taken only in the next turn. -/
structure Spread (size : Nat) (requests : List (Nat × Request)) (e : Engine α) : Prop where
  /-- Every slot is free, or belongs to someone. -/
  conserved : e.ledger.pool.free + (e.ledger.pool.holders.length + e.ledger.pool.granted.length)
    = size
  /-- Nobody has two slots, or waits for another. -/
  once : (e.ledger.pool.holders ++ e.ledger.pool.granted ++ e.ledger.pool.waiting).Nodup
  /-- Whoever has a slot or waits for one is a dispatch under way of a request that wants
      retries. -/
  underway : ∀ n ∈ e.ledger.pool.holders ++ e.ledger.pool.granted ++ e.ledger.pool.waiting,
    (∃ t ∈ e.tasks, t.number = n ∧ t.begun = true) ∧
      ∃ r, (n, r) ∈ requests ∧ r.hasRetryPolicy = true
  /-- A dispatch of such a request that has called the transport holds a slot until it ends. -/
  calling : ∀ x ∈ e.ledger.notes, x.what.isCall = true → ∃ n, x.task = some n ∧
    (e.Lives n → ∀ r, (n, r) ∈ requests → r.hasRetryPolicy = true → n ∈ e.ledger.pool.holders)
  idle : e.ledger.pool.waiting ≠ [] → e.ledger.pool.free = 0
  /-- A request that wants no retries has no part in this. -/
  plain : ∀ n r, (n, r) ∈ requests → r.hasRetryPolicy = false →
    n ∉ e.ledger.pool.holders ++ e.ledger.pool.granted ++ e.ledger.pool.waiting

/-- What is kept from one state of a client to a later one. -/
structure Keeps (e e' : Engine α) : Prop where
  /-- Whoever holds a slot holds it to its end. -/
  holds : ∀ n ∈ e.ledger.pool.holders, e'.Lives n → n ∈ e'.ledger.pool.holders
  /-- Whoever has ended has nothing, and waits for nothing. -/
  ended : ∀ n, n < e.spawned → ¬ e'.Lives n →
    n ∉ e'.ledger.pool.holders ++ e'.ledger.pool.granted ++ e'.ledger.pool.waiting
  /-- While a task waits, slots go only to those who came before it. -/
  inOrder : ∀ a ∈ e.ledger.pool.waiting, a ∈ e'.ledger.pool.waiting →
    e.ledger.pool.Fair e'.ledger.pool a

/-- A task ends, and leaves the pool as it was, but for its own part in it. -/
def Leaves (n : Nat) (e e' : Engine α) : Prop :=
  ¬ e'.Lives n ∧ e'.ledger.pool = (e.ledger.pool.leave n).1

variable {e e' : Engine α} {t : Task α} {config : Config} {requests : List (Nat × Request)}
  {events later : List (EngineEvent α)} {n future : Nat}

/-- Whoever is not away from the pool is a dispatch of a request that wants retries. -/
theorem retries_of_staged {closed : Bool} {place : Place} (h : Staged requests closed place t)
    (hp : place ≠ .away) :
    t.begun = true ∧ ∃ r, Asked requests t.number (some r) ∧ r.hasRetryPolicy = true := by
  have hstage : ∀ {β : Type} {down : β → Prop} {r : Request} {work : Program β},
      Asked requests t.number (some r) → Program.Stage down r closed t.begun place work →
      t.begun = true ∧ ∃ r, Asked requests t.number (some r) ∧ r.hasRetryPolicy = true := by
    intro β down r work ha hs
    generalize t.begun = begun at hs
    cases hs with
    | fresh hf => exact absurd rfl hp
    | inLine hr hnext hstands => exact ⟨rfl, r, ha, hr⟩
    | held hr hcalm => exact ⟨rfl, r, ha, hr⟩
    | plain hr hcalm => exact absurd rfl hp
  rw [Staged] at h
  cases hj : t.job with
  | drive future work =>
      rw [hj] at h
      obtain ⟨r, ha, hs⟩ := h
      exact hstage ha hs
  | load ticket work =>
      rw [hj] at h
      exact hstage h.1 h.2
  | deliver future load =>
      rw [hj] at h
      exact absurd h.2 hp
  | clean due =>
      rw [hj] at h
      exact absurd h.2 hp

theorem mem_of_place_ne_away {p : SlotPool} :
    n ∈ p.holders ++ p.granted ++ p.waiting ↔ p.place n ≠ .away := by
  rw [Ne, place_eq_away, List.mem_append, List.mem_append]
  tauto

/-- **THE SLOTS OF A CLIENT ARE SPREAD LIKE THIS.** -/
theorem Standing.spread {size : Nat} (h : Standing size requests e) : Spread size requests e := by
  have hretries : ∀ n ∈ e.ledger.pool.holders ++ e.ledger.pool.granted ++ e.ledger.pool.waiting,
      (∃ t ∈ e.tasks, t.number = n ∧ t.begun = true) ∧
        ∃ r, Asked requests n (some r) ∧ r.hasRetryPolicy = true := by
    intro n hn
    have hplace := mem_of_place_ne_away.mp hn
    obtain ⟨t, ht, rfl⟩ := h.live n hplace
    obtain ⟨hbegun, hasked⟩ := retries_of_staged (h.staged t ht) hplace
    exact ⟨⟨t, ht, rfl, hbegun⟩, hasked⟩
  refine
    { conserved := ?conserved
      once := h.pool.once
      underway := ?underway
      calling := ?calling
      idle := h.pool.idle
      plain := ?plain }
  case conserved =>
    rw [← Nat.add_assoc]
    exact h.total
  case underway =>
    intro n hn
    obtain ⟨hunderway, r, hasked, hr⟩ := hretries n hn
    exact ⟨hunderway, r, (hasked r).mpr rfl, hr⟩
  case calling =>
    intro x hx hcall
    obtain ⟨n, hn, -, hcalled⟩ := h.calls x hx hcall
    refine ⟨n, hn, ?_⟩
    rintro ⟨t, ht, rfl⟩ r hr hretries
    exact place_eq_holding.mp ((hcalled t ht rfl).holds r hr hretries)
  case plain =>
    intro n r hr hplain hn
    obtain ⟨-, r', hasked, hr'⟩ := hretries n hn
    cases (hasked r).mp hr
    cases hplain.symm.trans hr'

/-- What goes on from a client keeps to the order of the line. -/
theorem Client.keeps (h : Client config requests e) (hc : OfClient later) :
    Keeps e (e.steps later) := by
  have honward := h.onward hc
  have hspawned : ∀ n, e.Lives n → n < e.spawned := by
    rintro n ⟨t, ht, rfl⟩
    exact h.standing.spawned t ht
  refine
    { holds := ?holds
      ended := ?ended
      inOrder := ?inOrder }
  case holds =>
    intro n hn hlives
    have hplace := place_eq_holding.mpr hn
    have hlt := hspawned n (h.standing.live n fun haway => nomatch hplace.symm.trans haway)
    exact place_eq_holding.mp (honward.keeps n hlt hplace hlives)
  case ended =>
    intro n _ hended hn
    exact hended ((h.steps hc).standing.live n (mem_of_place_ne_away.mp hn))
  case inOrder =>
    intro a ha ha'
    have hplace := h.standing.pool.place_eq_waiting.mpr ha
    have hne : e.ledger.pool.place a ≠ .away := fun haway => nomatch hplace.symm.trans haway
    refine honward.fair a ⟨hspawned a (h.standing.live a hne), ?_⟩ hplace
      ((h.steps hc).standing.pool.place_eq_waiting.mpr ha')
    rintro t ht rfl
    exact (retries_of_staged (h.standing.staged t ht) hne).1

/-- **A SLOT IS GIVEN BACK WHEN ITS DISPATCH ENDS**, however it ends, and only then. -/
theorem Client.gives_back (h : Client config requests e) (hn : n ∈ e.ledger.pool.holders) {m : Nat}
    (hended : ¬ (e.turn m).Lives n) : e.ledger.pool.GivesBack n (e.turn m).ledger.pool := by
  have hholding := place_eq_holding.mpr hn
  obtain ⟨t, ht, rfl⟩ := h.standing.live n fun haway => nomatch hholding.symm.trans haway
  have hturn := turn_step h.standing.numbers m
  -- nobody ends in the turn of another
  obtain rfl : m = t.number := by
    by_contra hne
    exact hended ⟨t, hturn.keeps ht (Ne.symm hne), rfl⟩
  by_cases hready : t.number ∈ e.ready
  · rcases hturn.own h.standing.numbers ht hready with
      ⟨-, l, job, loads, -, hrests⟩ | ⟨l, remains, he, hrests⟩
    · exact absurd (hrests.lives.mpr (lives_goneOn.mpr ⟨t, ht, rfl⟩)) hended
    · have hpool : (e.turn t.number).ledger.pool = (l.pool.leave t.number).1 := hrests.pool
      rw [hpool, (h.standing.ends ht he).same hholding]
      exact givesBack_leave hn
  · rw [turn_of_not_ready hready] at hended
    exact absurd ⟨t, ht, rfl⟩ hended

/-- A task that is to be dropped leaves when its turn comes, and keeps its slot up to that. -/
theorem Client.leaves_of_aborted (h : Client config requests e) (ht : t ∈ e.tasks)
    (ha : t.aborted = true) (hc : OfClient later) (hl : .turn t.number ∈ later) :
    Comes t.number e later fun x x' => x.Lives t.number ∧ Leaves t.number x x' ∧
      (t.number ∈ e.ledger.pool.holders → t.number ∈ x.ledger.pool.holders) := by
  have hready := h.standing.prompt t ht (Or.inr (Or.inl ha))
  refine (h.comes_in_turn (P := fun _ x => t.number < x.spawned ∧
      (∃ u ∈ x.tasks, u.number = t.number ∧ u.aborted = true) ∧
      (t.number ∈ e.ledger.pool.holders → t.number ∈ x.ledger.pool.holders))
    ?act ?other ?own ⟨h.standing.spawned t ht, ⟨t, ht, rfl, ha⟩, id⟩ hready hc).resolve_right
      fun hlast => hlast.2 hl
  case act =>
    rintro requests x asked x' hx hact ⟨hlt, ⟨u, hu, hnumber, hu'⟩, hholds⟩
    have honward := hx.onward_act hact
    obtain ⟨v, hv, hvn, -, -, hva⟩ := hact.keeps hu
    refine ⟨Nat.lt_of_lt_of_le hlt honward.spawned, ⟨v, hv, hvn.trans hnumber, hva hu'⟩, fun hh => ?_⟩
    exact place_eq_holding.mp
      (honward.keeps _ hlt (place_eq_holding.mpr (hholds hh)) ⟨v, hv, hvn.trans hnumber⟩)
  case other =>
    rintro requests x m x' hx hturn hne ⟨hlt, ⟨u, hu, hnumber, hu'⟩, hholds⟩
    have hkept := hturn.keeps hu fun heq => hne (heq.symm.trans hnumber)
    have honward := hx.standing.onward_turn hturn
    refine ⟨Nat.lt_of_lt_of_le hlt honward.spawned, ⟨u, hkept, hnumber, hu'⟩, fun hh => ?_⟩
    exact place_eq_holding.mp
      (honward.keeps _ hlt (place_eq_holding.mpr (hholds hh)) ⟨u, hkept, hnumber⟩)
  case own =>
    rintro requests x x' hx hturn hqueued ⟨hlt, ⟨u, hu, hnumber, hu'⟩, hholds⟩
    rw [← hnumber] at hturn hqueued hholds ⊢
    refine ⟨⟨u, hu, rfl⟩, ?_, hholds⟩
    rcases hturn.own hx.standing.numbers hu hqueued with
      ⟨hnot, -⟩ | ⟨l, remains, he, hrests⟩
    · cases hu'.symm.trans hnot
    · cases he.ledger_eq hu'
      exact ⟨not_lives_of_left hrests.tasks, hrests.pool⟩

/-- The task of a future that is cancelled is to be dropped, because it drives that future alone;
    the pool is left as it is. -/
theorem Client.aborted_of_cancelled (h : Client config requests e) (ht : t ∈ e.tasks)
    (hj : t.job.future? = some future) (hcancel : (e.cancel future).2 = true) :
    { t with aborted := true } ∈ (e.cancel future).1.tasks ∧
      (e.cancel future).1.ledger.pool = e.ledger.pool := by
  obtain ⟨c, hf, hpending⟩ := e.pending_of_cancel hcancel
  obtain ⟨-, hrests, -⟩ := e.rests_cancel hf hpending
  have hdrives := h.standing.drives t ht
  rw [Drives, hj] at hdrives
  obtain ⟨c', hf', hcase⟩ := hdrives
  cases hf.symm.trans hf'
  obtain ⟨-, htask, -⟩ := hcase.resolve_right fun hcancelled => by
    cases hpending.symm.trans hcancelled.1
  refine ⟨?_, hrests.pool⟩
  rw [hrests.tasks]
  exact List.mem_map.mpr ⟨t, ht, if_pos htask⟩

/-- **A CANCELLED DISPATCH TAKES NO SLOT, AND BLOCKS NONE.** -/
theorem Client.leaves_of_cancelled (h : Client config requests e) (ht : t ∈ e.tasks)
    (hj : t.job.future? = some future) (hcancel : (e.cancel future).2 = true)
    (hc : OfClient later) :
    (e.cancel future).1.ledger.pool = e.ledger.pool ∧
    (t.number ∈ ((e.cancel future).1.steps later).ledger.pool.holders →
      t.number ∈ e.ledger.pool.holders) ∧
    (.turn t.number ∈ later → Comes t.number (e.cancel future).1 later (Leaves t.number)) := by
  have hclient := h.cancel future
  obtain ⟨ht', hpool⟩ := h.aborted_of_cancelled ht hj hcancel
  refine ⟨hpool, fun hn => ?holds, fun hl => ?leaves⟩
  case holds =>
    rw [← hpool]
    refine place_eq_holding.mp
      ((hclient.onward hc).holds t.number ⟨?_, ?_⟩ (place_eq_holding.mpr hn))
    · exact hclient.standing.spawned { t with aborted := true } ht'
    · intro u hu hnumber
      have hsame : u = { t with aborted := true } :=
        List.inj_on_of_nodup_map hclient.standing.numbers hu ht' hnumber
      rw [hsame]
  case leaves =>
    exact (hclient.leaves_of_aborted (t := { t with aborted := true }) ht' rfl hc hl).mono
      fun hleaves => hleaves.2.1

/-- **NO SLOT IS LOST AND NONE IS DOUBLED**, whatever has happened to a client.  The slots are spread
    over the dispatches that want retries; whoever holds one holds it to its end, and nobody is
    overtaken in the line; at its end a dispatch gives its slot back once; a cancelled one takes none
    and is gone when its turn comes; and in every conversation a dispatch gets its one slot before
    its first attempt, or asks for none. -/
theorem slots_conserved {hasEngine : Bool} {parts : Parts} {present : Response → α} {epoch : Int}
    {e₀ : Engine α} (h : ofConfig config hasEngine parts present epoch = .ok e₀)
    (hc : OfClient events) :
    Spread config.retryPoolSize (e₀.dispatches events) (e₀.steps events) ∧
    (∀ later, OfClient later → Keeps (e₀.steps events) ((e₀.steps events).steps later)) ∧
    (∀ n ∈ (e₀.steps events).ledger.pool.holders, ∀ m, ((e₀.steps events).turn m).Lives n ∨
      (e₀.steps events).ledger.pool.GivesBack n ((e₀.steps events).turn m).ledger.pool) ∧
    (∀ t ∈ (e₀.steps events).tasks, ∀ future later, t.job.future? = some future →
      ((e₀.steps events).cancel future).2 = true → OfClient later →
      ((e₀.steps events).cancel future).1.ledger.pool = (e₀.steps events).ledger.pool ∧
      (t.number ∈ (((e₀.steps events).cancel future).1.steps later).ledger.pool.holders →
        t.number ∈ (e₀.steps events).ledger.pool.holders) ∧
      (.turn t.number ∈ later →
        Comes t.number ((e₀.steps events).cancel future).1 later (Leaves t.number))) ∧
    ∀ (request : Request) (handler : Handler α) (talk : List Deed) (q : Program (Outcome α)),
      (dispatch request handler).Goes talk q →
      (request.hasRetryPolicy = true → callsOf talk ≠ [] →
        ∃ rest, talk = .checked false :: .slot true :: rest ∧ ∀ b, .slot b ∉ rest) ∧
      (request.hasRetryPolicy = false → ∀ b, .slot b ∉ talk) := by
  have hclient : Client config (e₀.dispatches events) (e₀.steps events) :=
    (client_ofConfig h).steps hc
  refine ⟨hclient.standing.spread, fun later hl => hclient.keeps hl, ?_, ?_, ?_⟩
  · intro n hn m
    by_cases hlives : ((e₀.steps events).turn m).Lives n
    · exact Or.inl hlives
    · exact Or.inr (hclient.gives_back hn hlives)
  · exact fun t ht future later hj hcancel hl => hclient.leaves_of_cancelled ht hj hcancel hl
  · intro request handler talk q hgoes
    have hgates := Gates.of_goes hgoes
    exact ⟨fun hr hcalls => hgates.slot_first hr hcalls, fun hr b => hgates.no_slot hr b⟩

/-- Of two rivals one has the slot and one waits; who waits is cancelled, and is gone at its turn. -/
theorem slots_conserved_of_rivals :
    ofConfig narrow true Retry.wavering id 0 = .ok narrowEngine ∧ OfClient rivals ∧
    (narrowEngine.steps rivals).ledger.pool = ⟨0, [1], [], [2], false⟩ ∧
    Spread 1 (narrowEngine.dispatches rivals) (narrowEngine.steps rivals) ∧
    Keeps (narrowEngine.steps rivals) ((narrowEngine.steps rivals).steps [.cancel 1, .turn 1]) ∧
    Comes 2 ((narrowEngine.steps rivals).cancel 1).1 [.turn 1, .turn 2] (Leaves 2) := by
  have hc : OfClient rivals := by simp [OfClient, rivals, EngineEvent.isClient]
  have hl : OfClient ([.cancel 1, .turn 1] : List (EngineEvent Response)) := by
    simp [OfClient, EngineEvent.isClient]
  have hturns : OfClient ([.turn 1, .turn 2] : List (EngineEvent Response)) := by
    simp [OfClient, EngineEvent.isClient]
  obtain ⟨hspread, hkeeps, -, hleaves, -⟩ := slots_conserved ofConfig_narrow hc
  obtain ⟨t, ht, hnumber, hj⟩ : ∃ t ∈ (narrowEngine.steps rivals).tasks, t.number = 2 ∧
      t.job.future? = some 1 := by decide +kernel
  have hgone := (hleaves t ht 1 _ hj (by decide +kernel) hturns).2.2 (by simp [hnumber])
  rw [hnumber] at hgone
  exact ⟨ofConfig_narrow, hc, by decide +kernel, hspread, hkeeps _ hl, hgone⟩

end Engine

end Courier
