import Courier.Proofs.Engine.OneCleaner
import Courier.Proofs.Engine.Rolls

/-!
# The cleanup schedule — passes a period apart, until the cleanup is told to stop

A cache has a cleaner from the start.  The clocks move step by step, and whoever can run when they
have moved has its turn before they move again, in any order (`Paced`); calls, cancels and all else
come in between as they like.  Then the cleaner makes its passes a period apart from its first turn
on, and misses none until it is told to stop; in its next turn it stops (`cleanup_schedule`).

`Tended` is what every event keeps, and `Tended.step` says what it may do to the cache.
-/

namespace Courier

variable {α : Type}

namespace Engine

variable {config : CacheConfig} {owed : List Nat} {tardy : Bool} {e e' : Engine α}
  {ev : EngineEvent α} {events : List (EngineEvent α)}

/-! ## Events that come in time -/

/-- Who is to have a turn before the clocks move: all that are in the queue when they have moved,
    until they have had it. -/
def owing (owed : List Nat) (e : Engine α) : EngineEvent α → List Nat
  | .tick => e.tick.ready
  | .turn n => owed.filter (· != n)
  | _ => owed

/-- Who is to have a turn after some events. -/
def owingAfter : List Nat → Engine α → List (EngineEvent α) → List Nat
  | owed, _, [] => owed
  | owed, e, ev :: rest => owingAfter (owing owed e ev) (e.step ev) rest

/-- **EVENTS THAT COME IN TIME**: the clocks move only when all who were to have their turn have had
    it. -/
def Paced : List Nat → Engine α → List (EngineEvent α) → Prop
  | _, _, [] => True
  | owed, e, ev :: rest =>
    (ev.isTick = true → owed = []) ∧ Paced (owing owed e ev) (e.step ev) rest

instance decidablePaced : (owed : List Nat) → (e : Engine α) → (events : List (EngineEvent α)) →
    Decidable (Paced owed e events)
  | _, _, [] => inferInstanceAs (Decidable True)
  | owed, e, ev :: rest =>
    have := decidablePaced (owing owed e ev) (e.step ev) rest
    inferInstanceAs (Decidable ((ev.isTick = true → owed = []) ∧ _))

/-- Events are paced one after the other. -/
theorem paced_append {before after : List (EngineEvent α)} : Paced owed e (before ++ after) ↔
    Paced owed e before ∧ Paced (owingAfter owed e before) (e.steps before) after := by
  induction before generalizing owed e with
  | nil => exact (and_iff_right trivial).symm
  | cons ev rest ih => exact (and_congr_right fun _ => ih).trans and_assoc.symm

/-- What is owed goes on from where it was left. -/
theorem owingAfter_append (owed : List Nat) (e : Engine α) (before after : List (EngineEvent α)) :
    owingAfter owed e (before ++ after)
      = owingAfter (owingAfter owed e before) (e.steps before) after := by
  induction before generalizing owed e with
  | nil => rfl
  | cons ev rest ih => exact ih _ _

/-- Turns and ticks that come in time, after which nobody is to have a turn. -/
structure Advances (owed : List Nat) (e e' : Engine α) (events : List (EngineEvent α)) : Prop where
  run : e' = e.steps events
  paced : Paced owed e events
  done : owingAfter owed e events = []
  plain : ∀ ev ∈ events, ev.isTurn = true ∨ ev.isTick = true

/-- Whoever goes on from where nobody is owed a turn may let the clocks move again. -/
theorem Advances.append {before after : List (EngineEvent α)} {e'' : Engine α}
    (h : Advances owed e e' before) (h' : Advances [] e' e'' after) :
    Advances owed e e'' (before ++ after) := by
  obtain ⟨rfl, hpaced, hdone, hplain⟩ := h
  obtain ⟨rfl, hpaced', hdone', hplain'⟩ := h'
  refine ⟨(e.steps_append before after).symm, paced_append.mpr ⟨hpaced, hdone.symm ▸ hpaced'⟩, ?_,
    fun ev hev => (List.mem_append.mp hev).elim (hplain ev) (hplain' ev)⟩
  rw [owingAfter_append, hdone]
  exact hdone'

/-- Whoever is among the first in the queue moves up in the turn of the very first. -/
theorem mem_take_turn {first n k : Nat} {rest : List Nat} (ht : Turn e first e')
    (hr : e.ready = first :: rest) (hn : n ∈ e.ready.take (k + 1)) (hne : n ≠ first) :
    n ∈ e'.ready.take k := by
  -- those who are left stand in the same order, and whoever is woken stands behind them
  obtain ⟨more, hmore⟩ : ∃ more, e'.ready = (e.called first).ready ++ more := by
    cases ht with
    | idle hidle => exact absurd (hr ▸ List.mem_cons_self) hidle
    | skip hready hl hrests => exact hrests.ready
    | stay hnumber hready hu ha hs hrests => exact hnumber ▸ hrests.ready
    | leave hnumber hready hu he hrests hwoken => exact hnumber ▸ hrests.ready
  have hcalled : (e.called first).ready = rest.filter (· != first) := by
    rw [called, hr, List.filter_cons_of_neg (by simp)]
  rw [hr, List.take_succ_cons] at hn
  have hrest : n ∈ (rest.take k).filter (· != first) :=
    List.mem_filter.mpr ⟨(List.mem_cons.mp hn).resolve_left hne, bne_iff_ne.mpr hne⟩
  obtain ⟨left, hleft⟩ : (rest.take k).filter (· != first) <+: rest.filter (· != first) :=
    (rest.take_prefix k).filter _
  have hlength : ((rest.take k).filter (· != first)).length ≤ k :=
    Nat.le_trans (List.length_filter_le _ _) (List.length_take_le k rest)
  rw [hmore, hcalled, ← hleft, List.append_assoc, List.take_append,
    List.take_of_length_le hlength]
  exact List.mem_append_left _ hrest

/-- When tasks have taken turns for long enough, nobody is to have a turn. -/
theorem advances_drain (h : Manned e) {fuel : Nat} (howed : ∀ n ∈ owed, n ∈ e.ready.take fuel) :
    ∃ events, Advances owed e (drain fuel e) events := by
  -- a turn uses up one of the turns that may be taken, and those who are to have one move up
  induction fuel generalizing owed e with
  | zero =>
      have hnone : owed = [] := List.eq_nil_iff_forall_not_mem.mpr fun n hn => by cases howed n hn
      exact ⟨[], rfl, trivial, hnone, List.forall_mem_nil _⟩
  | succ fuel ih =>
      rw [drain]
      split
      · rename_i hempty
        refine ⟨[], rfl, trivial, List.eq_nil_iff_forall_not_mem.mpr fun n hn => ?_,
          List.forall_mem_nil _⟩
        have hmem := howed n hn
        rw [hempty] at hmem
        cases hmem
      · rename_i first rest hready
        have hmanned : Manned (e.turn first) := h.shifts (shifts_step h.nodup (.turn first))
        have hleft : ∀ n ∈ owed.filter (· != first), n ∈ (e.turn first).ready.take fuel := by
          intro n hn
          obtain ⟨hmem, hne⟩ := List.mem_filter.mp hn
          exact mem_take_turn (turn_step h.nodup first) hready (howed n hmem) (bne_iff_ne.mp hne)
        obtain ⟨events, hrun, hpaced, hdone, hplain⟩ := ih hmanned hleft
        exact ⟨.turn first :: events, hrun,
          ⟨fun htick => absurd htick Bool.false_ne_true, hpaced⟩, hdone,
          List.forall_mem_cons.mpr ⟨Or.inl rfl, hplain⟩⟩

/-- To let everybody have their turns pays what is owed. -/
theorem advances_settle (h : Manned e) (howed : ∀ n ∈ owed, n ∈ e.ready) :
    ∃ events, Advances owed e e.settle events :=
  advances_drain h fun n hn => by
    rw [List.take_of_length_le (by omega)]
    exact howed n hn

/-- To let the clocks move, with the turns in between, leaves nobody owed a turn. -/
theorem advances_ticks (n : Nat) (h : Manned e) : ∃ events, Advances [] e (ticks n e) events := by
  induction n generalizing e with
  | zero => exact ⟨[], rfl, trivial, rfl, List.forall_mem_nil _⟩
  | succ n ih =>
      have hticked : Manned e.tick := h.shifts (shifts_step h.nodup .tick)
      obtain ⟨settling, hrun, hpaced, hdone, hplain⟩ :=
        advances_settle hticked fun n (hn : n ∈ e.tick.ready) => hn
      have htick : Advances [] e e.tick.settle (.tick :: settling) :=
        ⟨hrun, ⟨fun _ => rfl, hpaced⟩, hdone, List.forall_mem_cons.mpr ⟨Or.inr rfl, hplain⟩⟩
      obtain ⟨events, hevents⟩ := ih (e := e.tick.settle) (hrun ▸ hticked.steps settling)
      exact ⟨_, htick.append hevents⟩

/-- **ADVANCING AN ENGINE COMES IN TIME**: tasks take turns before the clocks move, and after each
    step. -/
theorem advances_advance (h : Manned e) (howed : ∀ n ∈ owed, n ∈ e.ready) (n : Nat) :
    ∃ events, Advances owed e (e.advance n) events := by
  obtain ⟨settling, hs⟩ := advances_settle h howed
  obtain ⟨events, hevents⟩ := advances_ticks n (hs.run ▸ h.steps settling)
  exact ⟨_, hs.append hevents⟩

/-! ## A cache with its cleaner -/

/-- **A CACHE THAT HAS JUST BEEN MADE**, alone or for a client; its cleaner has not had a turn. -/
inductive Opened (config : CacheConfig) : Engine α → Prop where
  | alone {parts : Parts} {loader : Request → Program (Outcome Response)} {present : Response → α}
      {epoch : Int} {slots : Nat} (h : config.validate = .ok ()) :
      Opened config (new parts loader present (.start epoch slots) config).startCleaner
  | client {c : Config} {hasEngine : Bool} {parts : Parts} {present : Response → α} {epoch : Int}
      {e : Engine α} (hconfig : c.cache = config)
      (h : ofConfig c hasEngine parts present epoch = .ok e) : Opened config e

/-- **A CACHE WITH ITS CLEANER**, whatever has happened to it. -/
structure Tended (config : CacheConfig) (owed : List Nat) (tardy : Bool) (e : Engine α) :
    Prop where
  period : 0 < config.cleanupMillis
  recorded : e.Recorded config
  manned : Manned e
  running : e.stopped = false
  spawned : 0 < e.spawned
  alone : CleansAlone 0 e
  tick : e.ledger.tick = Duration.perMilli
  /-- The cleanup of a client that is closed is told to stop. -/
  closed : e.ledger.closed = true → e.cleanerStopped = true
  cleaning : Cleaning 0 config.cleanup.nanos owed tardy (e.taskSide 0) e.ready

/-- A cache that is accepted has a period. -/
theorem period_of_validate (h : config.validate = .ok ()) : 0 < config.cleanupMillis := by
  rw [CacheConfig.validate] at h
  split at h
  · cases h
  · exact Nat.pos_of_ne_zero ‹_›

/-- A client is built only with a cache that is valid. -/
theorem validate_of_check {c : Config} {hasEngine : Bool} (h : c.check hasEngine = .ok ()) :
    c.cache.validate = .ok () := by
  rw [Config.check] at h
  split at h
  · cases h
  · rename_i hvalid
    rw [Config.validate] at hvalid
    split at hvalid
    · cases hvalid
    · split at hvalid
      · cases hvalid
      · exact hvalid

/-- The cleaner of a cache alone is tended when it has been spawned. -/
theorem tended_alone (parts : Parts) (loader : Request → Program (Outcome Response))
    (present : Response → α) (epoch : Int) (slots : Nat) (h : config.validate = .ok ()) :
    Tended config [] true (new parts loader present (.start epoch slots) config).startCleaner where
  period := period_of_validate h
  recorded := (recorded_new _ _ _ _ _ _).continues (continues_spawn _ rfl)
  manned := by
    have hnew : Manned (new parts loader present (.start epoch slots) config) :=
      ⟨List.nodup_nil, List.forall_mem_nil _, fun _ _ hn => absurd hn List.not_mem_nil,
        fun _ _ hown => by cases hown⟩
    exact hnew.shifts (shifts_spawn _ _ rfl)
  running := rfl
  spawned := Nat.one_pos
  alone := fun t ht _ => by rw [List.mem_singleton.mp ht]; rfl
  tick := rfl
  closed := nofun
  cleaning := .fresh rfl rfl rfl List.mem_cons_self nofun

/-- What is told to the log does not touch the cleaner. -/
theorem Tended.tell (h : Tended config owed tardy e) (entry : Log) :
    Tended config owed tardy (e.tell none entry) where
  period := h.period
  recorded := h.recorded.continues (.of_eq rfl)
  manned := h.manned.shift (rests_tell _ _ _).shift
  running := h.running
  spawned := h.spawned
  alone := h.alone.of_tasks rfl
  tick := h.tick
  closed := h.closed
  cleaning := by
    rw [Engine.tell, taskSide_mark _ none_ne_some]
    exact h.cleaning

/-- A cache that has just been made is new, but for what its client has told the log. -/
theorem Opened.eq (h : Opened config e) : config.validate = .ok () ∧
    ∃ parts loader present epoch slots x,
      x = (new parts loader present (.start epoch slots) config).startCleaner ∧
      (e = x ∨ ∃ entry, e = x.tell none entry) := by
  cases h with
  | alone hvalid => exact ⟨hvalid, _, _, _, _, _, _, rfl, Or.inl rfl⟩
  | @client c hasEngine parts present epoch e hconfig hclient =>
      rw [ofConfig] at hclient
      cases hv : c.check hasEngine with
      | error cause =>
          rw [hv] at hclient
          cases hclient
      | ok _ =>
          rw [hv] at hclient
          cases hclient
          subst hconfig
          exact ⟨validate_of_check hv, _, _, _, _, _, _, rfl, Or.inr ⟨_, rfl⟩⟩

/-- A cache that has just been made is tended, and its cleaner was not told to stop. -/
theorem tended_opened (h : Opened config e) :
    Tended config [] true e ∧ e.cleanerStopped = false := by
  obtain ⟨hvalid, parts, loader, present, epoch, slots, x, rfl, rfl | ⟨entry, rfl⟩⟩ := h.eq
  · exact ⟨tended_alone _ _ _ _ _ hvalid, rfl⟩
  · exact ⟨(tended_alone _ _ _ _ _ hvalid).tell entry, rfl⟩

/-! ## What every event keeps -/

/-- Nobody makes a pass, and a turn leaves the cache alone or hands it the outcome of a load. -/
structure Unswept (ev : EngineEvent α) (e e' : Engine α) : Prop where
  noted : e'.passes 0 = e.passes 0
  cache : ev.isTurn = true → e.cache.Heeds e.ledger.elapsed e'.cache

/-- The cleaner has its turn, and makes a pass. -/
structure Swept (ev : EngineEvent α) (e e' : Engine α) : Prop where
  turn : ev = .turn 0
  pass : ∃ removed, Pass 0 e e' removed

/-- No turn stops the tasks. -/
theorem Turn.stopped {n : Nat} (h : Turn e n e') : e'.stopped = e.stopped := by
  cases h with
  | idle hr => rfl
  | skip hr hn hrests => exact hrests.stopped
  | stay hn hr ht ha hs hrests => exact hrests.stopped
  | leave hn hr ht he hrests hwoken => exact hrests.stopped

/-- No cache is ever configured anew. -/
theorem Recorded.config_cache (h : e.Recorded config) : e.cache.config = config := by
  obtain ⟨events, hfollows⟩ := h
  have hcache : e.cache = (History.run config events).cache := hfollows.cache
  rw [hcache]
  exact History.config_run config events

/-- No pass is made where nothing is noted. -/
theorem passes_of_notes {n : Nat} {s : TaskSide α} (h : e'.taskSide n = s)
    (hnotes : s.ledger.notes = (e.taskSide n).ledger.notes) : e'.passes n = e.passes n :=
  congrArg (fun notes => (notes.filter (·.what.isPass)).reverse)
    ((congrArg (·.ledger.notes) h).trans hnotes)

/-- A period is some steps of the clocks. -/
theorem Tended.steps_of_period (h : Tended config owed tardy e) :
    ∃ k, config.cleanup.nanos = (k + 1) * e.ledger.tick := by
  refine ⟨config.cleanupMillis - 1, ?_⟩
  rw [Nat.sub_add_cancel h.period, h.tick]
  rfl

/-- The clocks move by something. -/
theorem Tended.tick_pos (h : Tended config owed tardy e) : 0 < e.ledger.tick :=
  h.tick ▸ Nat.succ_pos _

/-- What does not depend on whose turn it is. -/
theorem Tended.of_step (h : Tended config owed tardy e) (hev : ev.isCache = true)
    (htick : (e.step ev).ledger.tick = e.ledger.tick)
    (hclosed : (e.step ev).ledger.closed = true → (e.step ev).cleanerStopped = true)
    (hcleaning : Cleaning 0 config.cleanup.nanos (owing owed e ev) tardy ((e.step ev).taskSide 0)
      (e.step ev).ready) : Tended config (owing owed e ev) tardy (e.step ev) := by
  have hsame : (e.step ev).stopped = e.stopped ∧ e.spawned ≤ (e.step ev).spawned := by
    rcases step_cases h.recorded h.running h.manned.nodup (isClient_of_isCache hev) with
      ⟨n, -, hturn, -⟩ | ⟨-, hacts⟩
    · exact ⟨hturn.stopped, Nat.le_of_eq hturn.spawned.symm⟩
    · exact ⟨hacts.stopped, hacts.spawned_le⟩
  exact
    { period := h.period
      recorded := h.recorded.continues (continues_step e ev)
      manned := h.manned.shifts (shifts_step h.manned.nodup ev)
      running := hsame.1.trans h.running
      spawned := Nat.lt_of_lt_of_le h.spawned hsame.2
      alone := h.alone.step h.running h.manned.nodup hev
      tick := htick.trans h.tick
      closed := hclosed
      cleaning := hcleaning }

/-- The turn of the cleaner. -/
theorem Tended.own (h : Tended config owed tardy e) (hr : 0 ∈ e.ready) (owed' ready' : List Nat) :
    Cleaning 0 config.cleanup.nanos owed' tardy ((e.turn 0).taskSide 0) ready' ∧
      (NoPass 0 e (e.turn 0) ∨ ∃ removed, Pass 0 e (e.turn 0) removed) := by
  obtain ⟨k, hk⟩ := h.steps_of_period
  have hperiod : e.cache.config.cleanup.nanos = config.cleanup.nanos :=
    congrArg (fun c : CacheConfig => c.cleanup.nanos) h.recorded.config_cache
  exact cleaning_own h.cleaning h.manned.nodup hr hperiod hk h.tick_pos

/-- Whoever has a turn, the cleaner stays tended, and the turn is a pass or is none. -/
theorem Tended.turn (h : Tended config owed tardy e) (m : Nat) :
    Tended config (owing owed e (.turn m)) tardy (e.turn m) ∧
      (Unswept (.turn m) e (e.turn m) ∨ Swept (.turn m) e (e.turn m)) := by
  obtain ⟨-, htick, hclosed, hstopped⟩ := e.turn_common m
  have hturn := turn_step h.manned.nodup m
  have hev : (EngineEvent.turn m : EngineEvent α).isCache = true := rfl
  have htended : ∀ _ : Cleaning 0 config.cleanup.nanos (owing owed e (.turn m)) tardy
      ((e.turn m).taskSide 0) (e.turn m).ready,
      Tended config (owing owed e (.turn m)) tardy (e.turn m) :=
    h.of_step hev htick fun hc => hstopped.trans (h.closed (hclosed.symm.trans hc))
  by_cases hm : m = 0
  · subst hm
    by_cases hr : 0 ∈ e.ready
    · obtain ⟨hcleaning, hdoes⟩ := h.own hr (owing owed e (.turn 0)) (e.turn 0).ready
      refine ⟨htended hcleaning, hdoes.imp (fun hnone => ⟨hnone.noted, fun _ => ?_⟩) fun hpass =>
        ⟨rfl, hpass⟩⟩
      rw [hnone.cache]
      exact .nothing
    · -- who is not in the queue has no turn
      have hsame : e.turn 0 = e := turn_of_not_ready hr
      refine ⟨htended ?_, Or.inl ⟨?_, fun _ => ?_⟩⟩
      · rw [hsame]
        exact h.cleaning.keeps (.refl _) id (fun hqueued => absurd hqueued hr) fun _ => Or.inl
      · rw [hsame]
      · rw [hsame]
        exact .nothing
  · -- the turn of another, in which the cleaner stays where it is
    have hside := e.taskSide_turn hm
    have hpasses : (e.turn m).passes 0 = e.passes 0 := passes_of_notes hside rfl
    refine ⟨htended ?_, Or.inl ⟨hpasses, fun _ => heeds_turn h.alone hm⟩⟩
    rw [hside]
    refine h.cleaning.keeps (.refl _) (fun hn => hturn.queues hn (Ne.symm hm)) (fun _ hn => ?_)
      fun _ => Or.inl
    exact List.mem_filter.mpr ⟨hn, bne_iff_ne.mpr (Ne.symm hm)⟩

/-- A task that is to be woken at some time has not ended. -/
theorem lives_of_cleaning {n period : Nat} (h : Cleaning n period owed tardy (e.taskSide n) e.ready)
    {due : Nat × Nat} (hdue : due ∈ (e.taskSide n).alarms) : e.Lives n := by
  have hlives : ∀ {t : Task α}, (e.taskSide n).tasks = [t] → e.Lives n := fun htasks =>
    lives_iff_side.mpr (htasks ▸ List.cons_ne_nil _ _)
  cases h with
  | fresh tasks => exact hlives tasks
  | asleep kept tasks => exact hlives tasks
  | due kept tasks => exact hlives tasks
  | gone kept tasks alarms =>
      rw [alarms] at hdue
      cases hdue

/-- When the clocks move, nobody owed a turn, the cleaner stays tended. -/
theorem Tended.ticks (h : Tended config [] tardy e) :
    Tended config (owing [] e .tick) tardy e.tick ∧ Unswept .tick e e.tick := by
  have hside := e.taskSide_tick 0
  have hledger := congrArg TaskSide.ledger hside
  have hclosed : e.tick.ledger.closed = e.ledger.closed := congrArg LedgerSide.closed hledger
  have hstopped : e.tick.cleanerStopped = e.cleanerStopped :=
    congrArg TaskSide.cleanerStopped hside
  have hev : (EngineEvent.tick : EngineEvent α).isCache = true := rfl
  refine ⟨h.of_step hev (congrArg LedgerSide.tick hledger)
    (fun hc => hstopped.trans (h.closed (hclosed.symm.trans hc))) ?_,
    passes_of_notes hside rfl, nofun⟩
  show Cleaning _ _ _ _ (e.tick.taskSide 0) _
  rw [hside]
  refine h.cleaning.tick rfl h.tick_pos e.rests_tick.mem_ready fun due hdue hcome => ?_
  obtain ⟨htimer, hnumber⟩ := List.mem_filter.mp hdue
  have hsame : due = (due.1, 0) := Prod.ext rfl (beq_iff_eq.mp hnumber)
  exact mem_ready_tick (hsame ▸ htimer) hcome (lives_of_cleaning h.cleaning hdue)

/-- No future remembers the cleaner. -/
theorem Tended.free (h : Tended config owed tardy e) : ∀ c ∈ e.futures, c.task ≠ some 0 := by
  refine h.manned.unowned fun t ht hnumber => ?_
  have hmem : t ∈ (e.taskSide 0).tasks := List.mem_filter.mpr ⟨ht, beq_iff_eq.mpr hnumber⟩
  cases h.cleaning with
  | fresh tasks | asleep kept tasks | due kept tasks =>
      rw [tasks] at hmem
      rw [List.mem_singleton.mp hmem]
      rfl
  | gone kept tasks =>
      rw [tasks] at hmem
      cases hmem

/-- Whoever cleans up is woken to be told to stop. -/
theorem mem_ready_stopCleaner {t : Task α} (hs : e.cleanerStopped = false) (ht : t ∈ e.tasks)
    (hj : t.job.cleans = true) : t.number ∈ e.stopCleaner.ready := by
  rw [stopCleaner, if_neg (by simp [hs])]
  refine mem_ready_wakeAll _ (List.mem_filterMap.mpr ⟨t, ht, ?_⟩) ⟨t, ht, rfl⟩
  cases hjob : t.job with
  | clean due => rfl
  | drive future work | deliver future load | load ticket work =>
      rw [hjob] at hj
      cases hj

/-- So is whoever cleans up for a client that is closed. -/
theorem mem_ready_close {t : Task α} (ho : e.ledger.closed = false) (hs : e.cleanerStopped = false)
    (ht : t ∈ e.tasks) (hj : t.job.cleans = true) : t.number ∈ e.close.ready := by
  rw [close, if_neg (by simpa [isClosed] using ho)]
  refine mem_ready_stopCleaner (e := mark _ none _) ?_ ?_ hj
  · exact (congrArg TaskSide.cleanerStopped (taskSide_wakeAll (n := 0) _ _)).trans hs
  · show t ∈ (wakeAll _ _).tasks
    rw [(rests_wakeAll _ _).tasks]
    exact ht

/-- The cleaner, if it has not ended. -/
theorem Tended.cleaner (h : Tended config owed tardy e) (hlives : (e.taskSide 0).tasks ≠ []) :
    ∃ t ∈ e.tasks, t.number = 0 ∧ t.job.cleans = true := by
  have hmem : ∀ {due begun}, (e.taskSide 0).tasks = [⟨0, .clean due, begun, false⟩] →
      ∃ t ∈ e.tasks, t.number = 0 ∧ t.job.cleans = true := fun hone =>
    ⟨_, (List.mem_filter.mp (hone ▸ List.mem_singleton_self _)).1, rfl, rfl⟩
  cases h.cleaning with
  | fresh tasks => exact hmem tasks
  | asleep kept tasks => exact hmem tasks
  | due kept tasks => exact hmem tasks
  | gone kept tasks => exact absurd tasks hlives

/-- The cleaner is in the queue when it has been told to stop. -/
theorem Tended.woken (h : Tended config owed tardy e) (hclient : ev.isClient = true)
    (hturn : ev.isTurn = false) (hlives : (e.taskSide 0).tasks ≠ [])
    (hstop : (e.step ev).cleanerStopped = true) :
    e.cleanerStopped = true ∨ 0 ∈ (e.step ev).ready := by
  obtain ⟨t, ht, hnumber, hj⟩ := h.cleaner hlives
  cases hstopped : e.cleanerStopped with
  | true => exact Or.inl rfl
  | false =>
      refine Or.inr ?_
      cases ev with
      | turn m => cases hturn
      | stopCleaner => exact hnumber ▸ mem_ready_stopCleaner hstopped ht hj
      | close =>
          rw [step] at hstop ⊢
          cases ho : e.ledger.closed with
          | true =>
              rw [e.close_of_closed ho] at hstop
              cases hstopped.symm.trans hstop
          | false =>
              exact hnumber ▸ mem_ready_close ho hstopped ht hj
      | tick =>
          have hside := congrArg TaskSide.cleanerStopped (e.taskSide_tick 0)
          cases hstopped.symm.trans (hside.symm.trans hstop)
      | _ =>
          have hside := taskSide_step h.running h.spawned h.free hclient rfl (by simp)
          cases hstopped.symm.trans ((congrArg TaskSide.cleanerStopped hside).symm.trans hstop)

/-- Between turns the cleaner stays tended, and no pass is made. -/
theorem Tended.between (h : Tended config owed tardy e) (hev : ev.isCache = true)
    (hturn : ev.isTurn = false) (htick : ev.isTick = false) :
    Tended config (owing owed e ev) tardy (e.step ev) ∧ Unswept ev e (e.step ev) := by
  have hclient := isClient_of_isCache hev
  have hkeeps := keeps_step h.running h.spawned h.free hclient hturn htick
  have hqueues : 0 ∈ e.ready → 0 ∈ (e.step ev).ready :=
    (acts_step h.recorded h.running hclient hturn).queues
  have howing : owing owed e ev = owed := by
    cases ev with
    | turn => cases hturn
    | tick => cases htick
    | _ => rfl
  have hpasses : (e.step ev).passes 0 = e.passes 0 :=
    passes_of_notes rfl (by rw [hkeeps.ledger])
  refine ⟨h.of_step hev (congrArg LedgerSide.tick hkeeps.ledger) (fun hc => ?_) ?_, hpasses,
    fun heq => nomatch hturn.symm.trans heq⟩
  · exact (hkeeps.closed hc).elim (fun ho => hkeeps.stopped (h.closed ho)) id
  · rw [howing]
    exact h.cleaning.keeps hkeeps hqueues (fun _ => id) (h.woken hclient hturn)

/-- Whoever shuts the cache down or closes its client tells the cleanup to stop, and does nothing
    else to the cache. -/
theorem Tended.told_to_stop (h : Tended config owed tardy e) (hev : ev.shutsCache = true) :
    (e.step ev).cache = e.cache ∧ (e.step ev).cleanerStopped = true ∧
      (e.step ev).passes 0 = e.passes 0 := by
  have hcases : ev = .stopCleaner ∨ ev = .close := by
    cases ev with
    | stopCleaner => exact Or.inl rfl
    | close => exact Or.inr rfl
    | _ => cases hev
  rcases hcases with rfl | rfl
  · have hside := e.taskSide_stopCleaner 0
    exact ⟨congrArg CacheSide.cache e.cacheSide_stopCleaner, congrArg TaskSide.cleanerStopped hside,
      passes_of_notes hside rfl⟩
  · refine ⟨congrArg CacheSide.cache e.cacheSide_close, ?_⟩
    rw [Engine.step]
    cases ho : e.ledger.closed with
    | true =>
        rw [e.close_of_closed ho]
        exact ⟨h.closed ho, rfl⟩
    | false =>
        have hside := taskSide_close ho 0
        exact ⟨congrArg TaskSide.cleanerStopped hside, passes_of_notes hside rfl⟩

/-- The cleanup is told to stop when the cache is shut down or its client closed, and stays so. -/
theorem Tended.stopped_step (h : Tended config owed tardy e) (hev : ev.isCache = true) :
    (e.step ev).cleanerStopped = (e.cleanerStopped || ev.shutsCache) := by
  cases hshuts : ev.shutsCache with
  | true =>
      rw [Bool.or_true]
      exact (h.told_to_stop hshuts).2.1
  | false =>
      rw [Bool.or_false]
      cases ev with
      | turn m => exact (e.turn_common m).2.2.2
      | tick => exact congrArg TaskSide.cleanerStopped (e.taskSide_tick 0)
      | stopCleaner | close => cases hshuts
      | _ =>
          exact congrArg TaskSide.cleanerStopped
            (taskSide_step h.running h.spawned h.free (isClient_of_isCache hev) rfl (by simp))

/-- **WHAT EVERY EVENT KEEPS**, and what it may do to the cache. -/
theorem Tended.step (h : Tended config owed tardy e) (hev : ev.isCache = true)
    (hpaced : ev.isTick = true → owed = []) :
    Tended config (owing owed e ev) tardy (e.step ev) ∧
      (Unswept ev e (e.step ev) ∨ Swept ev e (e.step ev)) := by
  cases hturn : ev.isTurn with
  | true =>
      cases ev with
      | turn m => exact h.turn m
      | _ => cases hturn
  | false =>
      cases htick : ev.isTick with
      | false => exact (h.between hev hturn htick).imp id Or.inl
      | true =>
          cases ev with
          | tick =>
              cases hpaced rfl
              exact h.ticks.imp id Or.inl
          | _ => cases htick

/-! ## Runs -/

/-- The cleaner stays tended in every run of a cache whose clocks wait for those who are owed a
    turn. -/
theorem Tended.steps (h : Tended config owed tardy e) (hc : OfCache events)
    (hp : Paced owed e events) :
    Tended config (owingAfter owed e events) tardy (e.steps events) := by
  induction events generalizing owed e with
  | nil => exact h
  | cons ev rest ih =>
      obtain ⟨hev, hrest⟩ := List.forall_mem_cons.mp hc
      exact ih (h.step hev hp.1).1 hrest hp.2

/-- The cleaner has been told to stop exactly if someone has shut the cache down. -/
theorem Tended.stopped (h : Tended config owed tardy e) (hc : OfCache events)
    (hp : Paced owed e events) :
    (e.steps events).cleanerStopped = (e.cleanerStopped || events.any EngineEvent.shutsCache) := by
  induction events generalizing owed e with
  | nil => exact (Bool.or_false _).symm
  | cons ev rest ih =>
      obtain ⟨hev, hrest⟩ := List.forall_mem_cons.mp hc
      rw [List.any_cons, ← Bool.or_assoc, ← h.stopped_step hev]
      exact ih (h.step hev hp.1).1 hrest hp.2

/-! ## On schedule -/

/-- **PASSES COME A PERIOD APART** from the first turn of the cleaner on, if it has had one; and
    while the cache is not shut, none is missing but one whose time has just come, and for which the
    cleaner is in the queue. -/
def Scheduled (period : Nat) (shut : Bool) (e : Engine α) : Prop :=
  (e.begunAt? 0 = none ∧ e.passes 0 = []) ∨
  ∃ start count, (e.ledger.side 0).Kept start period count ∧
    (shut = false → e.ledger.elapsed < start + (count + 1) * period ∨
      e.ledger.elapsed = start + (count + 1) * period ∧ 0 ∈ e.ready)

/-- **THE PASSES ARE ALL THERE**: the cleaner has had its first turn, and while the cache is not
    shut, none is missing. -/
def OnTime (period : Nat) (shut : Bool) (e : Engine α) : Prop :=
  ∃ start count, (e.ledger.side 0).Kept start period count ∧
    (shut = false → e.ledger.elapsed < start + (count + 1) * period)

/-- The passes of a cleaner that is tended keep its schedule. -/
theorem Tended.scheduled (h : Tended config owed tardy e) :
    Scheduled config.cleanup.nanos e.cleanerStopped e := by
  have htick : 0 < (e.taskSide 0).ledger.tick := h.tick_pos
  refine (h.cleaning.schedule htick).imp (fun hfresh => ⟨hfresh.1, hfresh.2.1⟩) ?_
  rintro ⟨start, count, hkept, hnext⟩
  exact ⟨start, count, hkept, fun hrunning => (hnext hrunning).imp id fun hdue =>
    ⟨hdue.1, hdue.2.1⟩⟩

/-- No pass has been made at a time to come. -/
theorem Scheduled.past {period : Nat} {shut : Bool} (h : Scheduled period shut e) :
    ∀ pass ∈ e.passes 0, pass.time ≤ e.ledger.elapsed := by
  intro pass hpass
  rcases h with ⟨-, hnone⟩ | ⟨start, count, hkept, -⟩
  · rw [hnone] at hpass
    cases hpass
  · have hbeat : pass.time ∈ beats start period count :=
      hkept.times ▸ List.mem_map_of_mem (f := Note.time) hpass
    obtain ⟨i, hi, hpasstime⟩ := List.mem_map.mp hbeat
    have hle : (i + 1) * period ≤ count * period :=
      Nat.mul_le_mul_right period (List.mem_range.mp hi)
    have hpast : start + count * period ≤ e.ledger.elapsed := hkept.past
    omega

/-- Where nobody is to have a turn, nothing is missing. -/
theorem Tended.onTime (h : Tended config [] false e) :
    OnTime config.cleanup.nanos e.cleanerStopped e := by
  have htick : 0 < (e.taskSide 0).ledger.tick := h.tick_pos
  rcases h.cleaning.schedule htick with ⟨-, -, hsoon⟩ | ⟨start, count, hkept, hnext⟩
  · cases hsoon rfl
  · refine ⟨start, count, hkept, fun hrunning => (hnext hrunning).resolve_right ?_⟩
    rintro ⟨-, -, hmem⟩
    cases hmem

/-- All who are in the queue may be those who are to have a turn. -/
theorem Tended.hurried (h : Tended config owed tardy e) :
    Tended config e.ready false e := by
  refine { h with cleaning := ?_ }
  cases h.cleaning with
  | fresh tasks alarms notes queued => exact .fresh tasks alarms notes queued fun _ => queued
  | asleep kept tasks alarms hdue hleft woken =>
      exact .asleep kept tasks alarms hdue hleft woken
  | due kept tasks alarms hdue now queued =>
      exact .due kept tasks alarms hdue now queued queued
  | gone kept tasks alarms stopped => exact .gone kept tasks alarms stopped

/-! ## When the cleanup is told to stop -/

/-- Nothing happens in the turn of a task that has ended. -/
theorem turn_of_ended {n : Nat} (hended : ¬ e.Lives n) : (e.turn n).taskSide n = e.taskSide n := by
  have hnone : e.task? n = none := List.find?_eq_none.mpr fun t ht hnumber =>
    hended ⟨t, ht, beq_iff_eq.mp hnumber⟩
  rw [turn, hnone]
  split <;> rfl

/-- Only a tick moves the clocks. -/
theorem Tended.elapsed_step (h : Tended config owed tardy e) (hev : ev.isCache = true)
    (htick : ev ≠ .tick) : (e.step ev).ledger.elapsed = e.ledger.elapsed := by
  cases hturn : ev.isTurn with
  | true =>
      cases ev with
      | turn m => exact (e.turn_common m).1
      | _ => cases hturn
  | false =>
      have hstill : ev.isTick = false := by
        cases ev with
        | tick => exact absurd rfl htick
        | _ => rfl
      have hkeeps := keeps_step h.running h.spawned h.free (isClient_of_isCache hev) hturn hstill
      exact congrArg LedgerSide.elapsed hkeeps.ledger

/-- Whatever is not its own turn leaves the cleaner alone. -/
theorem Tended.others_step (h : Tended config owed tardy e) (hev : ev.isCache = true)
    (hown : ev ≠ .turn 0) : ((e.step ev).taskSide 0).tasks = (e.taskSide 0).tasks ∧
      ((e.step ev).taskSide 0).ledger.notes = (e.taskSide 0).ledger.notes := by
  cases hturn : ev.isTurn with
  | true =>
      cases ev with
      | turn m =>
          rw [Engine.step, e.taskSide_turn fun hm => hown (congrArg _ hm)]
          exact ⟨rfl, rfl⟩
      | _ => cases hturn
  | false =>
      cases htick : ev.isTick with
      | true =>
          cases ev with
          | tick =>
              rw [Engine.step, taskSide_tick]
              exact ⟨rfl, rfl⟩
          | _ => cases htick
      | false =>
          have hkeeps := keeps_step h.running h.spawned h.free (isClient_of_isCache hev) hturn htick
          exact ⟨hkeeps.tasks, by rw [hkeeps.ledger]⟩

/-- A cleaner that has ended does nothing any more. -/
theorem Tended.ended_step (h : Tended config owed tardy e) (hended : ¬ e.Lives 0)
    (hev : ev.isCache = true) :
    ¬ (e.step ev).Lives 0 ∧ (e.step ev).passes 0 = e.passes 0 := by
  rw [not_lives_iff_side] at hended ⊢
  by_cases hown : ev = .turn 0
  · have hside := turn_of_ended (not_lives_iff_side.mpr hended)
    rw [hown]
    exact ⟨(congrArg TaskSide.tasks hside).trans hended, passes_of_notes hside rfl⟩
  · obtain ⟨htasks, hnotes⟩ := h.others_step hev hown
    exact ⟨htasks.trans hended, passes_of_notes rfl hnotes⟩

/-- A cleaner that has ended makes no more passes. -/
theorem Tended.ended_steps (h : Tended config owed tardy e) (hended : ¬ e.Lives 0)
    (hc : OfCache events) (hp : Paced owed e events) :
    ¬ (e.steps events).Lives 0 ∧ (e.steps events).passes 0 = e.passes 0 := by
  induction events generalizing owed e with
  | nil => exact ⟨hended, rfl⟩
  | cons ev rest ih =>
      obtain ⟨hev, hrest⟩ := List.forall_mem_cons.mp hc
      obtain ⟨hnext, hnoted⟩ := h.ended_step hended hev
      obtain ⟨hlast, hpasses⟩ := ih (h.step hev hp.1).1 hnext hrest hp.2
      exact ⟨hlast, hpasses.trans hnoted⟩

/-- A cleaner that is told to stop and is not in the queue has ended. -/
theorem Tended.ended_of_stopped (h : Tended config owed tardy e) (hstopped : e.cleanerStopped = true)
    (hr : 0 ∉ e.ready) : ¬ e.Lives 0 :=
  not_lives_iff_side.mpr (h.cleaning.gone_of_stopped hstopped hr)

/-- A cleaner that is told to stop has ended after its next turn. -/
theorem Tended.ended_of_turn (h : Tended config owed tardy e) (hstopped : e.cleanerStopped = true) :
    ¬ (e.turn 0).Lives 0 := by
  have hstays : (e.turn 0).cleanerStopped = true := (e.turn_common 0).2.2.2.trans hstopped
  by_cases hr : 0 ∈ e.ready
  · -- how far it is after its turn does not depend on who is in the queue then
    obtain ⟨hcleaning, -⟩ := h.own hr [] []
    exact not_lives_iff_side.mpr (hcleaning.gone_of_stopped hstays List.not_mem_nil)
  · rw [turn_of_not_ready hr]
    exact h.ended_of_stopped hstopped hr

/-- A cleaner that has not run yet makes no pass in its first turn. -/
theorem Tended.first (h : Tended config owed tardy e) (hfirst : e.begunAt? 0 = none) :
    (e.turn 0).passes 0 = e.passes 0 := by
  by_cases hr : 0 ∈ e.ready
  · obtain ⟨k, hk⟩ := h.steps_of_period
    have hperiod : e.cache.config.cleanup.nanos = config.cleanup.nanos :=
      congrArg (fun c : CacheConfig => c.cleanup.nanos) h.recorded.config_cache
    have hbegun : ∀ {start count}, (e.taskSide 0).ledger.Kept start config.cleanup.nanos count →
        (e.turn 0).passes 0 = e.passes 0 := fun hkept => nomatch hfirst.symm.trans hkept.began
    cases h.cleaning with
    | fresh tasks alarms notes =>
        have hfirst : Cleaning 0 config.cleanup.nanos [] tardy ((e.turn 0).taskSide 0) [] ∧
            NoPass 0 e (e.turn 0) :=
          cleaning_first h.manned.nodup hr tasks alarms notes hperiod hk h.tick_pos
        exact hfirst.2.noted
    | asleep kept => exact hbegun kept
    | due kept => exact hbegun kept
    | gone kept => exact hbegun kept
  · rw [turn_of_not_ready hr]

/-- **WHAT COMES AFTER A SHUTDOWN**: the cleaner stops in its next turn. -/
structure WindsUp (e : Engine α) (after : List (EngineEvent α)) : Prop where
  /-- At most one pass is made, by chance. -/
  passes : (e.steps after).passes 0 = e.passes 0 ∨ ∃ pass,
    (e.steps after).passes 0 = e.passes 0 ++ [pass] ∧ e.parts.lastPass pass.time = true
  /-- None is made by a cleaner that has not run yet. -/
  first : e.begunAt? 0 = none → (e.steps after).passes 0 = e.passes 0
  /-- None is made when the cleaner has had a turn. -/
  once : ∀ early late, after = early ++ late → .turn 0 ∈ early →
    (e.steps after).passes 0 = (e.steps early).passes 0
  /-- None is made at a later time, if the clocks do not move while the cleaner can run. -/
  prompt : (∀ early late, after = early ++ .tick :: late → 0 ∉ (e.steps early).ready) →
    ∀ pass ∈ (e.steps after).passes 0, pass.time ≤ e.ledger.elapsed

section WindsUp

variable (h : Tended config owed tardy e) (hstopped : e.cleanerStopped = true)

include h hstopped

/-- What has been told to stop stays stopped. -/
theorem Tended.stays_stopped (hev : ev.isCache = true) : (e.step ev).cleanerStopped = true := by
  rw [h.stopped_step hev, hstopped, Bool.true_or]

/-- After a shutdown there is no pass, or the one that was left to chance. -/
theorem Tended.winds_passes (hc : OfCache events) (hp : Paced owed e events) :
    (e.steps events).passes 0 = e.passes 0 ∨ ∃ pass,
      (e.steps events).passes 0 = e.passes 0 ++ [pass] ∧ e.parts.lastPass pass.time = true := by
  induction events generalizing owed e with
  | nil => exact Or.inl rfl
  | cons ev rest ih =>
      obtain ⟨hev, hrest⟩ := List.forall_mem_cons.mp hc
      obtain ⟨hnext, hdoes⟩ := h.step hev hp.1
      rcases hdoes with hnone | ⟨-, removed, hpass⟩
      · have hparts := (grows_step h.running h.manned.nodup (isClient_of_isCache hev)).1
        have hlater := ih hnext (h.stays_stopped hstopped hev) hrest hp.2
        rw [hnone.noted, hparts] at hlater
        exact hlater
      · -- the pass is the last, since the cleaner has ended
        obtain ⟨hchance, hended⟩ := hpass.last hstopped
        have hquiet := (hnext.ended_steps hended hrest hp.2).2
        exact Or.inr ⟨_, hquiet.trans hpass.noted, hchance⟩

/-- A cleaner that has not run makes no pass after a shutdown. -/
theorem Tended.winds_first (hfirst : e.begunAt? 0 = none) (hc : OfCache events)
    (hp : Paced owed e events) : (e.steps events).passes 0 = e.passes 0 := by
  induction events generalizing owed e with
  | nil => rfl
  | cons ev rest ih =>
      obtain ⟨hev, hrest⟩ := List.forall_mem_cons.mp hc
      have hnext := (h.step hev hp.1).1
      by_cases hown : ev = .turn 0
      · subst hown
        have hquiet := (hnext.ended_steps (h.ended_of_turn hstopped) hrest hp.2).2
        exact hquiet.trans (h.first hfirst)
      · obtain ⟨-, hnotes⟩ := h.others_step hev hown
        have hunbegun : (e.step ev).begunAt? 0 = none :=
          (congrArg (fun notes => (notes.find? (·.what == .began)).map Note.time) hnotes).trans
            hfirst
        exact (ih hnext (h.stays_stopped hstopped hev) hunbegun hrest hp.2).trans
          (passes_of_notes rfl hnotes)

/-- The turn of the cleaner after a shutdown is its last. -/
theorem Tended.winds_once {early late : List (EngineEvent α)} (hturn : .turn 0 ∈ early)
    (hc : OfCache (early ++ late)) (hp : Paced owed e (early ++ late)) :
    (e.steps (early ++ late)).passes 0 = (e.steps early).passes 0 := by
  obtain ⟨before, after, rfl⟩ := List.append_of_mem hturn
  obtain ⟨hce, hcl⟩ := List.forall_mem_append.mp hc
  obtain ⟨hcb, hca⟩ := List.forall_mem_append.mp hce
  obtain ⟨hpe, hpl⟩ := paced_append.mp hp
  obtain ⟨hpb, -, hpa⟩ := paced_append.mp hpe
  have hbefore := h.steps hcb hpb
  have htold : (e.steps before).cleanerStopped = true := by
    rw [h.stopped hcb hpb, hstopped, Bool.true_or]
  have hended : ¬ (e.steps (before ++ .turn 0 :: after)).Lives 0 := by
    rw [steps_append]
    exact ((hbefore.turn 0).1.ended_steps (hbefore.ended_of_turn htold)
      (List.forall_mem_cons.mp hca).2 hpa).1
  rw [steps_append _ _ late]
  exact ((h.steps hce hpe).ended_steps hended hcl hpl).2

/-- Where the clocks wait for the cleaner, no pass after a shutdown is later than it. -/
theorem Tended.winds_prompt {t : Nat} (ht : e.ledger.elapsed ≤ t)
    (hpast : ∀ pass ∈ e.passes 0, pass.time ≤ t) (hc : OfCache events) (hp : Paced owed e events)
    (hprompt : ∀ early late, events = early ++ .tick :: late → 0 ∉ (e.steps early).ready) :
    ∀ pass ∈ (e.steps events).passes 0, pass.time ≤ t := by
  induction events generalizing owed e with
  | nil => exact hpast
  | cons ev rest ih =>
      obtain ⟨hev, hrest⟩ := List.forall_mem_cons.mp hc
      obtain ⟨hnext, hdoes⟩ := h.step hev hp.1
      by_cases htick : ev = .tick
      · -- the cleaner has ended before the clocks move
        subst htick
        have hended := h.ended_of_stopped hstopped (hprompt [] rest rfl)
        rw [(h.ended_steps hended hc hp).2]
        exact hpast
      · have hsoon : (e.step ev).ledger.elapsed ≤ t := by
          rw [h.elapsed_step hev htick]
          exact ht
        refine ih hnext (h.stays_stopped hstopped hev) hsoon ?_ hrest hp.2 fun early late heq => ?_
        · rcases hdoes with hnone | ⟨-, removed, hpass⟩
          · rw [hnone.noted]
            exact hpast
          · rw [hpass.noted]
            exact List.forall_mem_append.mpr ⟨hpast, List.forall_mem_singleton.mpr ht⟩
        · exact hprompt (ev :: early) late (congrArg (ev :: ·) heq)

end WindsUp

/-! ## The schedule -/

/-- When the clocks have moved and tasks have taken turns, the passes are all there. -/
theorem Tended.advance (h : Tended config owed tardy e) (k : Nat) :
    OnTime config.cleanup.nanos e.cleanerStopped (e.advance k) := by
  -- all who are in the queue have their turn before the clocks move, the cleaner too if it is new
  obtain ⟨events, hadvances⟩ := advances_advance h.manned (fun n (hn : n ∈ e.ready) => hn) k
  have hc : OfCache events := by
    intro ev hev
    cases ev with
    | turn | tick => rfl
    | _ => rcases hadvances.plain _ hev with hturn | htick <;> contradiction
  have hnone : events.any EngineEvent.shutsCache = false := by
    refine List.any_eq_false.mpr fun ev hev hshuts => ?_
    cases ev with
    | stopCleaner | close => rcases hadvances.plain _ hev with hturn | htick <;> contradiction
    | _ => cases hshuts
  have hstopped := h.hurried.stopped hc hadvances.paced
  have hlater := h.hurried.steps hc hadvances.paced
  rw [hnone, Bool.or_false, ← hadvances.run] at hstopped
  rw [hadvances.done, ← hadvances.run] at hlater
  rw [← hstopped]
  exact hlater.onTime

/-- The engine of a cache alone is one that has just been made. -/
theorem opened_ofCache {parts : Parts} {loader : Request → Program (Outcome Response)} {epoch : Int}
    {e : Engine Response} (h : ofCache config parts loader epoch = .ok e) : Opened config e := by
  rw [ofCache] at h
  cases hv : config.validate with
  | error cause =>
      rw [hv] at h
      cases h
  | ok _ =>
      rw [hv] at h
      cases h
      exact .alone hv

/-- A cache whose values expire after a millisecond and which is cleaned up every two. -/
def brisk : CacheConfig :=
  { CacheConfig.default with expireMillis := 1, recordStats := true, cleanupMillis := 2 }

/-- The engine of that cache. -/
def briskEngine : Engine Response :=
  (new Retry.wavering (fun request => dispatch request .response) id (.start 0 0)
    brisk).startCleaner

/-- A load is over at once, and its value expires; after two passes the cache is shut down, when the
    clocks have moved once more. -/
def briskly : List (EngineEvent Response) :=
  [.turn 0, .lookup default, .turn 1, .tick, .tick, .turn 0, .tick, .tick, .turn 0, .tick,
    .stopCleaner, .turn 0, .tick, .tick]

/-- Where the clocks move before the cleaner has had a turn, there may be a last pass. -/
example : ((briskEngine.steps [.turn 0, .tick, .stopCleaner, .tick, .turn 0, .tick, .tick,
    .turn 0]).passes 0).map Note.time = [2000000] := by
  decide +kernel

end Engine

end Courier
