import Courier.Proofs.Engine.Drivers
import Courier.Proofs.Engine.Jottings
import Courier.Proofs.Engine.TaskSide

/-!
# The cleaner — the turns of the task that cleans up

The task that cleans the cache up does one of four things in a turn.  The first time it only looks
at the clock, and sleeps for a period.  When its time has come it makes a pass, and sleeps up to the
next time, which is a period after this one, however late it is.  Where it is woken before its time,
it does nothing; and where it is told to stop, it ends.  Only a pass concerns the cache, and a pass
is noted (`cleans_turn`).
-/

namespace Courier

variable {α : Type}

/-! ## What a pass does -/

/-- **A CLEANUP HAS BEEN MADE** that removed so many entries: no entry is left whose value has
    expired and which no refresh runs for, the others are as they were, and what was removed is
    counted if the cache counts. -/
structure Cache.Purged (now : Nat) (c c' : Cache) (removed : Nat) : Prop where
  clean : ∀ x ∈ c'.entries, ¬ (x.2.isExpired now c.config.expire = true ∧ x.2.refresh = none)
  kept : c'.entries
    = c.entries.filter fun x => !(x.2.isExpired now c.config.expire && x.2.refresh.isNone)
  size : c'.size + removed = c.size
  evictions : c'.stats = if c.config.recordStats then
    { c.stats with evictions := c.stats.evictions + removed } else c.stats
  config : c'.config = c.config

theorem Cache.purged_purge (now : Nat) (c : Cache) :
    Purged now c (c.purge now).1 (c.purge now).2 := by
  have hentries : (c.purge now).1.entries = c.entries.filter fun x => !c.isStale now x.2 := by
    rw [purge]
    exact (apply_ite Cache.entries _ _ _).trans (ite_self _)
  refine ⟨fun x hx => ?_, hentries, ?_, ?_, ?_⟩
  · rw [hentries] at hx
    have hlasts := (List.mem_filter.mp hx).2
    rintro ⟨hexpired, hrefresh⟩
    rw [isStale, hexpired, hrefresh] at hlasts
    cases hlasts
  · rw [size, size, hentries, Nat.add_comm]
    exact (List.length_eq_length_filter_add _).symm
  · rw [purge, countEvictions, count]
    split <;> rfl
  · rw [purge, countEvictions, count]
    split <;> rfl

/-! ## What is noted of the cleanup -/

/-- Whether it is told that the cleanup made a pass. -/
def Happening.isPass : Happening → Bool
  | .told (.cleanupPass _ _) => true
  | _ => false

namespace LedgerSide

/-- The passes that were noted of a task, in order. -/
def passes (s : LedgerSide) : List Note :=
  (s.notes.filter (·.what.isPass)).reverse

/-- When a task ran for the first time, if it has. -/
def begunAt? (s : LedgerSide) : Option Nat :=
  (s.notes.find? (·.what == .began)).map Note.time

/-- Something else was noted of the task. -/
structure Chats (s s' : LedgerSide) : Prop where
  elapsed : s'.elapsed = s.elapsed
  tick : s'.tick = s.tick
  closed : s'.closed = s.closed
  passes : s'.passes = s.passes
  begunAt? : s'.begunAt? = s.begunAt?

theorem Chats.refl (s : LedgerSide) : Chats s s :=
  ⟨rfl, rfl, rfl, rfl, rfl⟩

theorem Chats.trans {s s' s'' : LedgerSide} (h : Chats s s') (h' : Chats s' s'') : Chats s s'' :=
  ⟨h'.elapsed.trans h.elapsed, h'.tick.trans h.tick, h'.closed.trans h.closed,
    h'.passes.trans h.passes, h'.begunAt?.trans h.begunAt?⟩

variable {s : LedgerSide} {n : Nat}

theorem chats_note {what : Happening} (hpass : what.isPass = false) (hbegan : what ≠ .began) :
    Chats s (s.note n what) := by
  refine ⟨rfl, rfl, rfl, ?_, ?_⟩
  · rw [passes, passes, note, List.filter_cons_of_neg (by simp [hpass])]
  · rw [begunAt?, begunAt?, note, List.find?_cons_of_neg (by simp [hbegan])]

/-- A pass comes after those before it. -/
theorem passes_note {what : Happening} (h : what.isPass = true) :
    (s.note n what).passes = s.passes ++ [⟨s.elapsed, some n, what⟩] := by
  rw [passes, passes, note, List.filter_cons_of_pos (by exact h), List.reverse_cons]

end LedgerSide

namespace Engine

/-- What a task that cleans up does in its turn, for the next time at `due`. -/
inductive Cleans (n : Nat) (due : Option Nat) (e e' : Engine α) : Prop where
  /-- It is told to stop, and ends. -/
  | stops {l : LedgerSide} (stopped : e.cleanerStopped = true) (cache : e'.cache = e.cache)
      (side : e'.taskSide n = ⟨[], [], l, true⟩) (noted : (e.taskSide n).ledger.Chats l)
  /-- It is told to stop when its time has come, makes a pass by chance, and ends. -/
  | passesLast {d removed : Nat} {l l' : LedgerSide} (stopped : e.cleanerStopped = true)
      (hdue : due = some d) (late : d ≤ e.ledger.elapsed) (chance : e.parts.lastPass d = true)
      (purged : e.cache.Purged e.ledger.elapsed e'.cache removed)
      (side : e'.taskSide n = ⟨[], [], l', true⟩) (noted : (e.taskSide n).ledger.Chats l)
      (last : (l.note n (.told (.cleanupPass removed e'.cache.size))).Chats l')
  /-- It looks at the clock, and waits for a period. -/
  | starts {next : Nat} (running : e.cleanerStopped = false) (hdue : due = none)
      (cache : e'.cache = e.cache) (hnext : next = e.ledger.elapsed + e.cache.config.cleanup.nanos)
      (side : e'.taskSide n = (e.taskSide n).await n next)
  /-- Its time has not come. -/
  | waits {d : Nat} (running : e.cleanerStopped = false) (hdue : due = some d)
      (early : e.ledger.elapsed < d) (same : e' = e)
  /-- It makes a pass, and waits for the next time.  It does so by chance where it is told to stop,
      if the next time has come as well. -/
  | passes {d next removed : Nat} (hdue : due = some d) (late : d ≤ e.ledger.elapsed)
      (hnext : next = d + e.cache.config.cleanup.nanos)
      (running : e.cleanerStopped = false ∨ next ≤ e.ledger.elapsed)
      (purged : e.cache.Purged e.ledger.elapsed e'.cache removed)
      (side : e'.taskSide n
        = ((e.taskSide n).note n (.told (.cleanupPass removed e'.cache.size))).await n next)

section Cleans

variable (e : Engine α) (n : Nat)

/-- That a call is cut off is no pass. -/
theorem chats_cut (l : Ledger) : (l.side n).Chats ((l.cut n).side n) := by
  rw [Ledger.cut]
  split
  · exact .refl _
  · rw [side_mark_self]
    exact LedgerSide.chats_note (s := l.side n) rfl (by simp)

/-- A task that is told to stop says so when it has ended. -/
theorem chats_stopped (s : LedgerSide) : s.Chats (s.note n (.told .cleanupStopped)) :=
  LedgerSide.chats_note rfl (by simp)

theorem cache_retire : (e.retire n).cache = e.cache :=
  congrArg CacheSide.cache (e.cacheSide_retire n)

theorem cache_await (due : Nat) : (e.await n due).cache = e.cache :=
  congrArg CacheSide.cache (e.cacheSide_await n due)

/-- A task that is told to stop before its time, or by chance has no last pass, ends. -/
theorem cleans_stop {due : Option Nat} (hstopped : e.cleanerStopped = true) :
    Cleans n due e ((e.retire n).tell (some n) .cleanupStopped) := by
  refine .stops hstopped (e.cache_retire n)
    (l := ((e.ledger.cut n).side n).note n (.told .cleanupStopped)) ?_
    ((chats_cut n e.ledger).trans (chats_stopped n _))
  rw [tell, taskSide_mark_self, taskSide_retire_self, hstopped]
  rfl

/-- A task that is told to stop when its time has come may make a pass before it ends. -/
theorem cleans_lastPass {d : Nat} (hstopped : e.cleanerStopped = true) (hlate : d ≤ e.ledger.elapsed)
    (hchance : e.parts.lastPass d = true) :
    Cleans n (some d) e (((e.retire n).pass n).tell (some n) .cleanupStopped) := by
  have hside := e.taskSide_retire_self n
  have hpurged : e.cache.Purged e.ledger.elapsed ((e.retire n).pass n).cache
      ((e.retire n).cache.purge (e.retire n).ledger.elapsed).2 := by
    have helapsed : (e.retire n).ledger.elapsed = e.ledger.elapsed :=
      (congrArg (·.ledger.elapsed) hside).trans (chats_cut n e.ledger).elapsed
    rw [← e.cache_retire n, ← helapsed]
    exact (e.retire n).cache.purged_purge _
  refine .passesLast hstopped rfl hlate hchance hpurged (l := (e.ledger.cut n).side n) ?_
    (chats_cut n e.ledger) (chats_stopped n _)
  rw [tell, taskSide_mark_self, taskSide_pass_self, hside, hstopped]
  rfl

/-- A task whose time has come makes a pass, and goes on. -/
theorem cleans_pass {d : Nat} (hlate : d ≤ e.ledger.elapsed)
    (hrunning : e.cleanerStopped = false ∨ d + e.cache.config.cleanup.nanos ≤ e.ledger.elapsed) :
    Cleans n (some d) e ((e.pass n).await n (d + e.cache.config.cleanup.nanos)) := by
  have hcache : ((e.pass n).await n (d + e.cache.config.cleanup.nanos)).cache
      = (e.cache.purge e.ledger.elapsed).1 := (e.pass n).cache_await n _
  refine .passes rfl hlate rfl hrunning (by rw [hcache]; exact e.cache.purged_purge _) ?_
  rw [taskSide_await_self, taskSide_pass_self, hcache]

theorem cleans_clean (due : Option Nat) : Cleans n due e (e.clean n due) := by
  rw [clean.eq_def]
  dsimp only
  cases hstopped : e.cleanerStopped with
  | false =>
      cases due with
      | none =>
          have hstarts : Cleans n none e
              (e.await n (e.ledger.elapsed + e.cache.config.cleanup.nanos)) :=
            .starts hstopped rfl (e.cache_await n _) rfl (e.taskSide_await_self n _)
          simpa using hstarts
      | some d =>
          by_cases hlate : d ≤ e.ledger.elapsed
          · simpa [hlate] using e.cleans_pass n hlate (Or.inl hstopped)
          · have hwaits : Cleans n (some d) e e :=
              .waits hstopped rfl (Nat.lt_of_not_le hlate) rfl
            simpa [hlate] using hwaits
  | true =>
      cases due with
      | none => simpa using e.cleans_stop n hstopped
      | some d =>
          by_cases hlate : d ≤ e.ledger.elapsed
          · cases hchance : e.parts.lastPass d with
            | false => simpa [hchance] using e.cleans_stop n hstopped
            | true =>
                by_cases hnext : d + e.cache.config.cleanup.nanos ≤ e.ledger.elapsed
                · simpa [hlate, hchance, hnext] using e.cleans_pass n hlate (Or.inr hnext)
                · simpa [hlate, hchance, hnext] using e.cleans_lastPass n hstopped hlate hchance
          · simpa [hlate] using e.cleans_stop n hstopped

end Cleans

section Own

variable {e : Engine α} {t : Task α} {n : Nat} {due : Option Nat}

/-- A task that runs for the first time notes that it does. -/
theorem taskSide_begin_self (ht : t.number = n) : (e.begin t).taskSide n
    = if t.begun then e.taskSide n
      else ((e.taskSide n).adjust fun t => { t with begun := true }).note n .began := by
  subst ht
  rw [begin]
  split
  · rfl
  · rw [taskSide_mark_self]
    exact congrArg (fun s : TaskSide α => s.note t.number .began)
      (e.taskSide_adjust_self t.number fun _ => rfl)

theorem begin_same (e : Engine α) (t : Task α) :
    (e.begin t).cache = e.cache ∧ (e.begin t).ledger.elapsed = e.ledger.elapsed := by
  rw [begin]
  split <;> exact ⟨rfl, rfl⟩

/-- **THE TURN OF A TASK THAT CLEANS UP.** -/
theorem cleans_turn (hn : (e.tasks.map Task.number).Nodup) (hr : n ∈ e.ready) {begun : Bool}
    (hs : (e.taskSide n).tasks = [⟨n, .clean due, begun, false⟩]) :
    Cleans n due (begin (e.called n) ⟨n, .clean due, begun, false⟩) (e.turn n) := by
  have ht : (⟨n, .clean due, begun, false⟩ : Task α) ∈ e.tasks :=
    (List.mem_filter.mp (hs ▸ List.mem_singleton_self _)).1
  have hturn : e.turn n = poll (e.called n) ⟨n, .clean due, begun, false⟩ := turn_eq_poll hn ht hr
  rw [hturn, poll, if_neg Bool.false_ne_true]
  exact cleans_clean _ n due

end Own

end Engine

/-! ## How far the cleanup is -/

/-- The first so many times after a start that are a period apart. -/
def beats (start period count : Nat) : List Nat :=
  (List.range count).map fun i => start + (i + 1) * period

theorem beats_succ (start period count : Nat) :
    beats start period (count + 1)
      = beats start period count ++ [start + (count + 1) * period] := by
  rw [beats, beats, List.range_succ, List.map_append]
  rfl

/-- A task has run for the first time at some time, and has made so many passes since then, a period
    apart. -/
structure LedgerSide.Kept (s : LedgerSide) (start period count : Nat) : Prop where
  began : s.begunAt? = some start
  times : s.passes.map Note.time = beats start period count
  past : start + count * period ≤ s.elapsed

theorem LedgerSide.Kept.chats {s s' : LedgerSide} {start period count : Nat}
    (h : s.Kept start period count) (hc : s.Chats s') : s'.Kept start period count :=
  ⟨hc.begunAt?.trans h.began, hc.passes.symm ▸ h.times, hc.elapsed.symm ▸ h.past⟩

/-- **HOW FAR THE CLEANUP IS**, where some of those in the queue are to have their turn before the
    clocks move.  Where the task may be tardy, the clocks need not wait for its first turn. -/
inductive Cleaning (n period : Nat) (owed : List Nat) (tardy : Bool) (s : TaskSide α)
    (ready : List Nat) : Prop where
  /-- It has not run yet. -/
  | fresh (tasks : s.tasks = [⟨n, .clean none, false, false⟩]) (alarms : s.alarms = [])
      (notes : s.ledger.notes = []) (queued : n ∈ ready) (soon : tardy = false → n ∈ owed)
  /-- It sleeps, or has been woken to stop. -/
  | asleep {start count due left : Nat} (kept : s.ledger.Kept start period count)
      (tasks : s.tasks = [⟨n, .clean (some due), true, false⟩]) (alarms : s.alarms = [(due, n)])
      (hdue : due = start + (count + 1) * period)
      (hleft : due = s.ledger.elapsed + (left + 1) * s.ledger.tick)
      (woken : s.cleanerStopped = true → n ∈ ready)
  /-- Its time has come. -/
  | due {start count due : Nat} (kept : s.ledger.Kept start period count)
      (tasks : s.tasks = [⟨n, .clean (some due), true, false⟩]) (alarms : s.alarms = [])
      (hdue : due = start + (count + 1) * period) (now : due = s.ledger.elapsed)
      (queued : n ∈ ready) (soon : n ∈ owed)
  /-- It has ended. -/
  | gone {start count : Nat} (kept : s.ledger.Kept start period count) (tasks : s.tasks = [])
      (alarms : s.alarms = []) (stopped : s.cleanerStopped = true)

namespace Cleaning

variable {n period : Nat} {tardy : Bool} {s s' : TaskSide α} {owed owed' ready ready' : List Nat}

/-- What leaves the task alone, and leaves it in the queue, leaves the cleanup where it is, if the
    task is woken when it is told to stop. -/
theorem keeps (h : Cleaning n period owed tardy s ready) (hk : s.Keeps s')
    (hready : n ∈ ready → n ∈ ready') (howed : n ∈ ready → n ∈ owed → n ∈ owed')
    (hstop : s.tasks ≠ [] → s'.cleanerStopped = true → s.cleanerStopped = true ∨ n ∈ ready') :
    Cleaning n period owed' tardy s' ready' := by
  obtain ⟨htasks, halarms, hledger, hstopped, -⟩ := hk
  have hkept : ∀ {start count}, s.ledger.Kept start period count →
      s'.ledger.Kept start period count := by
    intro start count hk
    rw [hledger]
    exact ⟨hk.began, hk.times, hk.past⟩
  have helapsed : s'.ledger.elapsed = s.ledger.elapsed := by rw [hledger]
  have htick : s'.ledger.tick = s.ledger.tick := by rw [hledger]
  cases h with
  | fresh tasks alarms notes queued soon =>
      refine .fresh (htasks.trans tasks) (halarms.trans alarms) ?_ (hready queued)
        fun htardy => howed queued (soon htardy)
      rw [hledger]
      exact notes
  | asleep kept tasks alarms hdue hleft woken =>
      exact .asleep (hkept kept) (htasks.trans tasks) (halarms.trans alarms) hdue
        (by rw [helapsed, htick]; exact hleft) fun hs' =>
          (hstop (by rw [tasks]; exact List.cons_ne_nil _ _) hs').elim (hready ∘ woken) id
  | due kept tasks alarms hdue now queued soon =>
      exact .due (hkept kept) (htasks.trans tasks) (halarms.trans alarms) hdue
        (now.trans helapsed.symm) (hready queued) (howed queued soon)
  | gone kept tasks alarms stopped =>
      exact .gone (hkept kept) (htasks.trans tasks) (halarms.trans alarms) (hstopped stopped)

/-- **THE SCHEDULE.**  There are no passes before the task runs for the first time, and after that
    they come a period apart; while nobody has told it to stop, none is missing but one for which
    its time has just come. -/
theorem schedule (h : Cleaning n period owed tardy s ready) (htick : 0 < s.ledger.tick) :
    (s.ledger.begunAt? = none ∧ s.ledger.passes = [] ∧ (tardy = false → n ∈ owed)) ∨
    ∃ start count, s.ledger.Kept start period count ∧
      (s.cleanerStopped = false → s.ledger.elapsed < start + (count + 1) * period ∨
        s.ledger.elapsed = start + (count + 1) * period ∧ n ∈ ready ∧ n ∈ owed) := by
  cases h with
  | fresh tasks alarms notes queued soon =>
      refine Or.inl ?_
      rw [LedgerSide.begunAt?, LedgerSide.passes, notes]
      exact ⟨rfl, rfl, soon⟩
  | @asleep start count due left kept tasks alarms hdue hleft =>
      have hpos : 0 < (left + 1) * s.ledger.tick := Nat.mul_pos (Nat.succ_pos left) htick
      exact Or.inr ⟨start, count, kept, fun _ => Or.inl (by omega)⟩
  | @due start count due kept tasks alarms hdue now queued soon =>
      exact Or.inr ⟨start, count, kept, fun _ => Or.inr ⟨by omega, queued, soon⟩⟩
  | @gone start count kept tasks alarms stopped =>
      exact Or.inr ⟨start, count, kept, fun hrunning => nomatch stopped.symm.trans hrunning⟩

/-- A task that was told to stop and is not in the queue has ended. -/
theorem gone_of_stopped (h : Cleaning n period owed tardy s ready) (hs : s.cleanerStopped = true)
    (hr : n ∉ ready) : s.tasks = [] := by
  cases h with
  | fresh tasks alarms notes queued => exact absurd queued hr
  | asleep kept tasks alarms hdue hleft woken => exact absurd (woken hs) hr
  | due kept tasks alarms hdue now queued => exact absurd queued hr
  | gone kept tasks => exact tasks

/-- The clocks move, when all who were to have their turn have had it. -/
theorem tick {now : Nat} (h : Cleaning n period [] tardy s ready)
    (hnow : now = s.ledger.elapsed + s.ledger.tick) (htick : 0 < s.ledger.tick)
    (hready : n ∈ ready → n ∈ ready') (hwoken : ∀ due ∈ s.alarms, due.1 ≤ now → n ∈ ready') :
    Cleaning n period ready' tardy
      { s with
        alarms := s.alarms.filter fun t => now < t.1
        ledger := { s.ledger with elapsed := now } } ready' := by
  have hkept : ∀ {start count}, s.ledger.Kept start period count →
      LedgerSide.Kept { s.ledger with elapsed := now } start period count :=
    fun hk => ⟨hk.began, hk.times, by have hpast := hk.past; dsimp only; omega⟩
  cases h with
  | fresh tasks alarms notes queued soon =>
      exact .fresh tasks (by dsimp only; rw [alarms]; rfl) notes (hready queued)
        fun _ => hready queued
  | @asleep start count due left kept tasks alarms hdue hleft woken =>
      -- after the last step that was left its time has come, and it has been woken
      cases left with
      | zero =>
          have hcome : due = now := by omega
          have hqueued : n ∈ ready' :=
            hwoken (due, n) (alarms ▸ List.mem_singleton_self _) (Nat.le_of_eq hcome)
          refine .due (hkept kept) tasks ?_ hdue hcome hqueued hqueued
          dsimp only
          rw [alarms, List.filter_cons_of_neg (by simp [hcome])]
          rfl
      | succ left =>
          have hstep : (left + 1 + 1) * s.ledger.tick
              = (left + 1) * s.ledger.tick + s.ledger.tick := Nat.succ_mul _ _
          have hpos : 0 < (left + 1) * s.ledger.tick := Nat.mul_pos (Nat.succ_pos left) htick
          have halarms : s.alarms.filter (fun t => now < t.1) = [(due, n)] := by
            rw [alarms, List.filter_cons_of_pos (by simp; omega)]
            rfl
          have hleft' : due = now + (left + 1) * s.ledger.tick := by omega
          exact .asleep (hkept kept) tasks halarms hdue hleft' (hready ∘ woken)
  | due kept tasks alarms hdue hnow queued soon =>
      -- it would still have been to have its turn
      cases soon
  | gone kept tasks alarms stopped =>
      exact .gone (hkept kept) tasks (by dsimp only; rw [alarms]; rfl) stopped

end Cleaning

namespace Engine

/-- The passes that were noted of a task, in order. -/
def passes (e : Engine α) (n : Nat) : List Note :=
  (e.ledger.side n).passes

/-- When a task ran for the first time, if it has. -/
def begunAt? (e : Engine α) (n : Nat) : Option Nat :=
  (e.ledger.side n).begunAt?

/-- **A TASK MAKES A PASS** between two engines: it notes the pass, and the cache has been cleaned
    up. -/
structure Pass (n : Nat) (e e' : Engine α) (removed : Nat) : Prop where
  noted : e'.passes n
    = e.passes n ++ [⟨e.ledger.elapsed, some n, .told (.cleanupPass removed e'.cache.size)⟩]
  purged : e.cache.Purged e.ledger.elapsed e'.cache removed
  /-- Whoever was told to stop makes a pass by chance, and has ended then. -/
  last : e.cleanerStopped = true → e.parts.lastPass e.ledger.elapsed = true ∧ ¬ e'.Lives n

/-- A task does something else, and leaves the cache alone. -/
structure NoPass (n : Nat) (e e' : Engine α) : Prop where
  noted : e'.passes n = e.passes n
  cache : e'.cache = e.cache

section Own

variable {e : Engine α} {n period k : Nat} {tardy tardy' : Bool} {owed owed' ready' : List Nat}

/-- A task that ends has made its last pass. -/
theorem gone_of_stops {x e' : Engine α} {l : LedgerSide} {start count : Nat}
    (hkept : (x.taskSide n).ledger.Kept start period count)
    (side : e'.taskSide n = ⟨[], [], l, true⟩) (noted : (x.taskSide n).ledger.Chats l) :
    Cleaning n period owed' tardy' (e'.taskSide n) ready' ∧ e'.passes n = x.passes n := by
  have hledger : (e'.taskSide n).ledger = l := congrArg TaskSide.ledger side
  refine ⟨?_, (congrArg LedgerSide.passes hledger).trans noted.passes⟩
  rw [side]
  exact .gone (hkept.chats noted) rfl rfl rfl

/-- A task that waits for the next time sleeps for as many steps as are left until then. -/
theorem asleep_of_awaits {s : TaskSide α} {start count next left : Nat} {due : Option Nat}
    (running : s.cleanerStopped = false) (kept : s.ledger.Kept start period count)
    (tasks : s.tasks = [⟨n, .clean due, true, false⟩]) (alarms : s.alarms = [])
    (hnext : next = start + (count + 1) * period)
    (hleft : next = s.ledger.elapsed + (left + 1) * s.ledger.tick) (htick : 0 < s.ledger.tick) :
    Cleaning n period owed' tardy' (s.await n next) ready' := by
  have hpos : 0 < (left + 1) * s.ledger.tick := Nat.mul_pos (Nat.succ_pos left) htick
  have hlater : ¬ next ≤ s.ledger.elapsed := by omega
  rw [TaskSide.await, if_neg (by exact hlater)]
  refine .asleep kept ?_ ?_ hnext hleft fun hstopped =>
    absurd (running.symm.trans hstopped) Bool.false_ne_true
  · rw [TaskSide.sleep, TaskSide.adjust, tasks]
    rfl
  · rw [TaskSide.sleep, TaskSide.adjust, alarms]
    rfl

/-- A task that runs for the first time has made no pass. -/
theorem kept_of_began {s : LedgerSide} (h : s.notes = []) (n period : Nat) :
    (s.note n .began).Kept s.elapsed period 0 ∧ (s.note n .began).passes = s.passes := by
  rw [LedgerSide.note, h]
  refine ⟨⟨rfl, rfl, ?_⟩, ?_⟩
  · rw [Nat.zero_mul]
    exact Nat.le_refl _
  · rw [LedgerSide.passes, LedgerSide.passes, h]
    rfl

/-- A task makes the next pass. -/
theorem kept_of_pass {s : LedgerSide} {start count : Nat} (h : s.Kept start period count)
    (hnow : start + (count + 1) * period = s.elapsed) (n : Nat) (what : Happening)
    (hpass : what.isPass = true) (hbegan : what ≠ .began) :
    (s.note n what).Kept start period (count + 1) ∧
      (s.note n what).passes = s.passes ++ [⟨s.elapsed, some n, what⟩] := by
  refine ⟨⟨?_, ?_, Nat.le_of_eq hnow⟩, LedgerSide.passes_note hpass⟩
  · rw [LedgerSide.begunAt?, LedgerSide.note, List.find?_cons_of_neg (by simp [hbegan])]
    exact h.began
  · rw [LedgerSide.passes_note hpass, List.map_append, h.times, beats_succ, hnow]
    rfl

/-- A task that is told to stop when its time has come makes its last pass. -/
theorem gone_of_passesLast {x e' : Engine α} {l l' : LedgerSide} {start count removed : Nat}
    (kept : (x.taskSide n).ledger.Kept start period count)
    (hnow : start + (count + 1) * period = (x.taskSide n).ledger.elapsed)
    (side : e'.taskSide n = ⟨[], [], l', true⟩) (noted : (x.taskSide n).ledger.Chats l)
    (last : (l.note n (.told (.cleanupPass removed e'.cache.size))).Chats l') :
    Cleaning n period owed' tardy' (e'.taskSide n) ready' ∧ e'.passes n = x.passes n
      ++ [⟨x.ledger.elapsed, some n, .told (.cleanupPass removed e'.cache.size)⟩] := by
  -- the pass is noted between two remarks
  obtain ⟨hkept, hpasses⟩ := kept_of_pass (kept.chats noted) (hnow.trans noted.elapsed.symm) n
    (.told (.cleanupPass removed e'.cache.size)) rfl (by simp)
  have hledger : e'.ledger.side n = l' := congrArg TaskSide.ledger side
  refine ⟨?_, ?_⟩
  · rw [side]
    exact .gone (hkept.chats last) rfl rfl rfl
  · rw [passes, hledger, last.passes, hpasses, noted.passes, noted.elapsed]
    rfl

/-- A task whose time has come makes a pass, and sleeps for another period. -/
theorem asleep_of_passes {x e' : Engine α} {start count due next left removed : Nat}
    (running : x.cleanerStopped = false) (kept : (x.taskSide n).ledger.Kept start period count)
    (tasks : (x.taskSide n).tasks = [⟨n, .clean (some due), true, false⟩])
    (alarms : (x.taskSide n).alarms = [])
    (hnow : start + (count + 1) * period = (x.taskSide n).ledger.elapsed)
    (hnext : next = (x.taskSide n).ledger.elapsed + period)
    (hleft : period = (left + 1) * (x.taskSide n).ledger.tick)
    (htick : 0 < (x.taskSide n).ledger.tick)
    (side : e'.taskSide n
      = ((x.taskSide n).note n (.told (.cleanupPass removed e'.cache.size))).await n next) :
    Cleaning n period owed' tardy' (e'.taskSide n) ready' ∧ e'.passes n = x.passes n
      ++ [⟨x.ledger.elapsed, some n, .told (.cleanupPass removed e'.cache.size)⟩] := by
  obtain ⟨hkept, hpasses⟩ := kept_of_pass kept hnow n
    (.told (.cleanupPass removed e'.cache.size)) rfl (by simp)
  have hfollowing : next = start + (count + 1 + 1) * period := by
    rw [hnext, ← hnow, Nat.succ_mul (count + 1), Nat.add_assoc]
  have hledger : e'.ledger.side n = _ := congrArg TaskSide.ledger side
  refine ⟨?_, ?_⟩
  · rw [side]
    exact asleep_of_awaits (s := (x.taskSide n).note n _) running hkept tasks alarms hfollowing
      (hleft ▸ hnext) htick
  · rw [passes, hledger, TaskSide.ledger_await]
    exact hpasses

/-- In its first turn a task goes to sleep for a period, or ends. -/
theorem cleaning_first (hn : (e.tasks.map Task.number).Nodup) (hr : n ∈ e.ready)
    (tasks : (e.taskSide n).tasks = [⟨n, .clean none, false, false⟩])
    (alarms : (e.taskSide n).alarms = []) (notes : (e.taskSide n).ledger.notes = [])
    (hperiod : e.cache.config.cleanup.nanos = period) (hk : period = (k + 1) * e.ledger.tick)
    (htick : 0 < e.ledger.tick) :
    Cleaning n period owed' tardy' ((e.turn n).taskSide n) ready' ∧ NoPass n e (e.turn n) := by
  -- it notes that it runs before it does anything, so it cleans in an engine where that is noted
  obtain ⟨x, hx⟩ : ∃ x, x = begin (e.called n) ⟨n, .clean none, false, false⟩ := ⟨_, rfl⟩
  have hturn : Cleans n none x (e.turn n) := hx ▸ cleans_turn hn hr tasks
  obtain ⟨hcache, helapsed⟩ : x.cache = e.cache ∧ x.ledger.elapsed = e.ledger.elapsed :=
    hx ▸ begin_same _ _
  have hside : x.taskSide n
      = ((e.taskSide n).adjust fun t => { t with begun := true }).note n .began :=
    hx ▸ taskSide_begin_self rfl
  have hledger : (x.taskSide n).ledger = (e.taskSide n).ledger.note n .began :=
    congrArg TaskSide.ledger hside
  obtain ⟨hkept, hnone⟩ := kept_of_began notes n period
  rw [← hledger] at hkept hnone
  cases hturn with
  | stops stopped cache side noted =>
      obtain ⟨hgone, hpasses⟩ := gone_of_stops hkept side noted
      exact ⟨hgone, hpasses.trans hnone, cache.trans hcache⟩
  | @starts next running hdue cache hnext side =>
      rw [hcache, helapsed, hperiod] at hnext
      have hpasses : ((e.turn n).taskSide n).ledger = (x.taskSide n).ledger := by
        rw [side, TaskSide.ledger_await]
      have htasks : (x.taskSide n).tasks = [⟨n, .clean none, true, false⟩] := by
        rw [hside, TaskSide.note, TaskSide.adjust, tasks]
        rfl
      have halarms : (x.taskSide n).alarms = [] := by
        rw [hside]
        exact alarms
      have hfirst : next = (e.taskSide n).ledger.elapsed + (0 + 1) * period := by
        rw [Nat.zero_add, Nat.one_mul]
        exact hnext
      have hleft : next
          = (x.taskSide n).ledger.elapsed + (k + 1) * (x.taskSide n).ledger.tick := by
        rw [hledger, hnext, hk]
        rfl
      refine ⟨?_, (congrArg LedgerSide.passes hpasses).trans hnone, cache.trans hcache⟩
      rw [side]
      exact asleep_of_awaits running hkept htasks halarms hfirst hleft (by rw [hledger]; exact htick)
  | passesLast stopped hdue => cases hdue
  | waits running hdue => cases hdue
  | passes hdue => cases hdue

/-- A task whose time has not come goes on waiting, or ends. -/
theorem cleaning_asleep {start count due left : Nat} (hn : (e.tasks.map Task.number).Nodup)
    (hr : n ∈ e.ready) (kept : (e.taskSide n).ledger.Kept start period count)
    (tasks : (e.taskSide n).tasks = [⟨n, .clean (some due), true, false⟩])
    (alarms : (e.taskSide n).alarms = [(due, n)]) (hdue : due = start + (count + 1) * period)
    (hleft : due = e.ledger.elapsed + (left + 1) * e.ledger.tick) (htick : 0 < e.ledger.tick) :
    Cleaning n period owed' tardy' ((e.turn n).taskSide n) ready' ∧ NoPass n e (e.turn n) := by
  have hturn : Cleans n (some due) (e.called n) (e.turn n) := cleans_turn hn hr tasks
  have hpos : 0 < (left + 1) * e.ledger.tick := Nat.mul_pos (Nat.succ_pos left) htick
  have hearly : ∀ {d}, some due = some d → ¬ d ≤ (e.called n).ledger.elapsed := by
    rintro d ⟨⟩ (hnow : due ≤ e.ledger.elapsed)
    omega
  cases hturn with
  | stops stopped cache side noted =>
      obtain ⟨hgone, hpasses⟩ := gone_of_stops (x := e.called n) kept side noted
      exact ⟨hgone, hpasses, cache⟩
  | starts running heq => cases heq
  | waits running heq early same =>
      have hasleep : Cleaning n period owed' tardy' ((e.called n).taskSide n) ready' :=
        .asleep kept tasks alarms hdue hleft fun hstopped =>
          absurd (running.symm.trans hstopped) Bool.false_ne_true
      rw [same]
      exact ⟨hasleep, rfl, rfl⟩
  | passesLast stopped heq late => exact absurd late (hearly heq)
  | passes heq late => exact absurd late (hearly heq)

/-- A task whose time has come makes a pass, unless it is told to stop and chance has it so. -/
theorem cleaning_due {start count due : Nat} (hn : (e.tasks.map Task.number).Nodup)
    (hr : n ∈ e.ready) (kept : (e.taskSide n).ledger.Kept start period count)
    (tasks : (e.taskSide n).tasks = [⟨n, .clean (some due), true, false⟩])
    (alarms : (e.taskSide n).alarms = []) (hdue : due = start + (count + 1) * period)
    (now : due = e.ledger.elapsed) (hperiod : e.cache.config.cleanup.nanos = period)
    (hk : period = (k + 1) * e.ledger.tick) (htick : 0 < e.ledger.tick) :
    Cleaning n period owed' tardy' ((e.turn n).taskSide n) ready' ∧
      (NoPass n e (e.turn n) ∨ ∃ removed, Pass n e (e.turn n) removed) := by
  have hturn : Cleans n (some due) (e.called n) (e.turn n) := cleans_turn hn hr tasks
  have hnow : start + (count + 1) * period = e.ledger.elapsed := hdue.symm.trans now
  cases hturn with
  | stops stopped cache side noted =>
      obtain ⟨hgone, hpasses⟩ := gone_of_stops (x := e.called n) kept side noted
      exact ⟨hgone, Or.inl ⟨hpasses, cache⟩⟩
  | starts running heq => cases heq
  | waits running heq early =>
      cases heq
      exact absurd now (Nat.ne_of_gt early)
  | passesLast stopped heq late chance purged side noted last =>
      cases heq
      obtain ⟨hgone, hnoted⟩ := gone_of_passesLast (x := e.called n) kept hnow side noted last
      have hended : ¬ (e.turn n).Lives n :=
        not_lives_iff_side.mpr (congrArg TaskSide.tasks side)
      exact ⟨hgone, Or.inr ⟨_, hnoted, purged, fun _ => ⟨now ▸ chance, hended⟩⟩⟩
  | @passes _ next removed heq late hnext running purged side =>
      -- the pass is for the time that has just come, so the next is a whole period away
      cases heq
      have hlater : next = e.ledger.elapsed + period := by
        rw [hnext, ← now]
        exact congrArg _ hperiod
      have hrunning : e.cleanerStopped = false := by
        refine running.resolve_right fun (hlate : next ≤ e.ledger.elapsed) => ?_
        have hpos : 0 < period := hk ▸ Nat.mul_pos (Nat.succ_pos k) htick
        omega
      obtain ⟨hasleep, hnoted⟩ := asleep_of_passes (x := e.called n) hrunning kept tasks alarms
        hnow hlater hk htick side
      exact ⟨hasleep, Or.inr ⟨removed, hnoted, purged,
        fun hstopped => absurd (hrunning.symm.trans hstopped) Bool.false_ne_true⟩⟩

/-- **THE TURN OF THE CLEANUP** keeps it going: it makes a pass if its time has come, and leaves the
    cache alone otherwise; where it was told to stop, it ends. -/
theorem cleaning_own (h : Cleaning n period owed tardy (e.taskSide n) e.ready)
    (hn : (e.tasks.map Task.number).Nodup) (hr : n ∈ e.ready)
    (hperiod : e.cache.config.cleanup.nanos = period) (hk : period = (k + 1) * e.ledger.tick)
    (htick : 0 < e.ledger.tick) :
    Cleaning n period owed' tardy' ((e.turn n).taskSide n) ready' ∧
      (NoPass n e (e.turn n) ∨ ∃ removed, Pass n e (e.turn n) removed) := by
  cases h with
  | fresh tasks alarms notes queued soon =>
      exact (cleaning_first hn hr tasks alarms notes hperiod hk htick).imp_right Or.inl
  | asleep kept tasks alarms hdue hleft woken =>
      exact (cleaning_asleep hn hr kept tasks alarms hdue hleft htick).imp_right Or.inl
  | due kept tasks alarms hdue now queued soon =>
      exact cleaning_due hn hr kept tasks alarms hdue now hperiod hk htick
  | gone kept tasks alarms stopped =>
      have hnone : e.task? n = none := by
        refine List.find?_eq_none.mpr fun t ht hnumber => ?_
        exact not_lives_iff_side.mpr tasks ⟨t, ht, beq_iff_eq.mp hnumber⟩
      have hturn : e.turn n = e.called n := by
        rw [turn, if_pos (List.contains_iff_mem.mpr hr), hnone]
      rw [hturn]
      exact ⟨.gone kept tasks alarms stopped, Or.inl ⟨rfl, rfl⟩⟩

end Own

end Engine

end Courier
