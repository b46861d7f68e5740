import Courier.Proofs.Attempt.Timings
import Mathlib.Data.List.DropRight
import Mathlib.Order.Bounds.Basic

/-!
# Phases — what a finished timer says of the phases

A running timer overwrites one phase at a time, and only lifts it to the phases before it; a late
event of an early phase leaves the timings out of order until the attempt ends.  What they come to
then can be told from the events alone.  Since the clock was last started, every phase has some time
of its last event (`Timeline.reached`); a running timer keeps each phase between its own time and
the greatest time up to it (`Timeline.Bounds`), and settling the timings makes them the greatest
(`Timeline.Bounds.isGreatest_settle`).  `timings_exact` says so of every timer, whatever is done to
it and when.
-/

namespace Courier

namespace Phase

/-- The place of a phase in their order. -/
def rank : Phase → Nat
  | nameLookup => 0
  | connect => 1
  | preTransfer => 2
  | startTransfer => 3
  | total => 4

/-- A phase and the phases before it. -/
def upTo (phase : Phase) : Set Phase :=
  {q | q.rank ≤ phase.rank}

/-- The phases before a phase. -/
def before (phase : Phase) : Set Phase :=
  {q | q.rank < phase.rank}

/-- Up to a phase are the phases before it, and itself. -/
theorem upTo_eq_insert (phase : Phase) : phase.upTo = insert phase phase.before := by
  ext q
  cases phase <;> cases q <;> simp [upTo, before, rank]

/-- The phases before each one are those up to the one before; before the first there are none. -/
@[simp] theorem before_nameLookup : nameLookup.before = ∅ := by
  ext q
  simp [before, rank]

theorem before_connect : connect.before = nameLookup.upTo :=
  Set.ext fun _ => Nat.lt_succ_iff

theorem before_preTransfer : preTransfer.before = connect.upTo :=
  Set.ext fun _ => Nat.lt_succ_iff

theorem before_startTransfer : startTransfer.before = preTransfer.upTo :=
  Set.ext fun _ => Nat.lt_succ_iff

theorem before_total : total.before = startTransfer.upTo :=
  Set.ext fun _ => Nat.lt_succ_iff

end Phase

/-- An event ends the attempt exactly if it ends the last phase. -/
theorem Event.isTerminal_iff {e : Event} : e.isTerminal = true ↔ e.phase? = some .total := by
  cases e <;> simp [isTerminal, phase?]

/-! ## One phase of the timings -/

namespace Progress

/-- The timing of a phase. -/
def timing (p : Progress) : Phase → Nat
  | .nameLookup => p.nameLookup
  | .connect => p.connect
  | .preTransfer => p.preTransfer
  | .startTransfer => p.startTransfer
  | .total => p.total

variable {phase q : Phase} {millis : Nat}

@[simp] theorem timing_zero (phase : Phase) : zero.timing phase = 0 := by
  cases phase <;> rfl

/-- **SETTLED TIMINGS ARE THE GREATEST** up to each phase. -/
theorem isGreatest_settle (p : Progress) (phase : Phase) :
    IsGreatest (p.timing '' phase.upTo) (p.settle.timing phase) := by
  -- one phase more, from the phases before it
  have lift (q : Phase) {m : Nat} (h : IsGreatest (p.timing '' q.before) m) :
      IsGreatest (p.timing '' q.upTo) (max (p.timing q) m) := by
    rw [q.upTo_eq_insert, Set.image_insert_eq]
    exact h.insert (p.timing q)
  have hnameLookup : IsGreatest (p.timing '' Phase.nameLookup.upTo) p.nameLookup := by
    rw [Phase.upTo_eq_insert, Phase.before_nameLookup, insert_empty_eq, Set.image_singleton]
    exact isGreatest_singleton
  have hconnect := lift .connect (Phase.before_connect ▸ hnameLookup)
  have hpreTransfer := lift .preTransfer (Phase.before_preTransfer ▸ hconnect)
  have hstartTransfer := lift .startTransfer (Phase.before_startTransfer ▸ hpreTransfer)
  have htotal := lift .total (Phase.before_total ▸ hstartTransfer)
  cases phase with
  | nameLookup => exact hnameLookup
  | connect => exact hconnect
  | preTransfer => exact hpreTransfer
  | startTransfer => exact hstartTransfer
  | total => exact htotal

/-- A phase is set to what it is told, or to the greatest timing before it. -/
theorem isGreatest_record (p : Progress) (phase : Phase) (millis : Nat) :
    IsGreatest (insert millis (p.timing '' phase.before))
      ((p.record phase millis).timing phase) := by
  have lift {q : Phase} {m : Nat} (hbefore : phase.before = q.upTo)
      (hm : m = p.settle.timing q) :
      IsGreatest (insert millis (p.timing '' phase.before)) (max millis m) := by
    rw [hbefore, hm]
    exact (p.isGreatest_settle q).insert millis
  cases phase with
  | nameLookup =>
      rw [Phase.before_nameLookup, Set.image_empty, insert_empty_eq]
      exact isGreatest_singleton
  | connect => exact lift Phase.before_connect rfl
  | preTransfer => exact lift Phase.before_preTransfer (Nat.max_comm _ _)
  | startTransfer =>
      refine lift Phase.before_startTransfer ?_
      show max (max _ _) _ = max _ (max _ _)
      rw [Nat.max_comm p.nameLookup, Nat.max_comm]
  | total =>
      refine lift Phase.before_total ?_
      show max (max (max _ _) _) _ = max _ (max _ (max _ _))
      rw [Nat.max_comm p.nameLookup, Nat.max_comm _ p.preTransfer, Nat.max_comm]

/-- A record for one phase leaves the other slots alone. -/
theorem timing_record_of_ne (p : Progress) (h : q ≠ phase) :
    (p.record phase millis).timing q = p.timing q := by
  cases phase <;> cases q <;> first | rfl | exact absurd rfl h

end Progress

/-! ## What the events say -/

/-- Later is not fewer milliseconds. -/
theorem ProgressTimer.wholeMillis_mono {a b : Nat} (h : a ≤ b) : wholeMillis a ≤ wholeMillis b := by
  have hdiv : a / Duration.perMilli ≤ b / Duration.perMilli := Nat.div_le_div_right h
  rw [wholeMillis, wholeMillis]
  omega

/-- Events, each with the time at which it happened. -/
abbrev Timeline := List (Nat × Event)

namespace Timeline

/-- When the clock was last started: at the latest first event, or at the origin. -/
def startedAt (origin : Nat) (events : Timeline) : Nat :=
  ((events.reverse.find? fun x => x.2 = .started).map Prod.fst).getD origin

/-- The events since the clock was last started. -/
def current (events : Timeline) : Timeline :=
  events.rtakeWhile fun x => x.2 ≠ .started

/-- The last event of a phase since the clock was last started. -/
def last? (events : Timeline) (phase : Phase) : Option (Nat × Event) :=
  events.current.reverse.find? fun x => x.2.phase? = some phase

/-- The whole milliseconds from when the clock was last started to the last event of a phase since,
    or none. -/
def reached (origin : Nat) (events : Timeline) (phase : Phase) : Nat :=
  match events.last? phase with
  | some x => ProgressTimer.wholeMillis (x.1 - events.startedAt origin)
  | none => 0

variable {origin now : Nat} {events : Timeline} {e : Event} {phase q : Phase} {p : Progress}

/-- The event that begins an attempt starts the clock. -/
theorem startedAt_started : startedAt origin (events ++ [(now, .started)]) = now := by
  simp [startedAt]

/-- No phase has been reached when the clock is started. -/
theorem reached_started (phase : Phase) :
    reached origin (events ++ [(now, .started)]) phase = 0 := by
  rw [reached, last?, current, List.rtakeWhile_concat_neg _ _ _ (by simp)]
  rfl

/-- An event of a phase does not start the clock. -/
theorem startedAt_concat (he : e.phase? = some phase) :
    startedAt origin (events ++ [(now, e)]) = events.startedAt origin := by
  have hne : e ≠ .started := by
    rintro rfl
    cases he
  simp [startedAt, hne]

/-- An event of a phase is the last one of that phase. -/
theorem last?_concat (he : e.phase? = some phase) (q : Phase) :
    last? (events ++ [(now, e)]) q = if q = phase then some (now, e) else events.last? q := by
  have hne : e ≠ .started := by
    rintro rfl
    cases he
  rw [last?, current, List.rtakeWhile_concat_pos _ _ _ (by simpa using hne), List.reverse_concat,
    List.find?_cons, he]
  by_cases hq : q = phase
  · simp [hq]
  · simp [hq, Ne.symm hq, last?, current]

/-- An event that ends a phase: that phase has ended now. -/
theorem reached_self (he : e.phase? = some phase) :
    reached origin (events ++ [(now, e)]) phase
      = ProgressTimer.wholeMillis (now - events.startedAt origin) := by
  rw [reached, last?_concat he, if_pos rfl, startedAt_concat he]

/-- An event that ends a phase: the others have ended when they had. -/
theorem reached_of_ne (he : e.phase? = some phase) (hq : q ≠ phase) :
    reached origin (events ++ [(now, e)]) q = events.reached origin q := by
  rw [reached, last?_concat he, if_neg hq, startedAt_concat he, reached]

/-- No phase has ended later than the latest event. -/
theorem reached_le (hnow : ∀ x ∈ events, x.1 ≤ now) (phase : Phase) :
    events.reached origin phase ≤ ProgressTimer.wholeMillis (now - events.startedAt origin) := by
  rw [reached]
  split
  · rename_i x hx
    have hmem : x ∈ events := by
      have hcurrent : x ∈ events.current := List.mem_reverse.mp (List.mem_of_find?_eq_some hx)
      exact (List.rtakeWhile_suffix _ _).subset hcurrent
    exact ProgressTimer.wholeMillis_mono (Nat.sub_le_sub_right (hnow x hmem) _)
  · exact Nat.zero_le _

/-- A further event takes no phase back. -/
theorem reached_mono (hnow : ∀ x ∈ events, x.1 ≤ now) (he : e.phase? = some phase) (q : Phase) :
    events.reached origin q ≤ reached origin (events ++ [(now, e)]) q := by
  by_cases hq : q = phase
  · rw [hq, reached_self he]
    exact reached_le hnow phase
  · exact (reached_of_ne he hq).ge

/-- The timings of a timer that runs: a phase is not before its own last event, and not after the
    last events of the phases up to it. -/
structure Bounds (origin : Nat) (events : Timeline) (p : Progress) : Prop where
  own : ∀ phase, events.reached origin phase ≤ p.timing phase
  upTo : ∀ phase : Phase, ∃ q ∈ phase.upTo, p.timing phase ≤ events.reached origin q

theorem Bounds.started : Bounds origin (events ++ [(now, .started)]) .zero := by
  refine ⟨fun phase => ?_, fun phase => ⟨phase, Nat.le_refl _, ?_⟩⟩
  · rw [reached_started]
    exact Nat.zero_le _
  · rw [Progress.timing_zero]
    exact Nat.zero_le _

/-- A phase that is set keeps within its bounds, and so do the others, whose events stay. -/
theorem Bounds.record (h : Bounds origin events p) (hnow : ∀ x ∈ events, x.1 ≤ now)
    (he : e.phase? = some phase) : Bounds origin (events ++ [(now, e)])
      (p.record phase (ProgressTimer.wholeMillis (now - events.startedAt origin))) := by
  obtain ⟨hmem, hupper⟩ :=
    p.isGreatest_record phase (ProgressTimer.wholeMillis (now - events.startedAt origin))
  -- what was bounded by the events so far is bounded by them and the further one
  have hbounded : ∀ q, ∃ r ∈ q.upTo,
      p.timing q ≤ reached origin (events ++ [(now, e)]) r := fun q => by
    obtain ⟨r, hr, hle⟩ := h.upTo q
    exact ⟨r, hr, Nat.le_trans hle (reached_mono hnow he r)⟩
  refine ⟨fun q => ?_, fun q => ?_⟩
  · by_cases hq : q = phase
    · rw [hq, reached_self he]
      exact hupper (Set.mem_insert _ _)
    · rw [reached_of_ne he hq, p.timing_record_of_ne hq]
      exact h.own q
  · by_cases hq : q = phase
    · subst hq
      rcases hmem with heq | ⟨r, hr, heq⟩
      · exact ⟨q, Nat.le_refl _, by rw [heq, reached_self he]⟩
      · obtain ⟨s, hs, hle⟩ := hbounded r
        exact ⟨s, Nat.le_trans hs (Nat.le_of_lt hr), heq ▸ hle⟩
    · rw [p.timing_record_of_ne hq]
      exact hbounded q

/-- **SETTLED TIMINGS ARE WHAT THE EVENTS SAY**: each phase has the greatest time up to it. -/
theorem Bounds.isGreatest_settle (h : Bounds origin events p) (phase : Phase) :
    IsGreatest (events.reached origin '' phase.upTo) (p.settle.timing phase) := by
  obtain ⟨⟨q, hq, hvalue⟩, hupper⟩ := p.isGreatest_settle phase
  have hown : ∀ r ∈ phase.upTo, events.reached origin r ≤ p.settle.timing phase := fun r hr =>
    Nat.le_trans (h.own r) (hupper ⟨r, hr, rfl⟩)
  obtain ⟨r, hr, hle⟩ := h.upTo q
  have hrank : r ∈ phase.upTo := Nat.le_trans hr hq
  refine ⟨⟨r, hrank, Nat.le_antisymm (hown r hrank) (hvalue ▸ hle)⟩, ?_⟩
  rintro _ ⟨s, hs, rfl⟩
  exact hown s hs

end Timeline

/-! ## What is done to a timer -/

/-- What can be done to a timer. -/
inductive TimerStep where
  | event (e : Event)
  | reset
  deriving Repr, DecidableEq

namespace ProgressTimer

/-- Does something to a timer. -/
def step (t : ProgressTimer) (now : Nat) : TimerStep → ProgressTimer
  | .event e => t.onEvent now e
  | .reset => t.reset now

/-- The timer that was started at a time, after some steps. -/
def after (origin : Nat) (steps : List (Nat × TimerStep)) : ProgressTimer :=
  steps.foldl (fun t s => t.step s.1 s.2) (start origin)

/-- A life of a timer goes from its start or a reset to the next reset: when the latest one began,
    and the events in it. -/
def life (origin : Nat) (steps : List (Nat × TimerStep)) : Nat × Timeline :=
  steps.foldl (fun l s => match s.2 with
    | .event e => (l.1, l.2 ++ [(s.1, e)])
    | .reset => (s.1, [])) (origin, [])

/-- The timer that was started at a time, after some events. -/
def follow (origin : Nat) (events : Timeline) : ProgressTimer :=
  events.foldl (fun t x => t.onEvent x.1 x.2) (start origin)

variable {t : ProgressTimer} {origin now : Nat} {steps : List (Nat × TimerStep)}
  {events : Timeline} {e : Event}

theorem follow_concat (origin now : Nat) (events : Timeline) (e : Event) :
    follow origin (events ++ [(now, e)]) = (follow origin events).onEvent now e :=
  List.foldl_concat ..

theorem life_concat (origin : Nat) (steps : List (Nat × TimerStep)) (s : Nat × TimerStep) :
    life origin (steps ++ [s]) = match s.2 with
      | .event e => ((life origin steps).1, (life origin steps).2 ++ [(s.1, e)])
      | .reset => (s.1, []) :=
  List.foldl_concat ..

/-- Only the latest life of a timer counts. -/
theorem after_eq_follow (origin : Nat) (steps : List (Nat × TimerStep)) :
    after origin steps = follow (life origin steps).1 (life origin steps).2 := by
  induction steps using List.reverseRecOn with
  | nil => rfl
  | append_singleton steps s ih =>
      obtain ⟨now, s⟩ := s
      rw [after, List.foldl_concat, ← after, ih, life_concat]
      cases s with
      | event e => exact (follow_concat ..).symm
      | reset => rfl

/-- The events in the latest life of a timer are some of all that was done to it, in order. -/
theorem sublist_life (origin : Nat) (steps : List (Nat × TimerStep)) :
    ((life origin steps).2.map Prod.fst).Sublist (steps.map Prod.fst) := by
  induction steps using List.reverseRecOn with
  | nil => exact List.Sublist.slnil
  | append_singleton steps s ih =>
      obtain ⟨now, s⟩ := s
      rw [life_concat, List.map_append]
      cases s with
      | event e =>
          rw [List.map_append]
          exact ih.append (List.Sublist.refl _)
      | reset => exact List.nil_sublist _

/-- An event finishes a timer if it ends the attempt, and no event takes that back. -/
theorem finished_onEvent (t : ProgressTimer) (now : Nat) (e : Event) :
    (t.onEvent now e).finished = (t.finished || e.isTerminal) := by
  cases h : t.finished with
  | true => rw [onEvent, if_pos h, h, Bool.true_or]
  | false =>
      rw [onEvent, if_neg (by simp [h]), Bool.false_or]
      cases e <;> first | rfl | exact h

theorem finished_follow (origin : Nat) (events : Timeline) :
    (follow origin events).finished = events.any fun x => x.2.isTerminal := by
  induction events using List.reverseRecOn with
  | nil => rfl
  | append_singleton events x ih =>
      rw [show x = (x.1, x.2) from rfl, follow_concat, finished_onEvent, ih, List.any_append]
      simp

/-- A timer that has finished ignores all events. -/
theorem follow_append_of_finished (h : (follow origin events).finished = true) (late : Timeline) :
    follow origin (events ++ late) = follow origin events := by
  induction late using List.reverseRecOn with
  | nil => rw [List.append_nil]
  | append_singleton late x ih =>
      rw [← List.append_assoc, follow_concat, ih, onEvent, if_pos h]

theorem steady_follow (origin : Nat) (events : Timeline) : (follow origin events).Steady := by
  induction events using List.reverseRecOn with
  | nil => exact steady_start origin
  | append_singleton events x ih =>
      rw [show x = (x.1, x.2) from rfl, follow_concat]
      exact ih.onEvent x.1 x.2

/-- A timer that runs has gone through these events. -/
structure Runs (origin : Nat) (events : Timeline) (t : ProgressTimer) : Prop where
  running : t.finished = false
  startedAt : t.startedAt = events.startedAt origin
  bounds : events.Bounds origin t.progress

theorem runs_start (origin : Nat) : Runs origin [] (start origin) where
  running := rfl
  startedAt := rfl
  bounds :=
    { own := fun _ => Nat.zero_le _
      upTo := fun phase => ⟨phase, Nat.le_refl _, (Progress.timing_zero phase).le⟩ }

/-- An event that does not end the attempt. -/
theorem Runs.onEvent (h : Runs origin events t) (hnow : ∀ x ∈ events, x.1 ≤ now)
    (he : e.isTerminal = false) : Runs origin (events ++ [(now, e)]) (t.onEvent now e) := by
  rw [ProgressTimer.onEvent, if_neg (by simp [h.running])]
  cases hphase : e.phase? with
  | none =>
      have hstarted : e = .started := by
        cases e with
        | started => rfl
        | _ => cases hphase
      subst hstarted
      exact ⟨rfl, Timeline.startedAt_started.symm, .started⟩
  | some phase =>
      simp only [he, Bool.false_eq_true, if_false]
      refine ⟨h.running, ?_, ?_⟩
      · rw [Timeline.startedAt_concat hphase]
        exact h.startedAt
      · rw [elapsedMillis, h.startedAt]
        exact h.bounds.record hnow hphase

/-- The event that ends the attempt settles the timings at what the events say. -/
theorem Runs.finish (h : Runs origin events t) (hnow : ∀ x ∈ events, x.1 ≤ now)
    (he : e.isTerminal = true) (phase : Phase) :
    IsGreatest (Timeline.reached origin (events ++ [(now, e)]) '' phase.upTo)
      ((t.onEvent now e).progress.timing phase) := by
  have hphase := Event.isTerminal_iff.mp he
  have hbounds := h.bounds.record hnow hphase
  rw [← h.startedAt] at hbounds
  rw [ProgressTimer.onEvent, if_neg (by simp [h.running]), hphase]
  simp only [he, if_true]
  exact hbounds.isGreatest_settle phase

/-- Events in the order of time. -/
theorem le_of_pairwise {early late : Timeline} {x : Nat × Event}
    (h : ((early ++ x :: late).map Prod.fst).Pairwise (· ≤ ·)) : ∀ y ∈ early, y.1 ≤ x.1 := by
  rw [List.map_append, List.pairwise_append] at h
  exact fun y hy => h.2.2 y.1 (List.mem_map_of_mem hy) x.1 (List.mem_cons_self ..)

/-- **A TIMER RUNS UP TO THE FIRST EVENT THAT ENDS THE ATTEMPT.** -/
theorem runs_follow (horder : (events.map Prod.fst).Pairwise (· ≤ ·))
    (hrunning : ∀ x ∈ events, x.2.isTerminal = false) :
    Runs origin events (follow origin events) := by
  induction events using List.reverseRecOn with
  | nil => exact runs_start origin
  | append_singleton events x ih =>
      have hearly : (events.map Prod.fst).Pairwise (· ≤ ·) := by
        rw [List.map_append] at horder
        exact (List.pairwise_append.mp horder).1
      rw [show x = (x.1, x.2) from rfl, follow_concat]
      exact (ih hearly fun y hy => hrunning y (List.mem_append_left _ hy)).onEvent
        (le_of_pairwise horder) (hrunning x (by simp))

/-- **WHAT A TIMER SAYS** after it was started at a time and these steps were taken. -/
structure Exact (origin : Nat) (steps : List (Nat × TimerStep)) : Prop where
  /-- It has finished if some event of its latest life ended the attempt. -/
  finished : (after origin steps).finished = (life origin steps).2.any fun x => x.2.isTerminal
  /-- From the first such event on, each phase has the greatest time, over the phases up to it, of
      their last events since the clock was last started, and the total is the time of that
      event. -/
  phases : ∀ early now e late, (life origin steps).2 = early ++ (now, e) :: late →
    (∀ x ∈ early, x.2.isTerminal = false) → e.isTerminal = true →
    (∀ phase : Phase, IsGreatest
      (Timeline.reached (life origin steps).1 (early ++ [(now, e)]) '' phase.upTo)
      ((after origin steps).progress.timing phase)) ∧
    (after origin steps).progress.total
      = wholeMillis (now - Timeline.startedAt (life origin steps).1 early)
  monotonic : (after origin steps).finished = true →
    (after origin steps).progress.isMonotonic = true
  /-- No event changes it any more. -/
  stands : (after origin steps).finished = true → ∀ later : Timeline,
    after origin (steps ++ later.map fun x => (x.1, .event x.2)) = after origin steps
  /-- A timer that is reset is a new one. -/
  reset : ∀ now later, after origin (steps ++ (now, .reset) :: later) = after now later

/-- The life of a timer goes on with further events. -/
theorem life_append (origin : Nat) (steps : List (Nat × TimerStep)) (later : Timeline) :
    life origin (steps ++ later.map fun x => (x.1, .event x.2))
      = ((life origin steps).1, (life origin steps).2 ++ later) := by
  induction later using List.reverseRecOn with
  | nil => simp
  | append_singleton later x ih =>
      rw [List.map_append, ← List.append_assoc, List.map_singleton, life_concat, ih]
      simp

/-- **THE TIMINGS OF A FINISHED TIMER ARE EXACT**, whatever happens to it, in whatever order. -/
theorem timings_exact (horder : (steps.map Prod.fst).Pairwise (· ≤ ·)) : Exact origin steps := by
  refine
    { finished := ?finished
      phases := ?phases
      monotonic := ?monotonic
      stands := ?stands
      reset := ?reset }
  case finished =>
    rw [after_eq_follow]
    exact finished_follow _ _
  case phases =>
    intro early now e late hsplit hearly he
    have hlife : ((life origin steps).2.map Prod.fst).Pairwise (· ≤ ·) :=
      horder.sublist (sublist_life origin steps)
    rw [hsplit] at hlife
    have hnow := le_of_pairwise hlife
    have hruns : Runs (life origin steps).1 early (follow (life origin steps).1 early) := by
      refine runs_follow ?_ hearly
      rw [List.map_append] at hlife
      exact (List.pairwise_append.mp hlife).1
    -- nothing after the first end counts
    have hend : after origin steps = (follow (life origin steps).1 early).onEvent now e := by
      rw [after_eq_follow, hsplit, List.append_cons, follow_append_of_finished, follow_concat]
      rw [follow_concat]
      exact finished_at_end now he
    rw [hend]
    refine ⟨hruns.finish hnow he, ?_⟩
    obtain ⟨⟨q, -, hq⟩, hupper⟩ := hruns.finish hnow he .total
    have hphase := Event.isTerminal_iff.mp he
    refine Nat.le_antisymm ?_ ?_
    · show Progress.timing _ .total ≤ _
      rw [← hq, ← Timeline.startedAt_concat hphase]
      refine Timeline.reached_le (fun x hx => ?_) q
      rcases List.mem_append.mp hx with hx | hx
      · exact hnow x hx
      · rw [List.mem_singleton.mp hx]
    · rw [← Timeline.reached_self hphase]
      exact hupper ⟨.total, Nat.le_refl _, rfl⟩
  case monotonic =>
    rw [after_eq_follow]
    exact steady_follow _ _
  case stands =>
    intro hfinished later
    rw [after_eq_follow] at hfinished
    rw [after_eq_follow, life_append, follow_append_of_finished hfinished, after_eq_follow]
  case reset =>
    intro now later
    rw [after, List.foldl_append]
    rfl

/-- A timer that is reset after it has finished, and whose clock is started once more.  The headers
    come before the name is looked up, and the connection is opened when it is over. -/
def outOfOrder : List (Nat × TimerStep) :=
  [(1000000, .event .completed), (2000000, .reset), (3000000, .event .bodyWritten),
    (5000000, .event .started), (12700000, .event .headersReceived),
    (15900000, .event .dnsResolved), (20000000, .event .failed),
    (90000000, .event .connectionOpened)]

/-- The late name lookup lifts all phases after it. -/
theorem timings_exact_of_outOfOrder :
    (outOfOrder.map Prod.fst).Pairwise (· ≤ ·) ∧ Exact 0 outOfOrder ∧
      (after 0 outOfOrder).progress = ⟨10, 10, 10, 10, 15⟩ :=
  ⟨by decide, timings_exact (by decide), by decide⟩

end ProgressTimer

end Courier
