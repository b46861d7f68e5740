import Courier.Proofs.Future.Decisions

/-!
# Driving — no future is left to wait for a task that is no more

Whoever spawns a future spawns the task that drives it first, and stores the task in the future
afterwards; only then is the future given away.  The task runs on meanwhile: it may have a result,
panic or be dropped before it is stored.  It carries a guard, which decides the future with the
result or, if the task ends without one, in its place.

`Driven.step` is one step of the two of them and of whoever has the future, and `Driven.Runs` any
number of steps in any order in which they can come.  What every step keeps is `Driven.Sound`; what
a run has told of wakers and aborts is told by the first of its events that decides (`Telling`).
-/

namespace Courier

variable {α : Type}

/-- A future that is spawned, and the task that drives it. -/
structure Driven (α : Type) where
  future : Completion α
  /-- Whether the task is stored, and the future given away. -/
  given : Bool
  /-- Whether the task still has the guard. -/
  guarded : Bool
  /-- Whether the task has ended. -/
  ended : Bool

/-- What can happen to a future that is spawned, and to its task. -/
inductive DrivenEvent (α : Type) where
  /-- Whoever spawned the task stores it in the future, and gives the future away. -/
  | store
  /-- The work of the task goes on. -/
  | run
  /-- The work has a result, and the guard is used for it. -/
  | finish (result : Outcome α)
  /-- The task returns. -/
  | leave
  | panic
  /-- The task is dropped. -/
  | drop
  | cancel
  | poll (waker : Nat)
  | wait
  | waitTimeout

namespace DrivenEvent

/-- What an event would decide. -/
def decides : DrivenEvent α → Option (Decision α)
  | finish result => some (.result result)
  | panic => some (.result (.error (.taskFailed .panicked)))
  | drop => some (.result (.error (.taskFailed .dropped)))
  | cancel => some .cancel
  | _ => none

/-- How the task ends by an event, if it ends without a result by it. -/
def failure : DrivenEvent α → Option TaskEnd
  | panic => some .panicked
  | drop => some .dropped
  | _ => none

/-- Whom to wake, as a poll says. -/
def waker : DrivenEvent α → Option Nat
  | poll waker => some waker
  | _ => none

/-- What an event is to the future, if the guard was not used before. -/
def effect (task : Nat) : DrivenEvent α → Option (FutureEvent α)
  | store => some (.attach task)
  | run | leave => none
  | finish result => some (.finish result)
  | panic => some (.abandon .panicked)
  | drop => some (.abandon .dropped)
  | cancel => some .cancel
  | poll waker => some (.poll waker)
  | wait => some .wait
  | waitTimeout => some .waitTimeout

/-- Whom the most recent poll wants woken. -/
def lastWaker (events : List (DrivenEvent α)) : Option Nat :=
  (events.filterMap waker).getLast?

theorem lastWaker_concat (events : List (DrivenEvent α)) (ev : DrivenEvent α) :
    lastWaker (events ++ [ev]) = ev.waker.or (lastWaker events) := by
  rw [lastWaker, lastWaker, List.filterMap_append, List.getLast?_append]
  cases ev <;> rfl

/-- Nothing is decided by an event that is to the future what decides nothing. -/
theorem decides_effect (task : Nat) (ev : DrivenEvent α) :
    (ev.effect task).bind FutureEvent.decides = ev.decides := by
  cases ev <;> rfl

/-- What some events decide is what they decide as events of the future. -/
theorem findSome_effect (task : Nat) (events : List (DrivenEvent α)) :
    (events.filterMap (effect task)).findSome? FutureEvent.decides
      = events.findSome? decides := by
  induction events with
  | nil => rfl
  | cons ev rest ih =>
      have hev := decides_effect task ev
      rw [List.findSome?_cons, ← hev, List.filterMap_cons]
      cases ev.effect task with
      | none => exact ih
      | some fe =>
          rw [List.findSome?_cons, ih]
          rfl

end DrivenEvent

/-- What a decision aborts: a cancel aborts the task, and nothing else does. -/
def Decision.aborts (task : Nat) : Decision α → Option Nat
  | .cancel => some task
  | .result _ => none

namespace Completion

variable {c : Completion α}

/-- A future that remembers nobody. -/
def Bare (c : Completion α) : Prop :=
  c.waker = none ∧ c.task = none

/-- What is pending has been pending, and nothing has decided it. -/
theorem pending_step {ev : FutureEvent α} :
    (c.step ev).1.state = .pending ↔ c.state = .pending ∧ ev.decides = none := by
  by_cases hc : c.state = .pending
  · cases hd : ev.decides with
    | some x =>
        rw [(step_of_decides hc hd).1]
        cases x <;> simp [stateOf]
    | none =>
        cases ha : ev.asks with
        | true => simp [state_step_of_pending hc ha, hc]
        | false => simp [state_step_of_neither hd ha, hc]
  · have hdone := (after_of_done hc [ev]).1
    exact ⟨fun h => absurd h hdone, fun h => absurd h.1 hc⟩

/-- A future that was decided is as bare as it was, whatever happens. -/
theorem bare_step (hb : c.state ≠ .pending → c.Bare) (ev : FutureEvent α)
    (h : (c.step ev).1.state ≠ .pending) : (c.step ev).1.Bare := by
  by_cases hc : c.state = .pending
  · cases hd : ev.decides with
    | some x =>
        rw [(step_of_decides hc hd).1]
        exact ⟨rfl, rfl⟩
    | none => exact absurd (pending_step.mpr ⟨hc, hd⟩) h
  · obtain ⟨state, waker, task⟩ := c
    obtain ⟨rfl, rfl⟩ := hb hc
    cases state with
    | pending => exact absurd rfl hc
    | ready _ | cancelled | taken => cases ev <;> exact ⟨rfl, rfl⟩

end Completion

namespace Driven

/-- A future when its task has been spawned. -/
def spawned : Driven α := ⟨.pending, false, true, false⟩

/-- Whether an event can happen.  Nobody but the task has the future before it is given away. -/
def may (d : Driven α) : DrivenEvent α → Bool
  | .store => !d.given
  | .run | .finish _ => !d.ended && d.guarded
  | .leave => !d.ended && !d.guarded
  | .panic | .drop => !d.ended
  | .cancel | .poll _ | .wait | .waitTimeout => d.given

/-- The task ends without a result: the guard speaks for it, if it was not used. -/
def fall (d : Driven α) (how : TaskEnd) : Driven α × Option Settled :=
  if d.guarded then
    let (future, told) := d.future.complete (.error (.taskFailed how))
    ({ d with future := future, guarded := false, ended := true }, told)
  else ({ d with ended := true }, none)

/-- Lets an event happen.  Tells whom to wake and what to abort, if it decides the future. -/
def step (task : Nat) (d : Driven α) : DrivenEvent α → Driven α × Option Settled
  | .store => ({ d with future := d.future.attach task, given := true }, none)
  | .run => (d, none)
  | .finish result =>
    let (future, told) := d.future.complete result
    ({ d with future := future, guarded := false }, told)
  | .leave => ({ d with ended := true }, none)
  | .panic => d.fall .panicked
  | .drop => d.fall .dropped
  | .cancel =>
    let (future, told) := d.future.cancel
    ({ d with future := future }, told)
  | .poll waker => ({ d with future := (d.future.poll waker).1 }, none)
  | .wait => ({ d with future := d.future.wait.1 }, none)
  | .waitTimeout => ({ d with future := d.future.waitTimeout.1 }, none)

/-- What has happened to a future that is driven by a task, and what was told. -/
inductive Runs (task : Nat) : List (DrivenEvent α) → Driven α → List Settled → Prop where
  | start : Runs task [] spawned []
  | step {past : List (DrivenEvent α)} {d : Driven α} {told : List Settled}
      (h : Runs task past d told) (ev : DrivenEvent α) (hev : d.may ev = true) :
      Runs task (past ++ [ev]) (d.step task ev).1 (told ++ (d.step task ev).2.toList)

/-! ## One event -/

/-- **WHAT EVERY STEP KEEPS.** -/
structure Sound (task : Nat) (d : Driven α) : Prop where
  /-- Only a future that is decided is without its guard. -/
  guarded : d.future.state = .pending → d.guarded = true
  /-- The guard goes with the task. -/
  ended : d.guarded = true → d.ended = false
  /-- A future that is decided remembers nobody. -/
  bare : d.future.state ≠ .pending → d.future.Bare
  stored : d.given = true → d.future.state = .pending → d.future.task = some task

theorem sound_spawned (task : Nat) : Sound task (spawned : Driven α) :=
  ⟨fun _ => rfl, fun _ => rfl, fun _ => ⟨rfl, rfl⟩, fun h => nomatch h⟩

section Step

variable {task : Nat} {d : Driven α} {ev : DrivenEvent α}

/-- An event that finds the guard used cannot be told from what it is to the future. -/
theorem future_step (h : Sound task d) (hev : d.may ev = true) : (d.step task ev).1.future
    = match ev.effect task with
      | none => d.future
      | some effect => (d.future.step effect).1 := by
  have hfall : ∀ how, (d.fall how).1.future = (d.future.step (.abandon how)).1 := by
    intro how
    rw [fall]
    split
    · rfl
    · rename_i hguarded
      rw [Completion.step_of_done (fun hc => hguarded (h.guarded hc)) rfl]
  cases ev with
  | panic => exact hfall .panicked
  | drop => exact hfall .dropped
  | _ => rfl

/-- A decided future is not decided again, and nothing is told. -/
theorem told_of_done (hc : d.future.state ≠ .pending) (ev : DrivenEvent α) :
    (d.step task ev).2 = none := by
  have hcomplete : ∀ result, (d.future.complete result).2 = none := by
    intro result
    rw [Completion.complete]
    split
    · exact absurd ‹_› hc
    · rfl
  have hfall : ∀ how, (d.fall how).2 = none := by
    intro how
    rw [fall]
    split
    · exact hcomplete _
    · rfl
  cases ev with
  | finish result => exact hcomplete result
  | panic => exact hfall .panicked
  | drop => exact hfall .dropped
  | cancel =>
      show d.future.cancel.2 = none
      rw [Completion.cancel]
      split
      · exact absurd ‹_› hc
      · rfl
  | _ => rfl

/-- **WHOEVER ASKED LAST IS WOKEN** by the event that decides a pending future, and the task is
    aborted if that is a cancel. -/
theorem told_of_pending (h : Sound task d) (hev : d.may ev = true)
    (hc : d.future.state = .pending) :
    (d.step task ev).2 = ev.decides.map fun x => ⟨d.future.waker, x.aborts task⟩ := by
  have hcomplete : ∀ result, (d.future.complete result).2 = some ⟨d.future.waker, none⟩ := by
    intro result
    rw [Completion.complete, hc]
  have hfall : ∀ how, (d.fall how).2 = some ⟨d.future.waker, none⟩ := by
    intro how
    rw [fall, if_pos (h.guarded hc)]
    exact hcomplete _
  cases ev with
  | finish result => exact hcomplete result
  | panic => exact hfall .panicked
  | drop => exact hfall .dropped
  | cancel =>
      show d.future.cancel.2 = some ⟨d.future.waker, some task⟩
      rw [Completion.cancel, hc, h.stored hev hc]
  | _ => rfl

/-- What is pending has been pending, and nothing has decided it. -/
theorem pending_step (h : Sound task d) (hev : d.may ev = true) :
    (d.step task ev).1.future.state = .pending ↔ d.future.state = .pending ∧ ev.decides = none := by
  have heffect := ev.decides_effect task
  rw [future_step h hev]
  cases hfe : ev.effect task with
  | none =>
      rw [hfe] at heffect
      simp [← heffect]
  | some effect =>
      rw [hfe] at heffect
      rw [← heffect]
      exact Completion.pending_step

/-- What a pending future remembers: whoever polled it last, and the task once that is stored. -/
theorem remembers_step (hc : d.future.state = .pending) (hd : ev.decides = none) :
    (d.step task ev).1.future.waker = ev.waker.or d.future.waker ∧
      (d.step task ev).1.guarded = d.guarded ∧
      ((d.given = true → d.future.task = some task) →
        (d.step task ev).1.given = true → (d.step task ev).1.future.task = some task) := by
  obtain ⟨⟨state, waker, stored⟩, given, guarded, ended⟩ := d
  cases hc
  cases ev with
  | finish _ | panic | drop | cancel => cases hd
  | store => exact ⟨rfl, rfl, fun _ _ => rfl⟩
  | run | leave | poll _ | wait | waitTimeout => exact ⟨rfl, rfl, id⟩

/-- **WHAT IS SOUND STAYS SOUND**, whichever event comes next. -/
theorem Sound.step (h : Sound task d) (hev : d.may ev = true) : Sound task (d.step task ev).1 := by
  refine
    { guarded := fun hc => ?guarded
      ended := ?ended
      bare := ?bare
      stored := fun hgiven hc => ?stored }
  case guarded =>
    obtain ⟨hold, hd⟩ := (pending_step h hev).mp hc
    rw [(remembers_step hold hd).2.1]
    exact h.guarded hold
  case ended =>
    have hended := h.ended
    have hfall : ∀ how, (d.fall how).1.guarded = true → (d.fall how).1.ended = false := by
      intro how
      rw [fall]
      split
      · exact fun h => nomatch h
      · exact fun h => absurd h ‹_›
    cases ev with
    | finish _ => exact fun h => nomatch h
    | panic => exact hfall .panicked
    | drop => exact hfall .dropped
    | leave =>
        intro hguarded
        rw [may, show d.guarded = true from hguarded, Bool.not_true, Bool.and_false] at hev
        cases hev
    | _ => exact hended
  case bare =>
    rw [future_step h hev]
    cases ev.effect task with
    | none => exact h.bare
    | some effect => exact Completion.bare_step h.bare effect
  case stored =>
    obtain ⟨hold, hd⟩ := (pending_step h hev).mp hc
    exact (remembers_step hold hd).2.2 (fun hg => h.stored hg hold) hgiven

/-- A task that ends without a result leaves its future failed, unless it was decided before. -/
theorem step_of_failure (h : Sound task d) {how : TaskEnd} (hev : d.may ev = true)
    (hf : ev.failure = some how) : (d.step task ev).1.ended = true ∧
    (d.future.state = .pending →
      (d.step task ev).1.future = ⟨.ready (.error (.taskFailed how)), none, none⟩) ∧
    (d.future.state ≠ .pending → (d.step task ev).1.future = d.future) := by
  have heffect : ev.effect task = some (.abandon how) := by
    cases ev with
    | panic | drop =>
        cases hf
        rfl
    | _ => cases hf
  have hdecides : (FutureEvent.abandon how : FutureEvent α).decides
      = some (.result (.error (.taskFailed how))) := rfl
  refine ⟨?_, fun hc => ?_, fun hc => ?_⟩
  · have hfall : ∀ how, (d.fall how).1.ended = true := by
      intro how
      rw [fall]
      split <;> rfl
    cases ev with
    | panic => exact hfall _
    | drop => exact hfall _
    | _ => cases hf
  · rw [future_step h hev, heffect]
    exact (Completion.step_of_decides hc hdecides).1
  · rw [future_step h hev, heffect]
    exact congrArg Prod.fst (Completion.step_of_done hc hdecides)

end Step

/-! ## All events -/

section Runs

variable {task : Nat} {past : List (DrivenEvent α)} {d : Driven α} {told : List Settled}

theorem Runs.sound (h : Runs task past d told) : Sound task d := by
  induction h with
  | start => exact sound_spawned task
  | step _ ev hev ih => exact ih.step hev

/-- A future that is driven goes through events like any future. -/
theorem Runs.future (h : Runs task past d told) :
    d.future = (Completion.start none).after (past.filterMap (DrivenEvent.effect task)) := by
  induction h with
  | start => rfl
  | @step past d told h ev hev ih =>
      rw [future_step h.sound hev, List.filterMap_append, Completion.after_append, ← ih,
        List.filterMap_cons]
      cases ev.effect task <;> rfl

/-- What a run has told, and whom it would wake. -/
inductive Telling (task : Nat) (d : Driven α) : List (DrivenEvent α) → List Settled → Prop where
  /-- Nothing is decided, and nothing told. -/
  | nothing {past : List (DrivenEvent α)} (hc : d.future.state = .pending)
      (hpast : ∀ ev ∈ past, ev.decides = none)
      (hwaker : d.future.waker = DrivenEvent.lastWaker past) : Telling task d past []
  /-- The first event that decides has told whoever polled last before it. -/
  | once {before : List (DrivenEvent α)} {ev : DrivenEvent α} {x : Decision α}
      (after : List (DrivenEvent α)) (hc : d.future.state ≠ .pending)
      (hbefore : ∀ ev ∈ before, ev.decides = none) (hev : ev.decides = some x) :
      Telling task d (before ++ ev :: after) [⟨DrivenEvent.lastWaker before, x.aborts task⟩]

/-- **WHAT A RUN HAS TOLD.** -/
theorem Runs.telling (h : Runs task past d told) : Telling task d past told := by
  induction h with
  | start => exact .nothing rfl (List.forall_mem_nil _) rfl
  | @step past d told h ev hev ih =>
      cases ih with
      | nothing hc hpast hwaker =>
          -- the future is pending, so this event tells if it decides
          rw [List.nil_append, told_of_pending h.sound hev hc]
          cases hd : ev.decides with
          | none =>
              refine .nothing ((pending_step h.sound hev).mpr ⟨hc, hd⟩) ?_ ?_
              · exact List.forall_mem_append.mpr ⟨hpast, List.forall_mem_singleton.mpr hd⟩
              · rw [(remembers_step hc hd).1, hwaker, DrivenEvent.lastWaker_concat]
          | some x =>
              rw [hwaker]
              refine .once [] (fun hc' => ?_) hpast hd
              cases hd.symm.trans ((pending_step h.sound hev).mp hc').2
      | once after hc hbefore hfirst =>
          -- what decided it has told, and whatever comes after it is silent
          rw [told_of_done hc, List.append_assoc]
          refine .once (after ++ [ev]) (fun hc' => ?_) hbefore hfirst
          exact hc ((pending_step h.sound hev).mp hc').1

/-- Only one way leads through some events to the first that decides. -/
theorem first_unique {before before' after after' : List (DrivenEvent α)} {ev ev' : DrivenEvent α}
    (heq : before ++ ev :: after = before' ++ ev' :: after')
    (hbefore : ∀ x ∈ before, x.decides = none) (hev : ev.decides ≠ none)
    (hbefore' : ∀ x ∈ before', x.decides = none) (hev' : ev'.decides ≠ none) :
    before = before' ∧ ev = ev' := by
  have hsplit : ∀ (xs ys : List (DrivenEvent α)) {y : DrivenEvent α},
      (∀ x ∈ xs, x.decides = none) → y.decides ≠ none →
      (xs ++ y :: ys).takeWhile (fun x => x.decides.isNone) = xs := by
    intro xs ys y hxs hy
    rw [List.takeWhile_append_of_pos fun x hx => by rw [hxs x hx]; rfl,
      List.takeWhile_cons_of_neg (by simpa using hy), List.append_nil]
  have hsame : before = before' := by
    rw [← hsplit before after hbefore hev, heq, hsplit before' after' hbefore' hev']
  subst hsame
  exact ⟨rfl, (List.cons.inj (List.append_cancel_left heq)).1⟩

end Runs

/-- **NO FUTURE IS STUCK** that is driven by a task, after these events, of which this was told. -/
structure NeverStuck (task : Nat) (past : List (DrivenEvent α)) (d : Driven α)
    (told : List Settled) : Prop where
  /-- The task of a pending future has not ended, and has the guard. -/
  manned : d.future.state = .pending → d.ended = false ∧ d.guarded = true
  /-- A task that ends without a result leaves its future failed, unless it was decided before. -/
  failed : ∀ ev how, d.may ev = true → ev.failure = some how →
    (d.step task ev).1.ended = true ∧
    (d.future.state = .pending →
      (d.step task ev).1.future = ⟨.ready (.error (.taskFailed how)), none, none⟩) ∧
    (d.future.state ≠ .pending → (d.step task ev).1.future = d.future)
  /-- The first event that decides says what the future has come to. -/
  state : Completion.Tells d.future.state (past.findSome? DrivenEvent.decides)
    (AskedSince none (past.filterMap (DrivenEvent.effect task)))
  /-- Only a pending future remembers whom to wake and what to abort. -/
  bare : d.future.state ≠ .pending → d.future.waker = none ∧ d.future.task = none
  /-- What to abort is known as long as it is pending, from when it was given away. -/
  stored : d.given = true → d.future.state = .pending → d.future.task = some task
  silent : (∀ ev ∈ past, ev.decides = none) → told = []
  /-- Whoever polled last before it was decided has been woken, and nobody else; the task has been
      aborted if a cancel decided it. -/
  once : ∀ before ev x after, past = before ++ ev :: after →
    (∀ y ∈ before, y.decides = none) → ev.decides = some x →
    told = [⟨DrivenEvent.lastWaker before, x.aborts task⟩]

variable {task : Nat} {past : List (DrivenEvent α)} {d : Driven α} {told : List Settled}

/-- **NO FUTURE IS STUCK THAT IS DRIVEN**, in whatever order events come. -/
theorem Runs.neverStuck (h : Runs task past d told) : NeverStuck task past d told := by
  have hsound := h.sound
  refine
    { manned := fun hc => ⟨hsound.ended (hsound.guarded hc), hsound.guarded hc⟩
      failed := fun ev how hev hf => step_of_failure hsound hev hf
      state := ?state
      bare := hsound.bare
      stored := hsound.stored
      silent := fun hpast => ?silent
      once := ?once }
  case state =>
    have htells := Completion.state_after none (past.filterMap (DrivenEvent.effect task))
    rw [← h.future, decision, DrivenEvent.findSome_effect] at htells
    exact htells
  case silent =>
    cases h.telling with
    | nothing => rfl
    | once after hc hbefore hev =>
        rw [hpast _ (List.mem_append_right _ List.mem_cons_self)] at hev
        cases hev
  case once =>
    rintro before ev x after rfl hbefore hev
    generalize hwhole : before ++ ev :: after = past at h
    cases h.telling with
    | nothing hc hpast hwaker =>
        rw [hpast ev (hwhole ▸ List.mem_append_right _ List.mem_cons_self)] at hev
        cases hev
    | once after' hc hbefore' hev' =>
        obtain ⟨rfl, rfl⟩ := first_unique hwhole hbefore (by simp [hev]) hbefore' (by simp [hev'])
        cases hev.symm.trans hev'
        rfl

end Driven

end Courier
