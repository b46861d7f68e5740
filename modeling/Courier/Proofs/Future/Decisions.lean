import Courier.Completion
import Mathlib.Data.List.Induction

/-!
# Decisions — a future is decided once

Many may want to decide a future: the task that drives it, the guard that speaks for a task which is
no more, and everyone who may cancel it.  The first of them does.  What has been decided, and
whether someone has asked since, are facts about the events so far (`decision`, `AskedSince`); the
state of a future is nothing but these two facts (`state_after`), and so they tell all the answers.
-/

namespace Courier

variable {α : Type}

/-- What a future may come to: a result, or a cancel. -/
inductive Decision (α : Type) where
  | result (result : Outcome α)
  | cancel

/-- What can happen to a future.  A wait stands in the order of events where it returns, or where it
    finds that it has to go on waiting. -/
inductive FutureEvent (α : Type) where
  /-- The task that drives it is known. -/
  | attach (task : Nat)
  /-- Its task has a result. -/
  | finish (result : Outcome α)
  /-- Its task ended without one. -/
  | abandon (how : TaskEnd)
  /-- Someone cancels it, through the future itself or a handle. -/
  | cancel
  | poll (waker : Nat)
  | wait
  | waitTimeout

namespace FutureEvent

/-- What an event would decide. -/
def decides : FutureEvent α → Option (Decision α)
  | finish result => some (.result result)
  | abandon how => some (.result (.error (.taskFailed how)))
  | cancel => some .cancel
  | _ => none

/-- Whether an event asks for the result. -/
def asks : FutureEvent α → Bool
  | poll _ | wait | waitTimeout => true
  | _ => false

/-- Whoever asks polls, or waits. -/
theorem asks_cases {ev : FutureEvent α} (h : ev.asks = true) :
    (∃ waker, ev = .poll waker) ∨ ev = .wait ∨ ev = .waitTimeout := by
  cases ev with
  | poll waker => exact Or.inl ⟨waker, rfl⟩
  | wait => exact Or.inr (Or.inl rfl)
  | waitTimeout => exact Or.inr (Or.inr rfl)
  | attach _ | finish _ | abandon _ | cancel => cases h

/-- Whatever would decide a future is a result, the word of a guard, or a cancel. -/
theorem decides_cases {ev : FutureEvent α} {d : Decision α} (h : ev.decides = some d) :
    (∃ result, ev = .finish result) ∨ (∃ how, ev = .abandon how) ∨ ev = .cancel := by
  cases ev with
  | finish result => exact Or.inl ⟨result, rfl⟩
  | abandon how => exact Or.inr (Or.inl ⟨how, rfl⟩)
  | cancel => exact Or.inr (Or.inr rfl)
  | attach _ | poll _ | wait | waitTimeout => cases h

/-- No event both decides and asks. -/
theorem asks_of_decides {ev : FutureEvent α} {d : Decision α} (h : ev.decides = some d) :
    ev.asks = false := by
  rcases decides_cases h with ⟨result, rfl⟩ | ⟨how, rfl⟩ | rfl <;> rfl

end FutureEvent

/-- What is told of an event. -/
inductive FutureReply (α : Type) where
  | nothing
  /-- Whether the event decided the future. -/
  | decided (first : Bool)
  /-- It is not decided yet. -/
  | pending
  /-- The result that is handed out. -/
  | gave (result : Outcome α)

namespace FutureReply

/-- What is told to someone who asks. -/
def ofAnswer : Option (Outcome α) → FutureReply α
  | none => pending
  | some result => gave result

/-- Whether it is told that the event decided the future. -/
def isFirst : FutureReply α → Bool
  | decided first => first
  | _ => false

end FutureReply

/-- What has been decided by some events, for a future that had a result from the start, or none. -/
def decision (born : Option (Outcome α)) (events : List (FutureEvent α)) : Option (Decision α) :=
  (born.map .result).or (events.findSome? FutureEvent.decides)

/-- Someone asked for the result after it was decided. -/
def AskedSince (born : Option (Outcome α)) (events : List (FutureEvent α)) : Prop :=
  ∃ earlier ev later, events = earlier ++ ev :: later ∧ ev.asks = true ∧
    (decision born earlier).isSome = true

section Decisions

variable {born : Option (Outcome α)} {events : List (FutureEvent α)} {d : Decision α}

theorem decision_append (born : Option (Outcome α)) (events later : List (FutureEvent α)) :
    decision born (events ++ later)
      = (decision born events).or (later.findSome? FutureEvent.decides) := by
  rw [decision, decision, List.findSome?_append, Option.or_assoc]

/-- What has been decided stands. -/
theorem decision_stands (h : decision born events = some d) (later : List (FutureEvent α)) :
    decision born (events ++ later) = some d := by
  rw [decision_append, h]
  rfl

theorem decision_concat (born : Option (Outcome α)) (events : List (FutureEvent α))
    (ev : FutureEvent α) :
    decision born (events ++ [ev]) = (decision born events).or ev.decides := by
  rw [decision_append, List.findSome?_cons]
  cases ev.decides <;> rfl

theorem not_askedSince_nil : ¬ AskedSince born [] := by
  rintro ⟨earlier, ev, later, h, -⟩
  exact List.append_ne_nil_of_right_ne_nil earlier (List.cons_ne_nil ev later) h.symm

theorem askedSince_concat {ev : FutureEvent α} :
    AskedSince born (events ++ [ev]) ↔
      AskedSince born events ∨ (ev.asks = true ∧ (decision born events).isSome = true) := by
  constructor
  · rintro ⟨earlier, x, later, h, hx, hd⟩
    rcases List.eq_nil_or_concat later with rfl | ⟨later, y, rfl⟩
    · obtain ⟨rfl, hxs⟩ := List.append_inj' h rfl
      cases hxs
      exact Or.inr ⟨hx, hd⟩
    · rw [List.concat_eq_append, ← List.cons_append, ← List.append_assoc] at h
      obtain ⟨rfl, -⟩ := List.append_inj' h rfl
      exact Or.inl ⟨earlier, x, later, rfl, hx, hd⟩
  · rintro (⟨earlier, x, later, rfl, hx, hd⟩ | ⟨hx, hd⟩)
    · exact ⟨earlier, x, later ++ [ev], by simp, hx, hd⟩
    · exact ⟨events, ev, [], rfl, hx, hd⟩

end Decisions

namespace Completion

/-- A future that has a result from the start, or none. -/
def start : Option (Outcome α) → Completion α
  | none => pending
  | some result => decided result

/-- Lets an event happen. -/
def step (c : Completion α) : FutureEvent α → Completion α × FutureReply α
  | .attach task => (c.attach task, .nothing)
  | .finish result => ((c.complete result).1, .decided (c.complete result).2.isSome)
  | .abandon how =>
    ((c.complete (.error (.taskFailed how))).1,
      .decided (c.complete (.error (.taskFailed how))).2.isSome)
  | .cancel => (c.cancel.1, .decided c.cancel.2.isSome)
  | .poll waker => ((c.poll waker).1, .ofAnswer (c.poll waker).2)
  | .wait => (c.wait.1, .ofAnswer c.wait.2)
  | .waitTimeout => (c.waitTimeout.1, .gave c.waitTimeout.2)

/-- The future after some events. -/
def after (c : Completion α) (events : List (FutureEvent α)) : Completion α :=
  events.foldl (fun c ev => (c.step ev).1) c

/-- The events, each with what is told of it. -/
def replies : Completion α → List (FutureEvent α) → List (FutureEvent α × FutureReply α)
  | _, [] => []
  | c, ev :: rest => (ev, (c.step ev).2) :: replies (c.step ev).1 rest

theorem after_append (c : Completion α) (events later : List (FutureEvent α)) :
    c.after (events ++ later) = (c.after events).after later :=
  List.foldl_append

theorem replies_append (c : Completion α) (events later : List (FutureEvent α)) :
    c.replies (events ++ later) = c.replies events ++ (c.after events).replies later := by
  induction events generalizing c with
  | nil => rfl
  | cons ev rest ih => exact congrArg (_ :: ·) (ih (c.step ev).1)

/-! ## One event -/

section Step

variable {c : Completion α} {result : Outcome α}

/-- Nothing is decided by an event that finds a future decided. -/
theorem step_of_done (hc : c.state ≠ .pending) {ev : FutureEvent α} {d : Decision α}
    (hev : ev.decides = some d) : c.step ev = (c, .decided false) := by
  obtain ⟨state, waker, task⟩ := c
  rcases FutureEvent.decides_cases hev with ⟨result, rfl⟩ | ⟨how, rfl⟩ | rfl
  all_goals
    cases state with
    | pending => exact absurd rfl hc
    | ready _ | cancelled | taken => rfl

/-- The state that a decision leads to. -/
def stateOf : Decision α → FutureState α
  | .result result => .ready result
  | .cancel => .cancelled

/-- An event that decides a pending future. -/
theorem step_of_decides (hc : c.state = .pending) {ev : FutureEvent α} {d : Decision α}
    (hev : ev.decides = some d) :
    (c.step ev).1 = ⟨stateOf d, none, none⟩ ∧ (c.step ev).2 = .decided true := by
  obtain ⟨state, waker, task⟩ := c
  cases hc
  rcases FutureEvent.decides_cases hev with ⟨result, rfl⟩ | ⟨how, rfl⟩ | rfl
  all_goals
    cases hev
    exact ⟨rfl, rfl⟩

/-- Whoever asks too early is told to wait, and nothing is consumed. -/
theorem step_of_pending (hc : c.state = .pending) :
    (∀ waker, c.step (.poll waker) = ({ c with waker := some waker }, .pending)) ∧
      c.step .wait = (c, .pending) ∧ c.step .waitTimeout = (c, .gave (.error .waitTimeout)) := by
  obtain ⟨state, waker, task⟩ := c
  cases hc
  exact ⟨fun _ => rfl, rfl, rfl⟩

/-- A cancel is told to everyone who asks. -/
theorem step_of_cancelled (hc : c.state = .cancelled) {ev : FutureEvent α}
    (hev : ev.asks = true) : c.step ev = (c, .gave (.error .cancelled)) := by
  obtain ⟨state, waker, task⟩ := c
  cases hc
  rcases FutureEvent.asks_cases hev with ⟨waker, rfl⟩ | rfl | rfl <;> rfl

/-- A result is handed out. -/
theorem step_of_ready (hc : c.state = .ready result) {ev : FutureEvent α}
    (hev : ev.asks = true) : c.step ev = ({ c with state := .taken }, .gave result) := by
  obtain ⟨state, waker, task⟩ := c
  cases hc
  rcases FutureEvent.asks_cases hev with ⟨waker, rfl⟩ | rfl | rfl <;> rfl

/-- A result that was handed out is not there any more. -/
theorem step_of_taken (hc : c.state = .taken) {ev : FutureEvent α} (hev : ev.asks = true) :
    c.step ev = (c, .gave (.error .taken)) := by
  obtain ⟨state, waker, task⟩ := c
  cases hc
  rcases FutureEvent.asks_cases hev with ⟨waker, rfl⟩ | rfl | rfl <;> rfl

/-- Asking a pending future leaves it pending. -/
theorem state_step_of_pending (hc : c.state = .pending) {ev : FutureEvent α}
    (hev : ev.asks = true) : (c.step ev).1.task = c.task ∧ (c.step ev).1.state = .pending := by
  obtain ⟨state, waker, task⟩ := c
  cases hc
  rcases FutureEvent.asks_cases hev with ⟨waker, rfl⟩ | rfl | rfl <;> exact ⟨rfl, rfl⟩

/-- Asking takes a result at most. -/
theorem step_of_asks (c : Completion α) {ev : FutureEvent α} (hev : ev.asks = true) :
    (c.step ev).1.task = c.task ∧ ((c.step ev).1.state = c.state ∨
      ∃ result, c.state = .ready result ∧ (c.step ev).1.state = .taken) := by
  cases hc : c.state with
  | pending => exact (state_step_of_pending hc hev).imp id Or.inl
  | ready result =>
      rw [step_of_ready hc hev]
      exact ⟨rfl, Or.inr ⟨result, rfl, rfl⟩⟩
  | cancelled =>
      rw [step_of_cancelled hc hev]
      exact ⟨rfl, Or.inl hc⟩
  | taken =>
      rw [step_of_taken hc hev]
      exact ⟨rfl, Or.inl hc⟩

/-- An event that neither decides nor asks leaves the state as it is. -/
theorem state_step_of_neither {ev : FutureEvent α} (hd : ev.decides = none)
    (ha : ev.asks = false) : (c.step ev).1.state = c.state := by
  cases ev with
  | attach task =>
      show (c.attach task).state = c.state
      rw [attach]
      split <;> rfl
  | finish _ | abandon _ | cancel => cases hd
  | poll _ | wait | waitTimeout => cases ha

/-- What decided a future no event takes back: it is as it was, or its result was handed out. -/
theorem state_step_of_done (hc : c.state ≠ .pending) (ev : FutureEvent α) :
    (c.step ev).1.state = c.state ∨
      ∃ result, c.state = .ready result ∧ (c.step ev).1.state = .taken := by
  cases hd : ev.decides with
  | some d =>
      rw [step_of_done hc hd]
      exact Or.inl rfl
  | none =>
      cases ha : ev.asks with
      | true => exact (c.step_of_asks ha).2
      | false => exact Or.inl (state_step_of_neither hd ha)

/-- Nobody is told of a decision but by an event that decides. -/
theorem isFirst_of_decides {ev : FutureEvent α} (hd : ev.decides = none) :
    (c.step ev).2.isFirst = false := by
  cases ev with
  | attach task => rfl
  | poll waker =>
      show (FutureReply.ofAnswer _).isFirst = false
      cases (c.poll waker).2 <;> rfl
  | wait =>
      show (FutureReply.ofAnswer _).isFirst = false
      cases c.wait.2 <;> rfl
  | waitTimeout => rfl
  | finish _ | abandon _ | cancel => cases hd

end Step

/-! ## All events -/

/-- A future that is decided stays decided, and one that is cancelled stays cancelled. -/
theorem after_of_done {c : Completion α} (hc : c.state ≠ .pending)
    (events : List (FutureEvent α)) : (c.after events).state ≠ .pending ∧
      (c.state = .cancelled → (c.after events).state = .cancelled) := by
  induction events generalizing c with
  | nil => exact ⟨hc, id⟩
  | cons ev rest ih =>
      rcases state_step_of_done hc ev with hsame | ⟨result, hready, htaken⟩
      · have hrest := ih (hsame ▸ hc)
        rw [hsame] at hrest
        exact hrest
      · have hrest := ih (c := (c.step ev).1) (by simp [htaken])
        exact ⟨hrest.1, fun h => nomatch hready.symm.trans h⟩

/-- The state of a future says what was decided, and whether someone has asked since. -/
inductive Tells : FutureState α → Option (Decision α) → Prop → Prop where
  | pending {asked : Prop} : ¬ asked → Tells .pending none asked
  | ready {asked : Prop} (result : Outcome α) : ¬ asked →
      Tells (.ready result) (some (.result result)) asked
  | taken {asked : Prop} (result : Outcome α) : asked →
      Tells .taken (some (.result result)) asked
  | cancelled {asked : Prop} : Tells .cancelled (some .cancel) asked

variable {born : Option (Outcome α)} {events : List (FutureEvent α)}

/-- **THE STATE OF A FUTURE IS ITS DECISION**, and whether it was handed out. -/
theorem state_after (born : Option (Outcome α)) (events : List (FutureEvent α)) :
    Tells ((start born).after events).state (decision born events) (AskedSince born events) := by
  induction events using List.reverseRecOn with
  | nil =>
      cases born with
      | none => exact .pending not_askedSince_nil
      | some result => exact .ready result not_askedSince_nil
  | append_singleton events ev ih =>
      rw [after_append, decision_concat, askedSince_concat]
      show Tells (((start born).after events).step ev).1.state _ _
      generalize hc : (start born).after events = c at ih ⊢
      cases hev : ev.decides with
      | some d =>
          -- the event decides, unless something was decided before
          rw [FutureEvent.asks_of_decides hev]
          generalize hstate : c.state = state at ih
          generalize hdecided : decision born events = decided at ih ⊢
          cases ih with
          | pending hn =>
              rw [(step_of_decides hstate hev).1]
              have hn' : ¬ (AskedSince born events ∨
                  (false = true ∧ (none : Option (Decision α)).isSome = true)) := by simpa using hn
              cases d with
              | result result => exact .ready result hn'
              | cancel => exact .cancelled
          | ready result hn =>
              rw [step_of_done (by rw [hstate]; simp) hev, hstate]
              exact .ready result (by simpa using hn)
          | taken result ha =>
              rw [step_of_done (by rw [hstate]; simp) hev, hstate]
              exact .taken result (Or.inl ha)
          | cancelled =>
              rw [step_of_done (by rw [hstate]; simp) hev, hstate]
              exact .cancelled
      | none =>
          -- it decides nothing, but whoever asks takes the result with it
          rw [Option.or_none]
          cases hask : ev.asks with
          | false =>
              rw [state_step_of_neither hev hask]
              simpa using ih
          | true =>
              generalize hstate : c.state = state at ih
              generalize hdecided : decision born events = decided at ih ⊢
              cases ih with
              | pending hn =>
                  rw [(state_step_of_pending hstate hask).2]
                  exact .pending (by simpa using hn)
              | ready result hn =>
                  rw [step_of_ready hstate hask]
                  exact .taken result (Or.inr ⟨rfl, rfl⟩)
              | taken result ha =>
                  rw [step_of_taken hstate hask, hstate]
                  exact .taken result (Or.inl ha)
              | cancelled =>
                  rw [step_of_cancelled hstate hask, hstate]
                  exact .cancelled

/-- It is told at most once that a future was decided, and not at all if it was from the start. -/
theorem countP_isFirst (born : Option (Outcome α)) (events : List (FutureEvent α)) :
    ((start born).replies events).countP (fun x => x.2.isFirst)
      = if born.isNone && (decision born events).isSome then 1 else 0 := by
  induction events using List.reverseRecOn with
  | nil => cases born <;> rfl
  | append_singleton events ev ih =>
      rw [replies_append, List.countP_append, ih, decision_concat]
      have htells := state_after born events
      show _ + List.countP _ [(ev, (((start born).after events).step ev).2)] = _
      generalize (start born).after events = c at htells ⊢
      rw [List.countP_singleton]
      generalize hstate : c.state = state at htells
      -- the latest event is told so only if it would decide, and nothing before it did
      cases hev : ev.decides with
      | some d =>
          cases hdecided : decision born events with
          | none =>
              rw [hdecided] at htells
              cases htells
              rw [(step_of_decides hstate hev).2]
              cases born with
              | none => rfl
              | some result => cases hdecided
          | some d' =>
              rw [hdecided] at htells
              have hne : c.state ≠ .pending := by
                rw [hstate]
                cases htells <;> simp
              rw [step_of_done hne hev]
              rfl
      | none =>
          rw [isFirst_of_decides hev, Option.or_none]
          rfl

end Completion

/-! ## What a future tells -/

/-- **WHAT A FUTURE TELLS**, that had a result from the start or none, when these events have
    happened. -/
structure Told (born : Option (Outcome α)) (events : List (FutureEvent α)) : Prop where
  done : ((Completion.start born).after events).isDone = (decision born events).isSome
  cancelled : ((Completion.start born).after events).isCancelled = true ↔
    decision born events = some .cancel
  /-- An event that would decide it does so if nothing has, and is nothing otherwise. -/
  decides : ∀ ev d, ev.decides = some d →
    (((Completion.start born).after events).step ev).2 = .decided (decision born events).isNone ∧
    ((decision born events).isSome = true →
      (((Completion.start born).after events).step ev).1 = (Completion.start born).after events)
  /-- Over the whole life it is told once that an event has decided it, or never. -/
  once : ((Completion.start born).replies events).countP (fun x => x.2.isFirst)
    = if born.isNone && (decision born events).isSome then 1 else 0
  stands : ∀ d, decision born events = some d → ∀ later, decision born (events ++ later) = some d
  /-- Whoever asks before the decision is told to wait, and consumes nothing. -/
  early : decision born events = none →
    (∀ waker, ((Completion.start born).after events).step (.poll waker)
      = ({ (Completion.start born).after events with waker := some waker }, .pending)) ∧
    ((Completion.start born).after events).step .wait
      = ((Completion.start born).after events, .pending) ∧
    ((Completion.start born).after events).step .waitTimeout
      = ((Completion.start born).after events, .gave (.error .waitTimeout))
  /-- Whoever asks first after the decision is told the result. -/
  handedOut : ∀ result, decision born events = some (.result result) → ¬ AskedSince born events →
    ∀ ev, ev.asks = true → (((Completion.start born).after events).step ev).2 = .gave result
  /-- Whoever asks later is told that it was taken. -/
  taken : ∀ result, decision born events = some (.result result) → AskedSince born events →
    ∀ ev, ev.asks = true → ((Completion.start born).after events).step ev
      = ((Completion.start born).after events, .gave (.error .taken))
  /-- A cancel is told to everyone who asks. -/
  afterCancel : decision born events = some .cancel → ∀ ev, ev.asks = true →
    ((Completion.start born).after events).step ev
      = ((Completion.start born).after events, .gave (.error .cancelled))

namespace Completion

/-- **EVERY FUTURE TELLS THIS**, whatever the events and their order. -/
theorem told (born : Option (Outcome α)) (events : List (FutureEvent α)) : Told born events := by
  have htells := state_after born events
  refine
    { done := ?done
      cancelled := ?cancelled
      decides := ?decides
      once := countP_isFirst born events
      stands := fun d hd later => decision_stands hd later
      early := ?early
      handedOut := ?handedOut
      taken := ?taken
      afterCancel := ?afterCancel }
  -- all that is said of the future is said of its state, the decision, and whether anyone has asked
  all_goals
    generalize (start born).after events = c at htells ⊢
    generalize hstate : c.state = state at htells
    generalize decision born events = decided at htells ⊢
  case done =>
    rw [isDone, isPending, hstate]
    cases htells <;> rfl
  case cancelled =>
    rw [isCancelled, hstate]
    cases htells <;> simp
  case decides =>
    intro ev d hev
    cases htells with
    | pending hn => exact ⟨(step_of_decides hstate hev).2, fun h => by cases h⟩
    | ready result hn =>
        rw [step_of_done (by rw [hstate]; simp) hev]
        exact ⟨rfl, fun _ => rfl⟩
    | taken result ha =>
        rw [step_of_done (by rw [hstate]; simp) hev]
        exact ⟨rfl, fun _ => rfl⟩
    | cancelled =>
        rw [step_of_done (by rw [hstate]; simp) hev]
        exact ⟨rfl, fun _ => rfl⟩
  case early =>
    rintro rfl
    cases htells
    exact step_of_pending hstate
  case handedOut =>
    rintro result rfl hnot ev hev
    cases htells with
    | ready result hn => rw [step_of_ready hstate hev]
    | taken result ha => exact absurd ha hnot
  case taken =>
    rintro result rfl hasked ev hev
    cases htells with
    | ready result hn => exact absurd hasked hn
    | taken result ha => exact step_of_taken hstate hev
  case afterCancel =>
    rintro rfl ev hev
    cases htells
    exact step_of_cancelled hstate hev

end Completion

end Courier
