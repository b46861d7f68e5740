import Courier.Client

/-!
# Runs — everything that can happen to an engine

Turns of tasks, ticks of the clocks, and what callers do between them, in any order.  Whichever task
of the queue comes next is for the scheduler to say, and nothing is assumed of it: every order of
turns is some list of events.  Advancing an engine is one such list (`advance_eq_steps`).
-/

namespace Courier

variable {α : Type}

/-- What can happen to an engine. -/
inductive EngineEvent (α : Type) where
  /-- A task has its turn, if it is in the queue. -/
  | turn (task : Nat)
  /-- The clocks move by one step. -/
  | tick
  | startCleaner
  | stopCleaner
  | execute (request : Request)
  | criticalExecuteWith (request : Request) (handler : Handler α)
  | drive (work : Program (Outcome α))
  | decide (result : Outcome α)
  | lookup (request : Request)
  | cancel (future : Nat)
  | pollFuture (future waker : Nat)
  | waitFuture (future : Nat)
  | invalidate (request : Request)
  | invalidateAll
  | cleanup
  | close
  | shutdown

namespace Engine

/-- Lets an event happen. -/
def step (e : Engine α) : EngineEvent α → Engine α
  | .turn task => e.turn task
  | .tick => e.tick
  | .startCleaner => e.startCleaner
  | .stopCleaner => e.stopCleaner
  | .execute r => (e.execute r).1
  | .criticalExecuteWith r handler => (e.criticalExecuteWith r handler).1
  | .drive work => (e.driveFuture work).1
  | .decide result => (e.decidedFuture result).1
  | .lookup r => (e.lookup r).1
  | .cancel future => (e.cancel future).1
  | .pollFuture future waker => (e.pollFuture future waker).1
  | .waitFuture future => (e.waitFuture future).1
  | .invalidate r => e.invalidate r
  | .invalidateAll => e.invalidateAll
  | .cleanup => e.cleanup.1
  | .close => e.close
  | .shutdown => e.shutdown

/-- Lets events happen one after the other. -/
def steps (e : Engine α) (events : List (EngineEvent α)) : Engine α :=
  events.foldl step e

/-- Events one after the other. -/
theorem steps_append (e : Engine α) (before after : List (EngineEvent α)) :
    e.steps (before ++ after) = (e.steps before).steps after :=
  List.foldl_append

/-- To let everybody have their turns is a list of events. -/
theorem drain_eq_steps (fuel : Nat) (e : Engine α) : ∃ events, drain fuel e = e.steps events := by
  induction fuel generalizing e with
  | zero => exact ⟨[], rfl⟩
  | succ fuel ih =>
      rw [drain]
      split
      · exact ⟨[], rfl⟩
      · rename_i task _ _
        obtain ⟨events, h⟩ := ih (e.turn task)
        exact ⟨.turn task :: events, h⟩

/-- To let the clocks move, with the turns in between, is one too. -/
theorem ticks_eq_steps (n : Nat) (e : Engine α) : ∃ events, ticks n e = e.steps events := by
  induction n generalizing e with
  | zero => exact ⟨[], rfl⟩
  | succ n ih =>
      obtain ⟨settling, hs⟩ := drain_eq_steps _ e.tick
      obtain ⟨events, h⟩ := ih e.tick.settle
      refine ⟨.tick :: settling ++ events, ?_⟩
      rw [ticks, h, steps_append]
      exact congrArg (fun e => e.steps events) hs

/-- **ADVANCING AN ENGINE IS SOME TURNS AND TICKS.** -/
theorem advance_eq_steps (n : Nat) (e : Engine α) : ∃ events, e.advance n = e.steps events := by
  obtain ⟨settling, hs⟩ := drain_eq_steps _ e
  obtain ⟨events, h⟩ := ticks_eq_steps n e.settle
  refine ⟨settling ++ events, ?_⟩
  rw [advance, h, steps_append]
  exact congrArg (fun e => e.steps events) hs

end Engine

end Courier
