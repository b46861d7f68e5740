import Courier.Engine
import Courier.Proofs.Program.Stages

/-!
# Timing — a program between two looks at the clock

A load runs the program of its loader between two looks at the clock.  What is left of it after any
of its turns is what is left of the loader's own program, and the second look (`TimedAs`), and where
the one stops the other does: with the same value, with the same panic, or both go on
(`TimedAs.run`).  Behind this stands how two programs in a row run (`run_bind`).
-/

namespace Courier

variable {β γ : Type}

namespace Program

/-- Goes on with a second program where the first one stops. -/
def resume (parts : Parts) (n : Nat) (k : β → Program γ) :
    Ledger × Stopped β → Ledger × Stopped γ
  | (l, .done value) => (k value).run parts n l
  | (l, .panicked text) => (l, .panicked text)
  | (l, .stalled) => (l, .stalled)
  | (l, .asleep due next) => (l, .asleep due (next.bind k))
  | (l, .queued next) => (l, .queued (next.bind k))

/-- **TWO PROGRAMS IN A ROW** run as the first, and go on with the second where that has its value. -/
theorem run_bind (parts : Parts) (n : Nat) (l : Ledger) (p : Program β) (k : β → Program γ) :
    (p.bind k).run parts n l = resume parts n k (p.run parts n l) := by
  induction p generalizing l with
  | done value => rfl
  | panic text => rfl
  | stall => rfl
  | note what next ih => exact ih _
  | clock next ih => exact ih _ l
  | sleep length next ih =>
      rw [bind, run, run]
      split
      · exact ih l
      · rfl
  | pause attempt next ih =>
      rw [bind, run, run]
      dsimp only
      split
      · exact ih _
      · rfl
  | closed next ih => exact ih _ l
  | slot next ih =>
      rw [bind, run, run]
      split
      · exact ih _ _
      · exact ih _ _
      · rfl
  | call request next ih => exact ih _ _
  | answered next ih => exact ih _
  | record r next ih => exact ih _ _

/-- A program that is timed since a moment. -/
def timedSince (start : Moment) (p : Program β) : Program (β × Duration) :=
  p.bind fun b => .clock fun stop => .done (b, ⟨stop.elapsed - start.elapsed⟩)

/-- What is left of a program that is timed, given what is left of the program: all of both, or the
    rest of both. -/
inductive TimedAs (p : Program β) : Program (β × Duration) → Prop where
  | fresh : TimedAs p p.timed
  | since (start : Moment) : TimedAs p (p.timedSince start)

variable {p : Program β} {work : Program (β × Duration)}

/-- A program that is timed stops where the program stops: with the same value, with the same panic,
    or both go on. -/
inductive StopsAs : Stopped β → Stopped (β × Duration) → Prop where
  | done (value : β) (length : Duration) : StopsAs (.done value) (.done (value, length))
  | panicked (text : String) : StopsAs (.panicked text) (.panicked text)
  | goesOn {stopped : Stopped β} {timed : Stopped (β × Duration)} {p : Program β}
      {work : Program (β × Duration)} (hp : stopped.rest? = some p) (hwork : timed.rest? = some work)
      (h : TimedAs p work) : StopsAs stopped timed

section StopsAs

variable {stopped : Stopped β} {timed : Stopped (β × Duration)}

/-- What times a program comes to no value but that of the program. -/
theorem StopsAs.of_done {value : β × Duration} (h : StopsAs stopped (.done value)) :
    stopped = .done value.1 := by
  cases h with
  | done => rfl
  | goesOn hp hwork => cases hwork

theorem StopsAs.of_panicked {text : String} (h : StopsAs stopped (.panicked text)) :
    stopped = .panicked text := by
  cases h with
  | panicked => rfl
  | goesOn hp hwork => cases hwork

theorem StopsAs.of_rest (h : StopsAs stopped timed) (hwork : timed.rest? = some work) :
    ∃ p, stopped.rest? = some p ∧ TimedAs p work := by
  cases h with
  | done | panicked => cases hwork
  | goesOn hp hwork' ht =>
      cases hwork'.symm.trans hwork
      exact ⟨_, hp, ht⟩

/-- Where the program comes to a value, so does what times it. -/
theorem StopsAs.timed_done {value : β} (h : StopsAs (.done value) timed) :
    ∃ length, timed = .done (value, length) := by
  cases h with
  | done => exact ⟨_, rfl⟩
  | goesOn hp => cases hp

theorem StopsAs.timed_panicked {text : String} (h : StopsAs (.panicked text) timed) :
    timed = .panicked text := by
  cases h with
  | panicked => rfl
  | goesOn hp => cases hp

end StopsAs

theorem stopsAs_since (parts : Parts) (n : Nat) (l : Ledger) (p : Program β) (start : Moment) :
    ((p.timedSince start).run parts n l).1 = (p.run parts n l).1 ∧
      StopsAs (p.run parts n l).2 ((p.timedSince start).run parts n l).2 := by
  rw [timedSince, run_bind]
  generalize p.run parts n l = result
  obtain ⟨l', stopped⟩ := result
  cases stopped with
  | done value => exact ⟨rfl, .done _ _⟩
  | panicked text => exact ⟨rfl, .panicked text⟩
  | stalled => exact ⟨rfl, .goesOn rfl rfl (.since start)⟩
  | asleep due next => exact ⟨rfl, .goesOn rfl rfl (.since start)⟩
  | queued next => exact ⟨rfl, .goesOn rfl rfl (.since start)⟩

/-- **WHAT IS TIMED RUNS LIKE WHAT IT TIMES**, and leaves the same behind. -/
theorem TimedAs.run (h : TimedAs p work) (parts : Parts) (n : Nat) (l : Ledger) :
    (work.run parts n l).1 = (p.run parts n l).1 ∧
      StopsAs (p.run parts n l).2 (work.run parts n l).2 := by
  cases h with
  | fresh => exact stopsAs_since parts n l p l.now
  | since start => exact stopsAs_since parts n l p start

end Program

end Courier
