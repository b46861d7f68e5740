import Courier.Attempt.Progress

/-!
# Timings — the phases of an attempt that has ended

Whatever a transport reports, and in whatever order, the timings of an attempt are lifted when it
ends, and left alone after that.  So the timings of an attempt that has ended never decrease from
one phase to the next (`ProgressTimer.Steady.isMonotonic_at_end`).
-/

namespace Courier

namespace Progress

/-- **SETTLED TIMINGS NEVER DECREASE.** -/
theorem isMonotonic_settle (p : Progress) : p.settle.isMonotonic = true := by
  have hlifted : ∀ a b : Nat, decide (b ≤ max a b) = true :=
    fun a b => decide_eq_true (Nat.le_max_right a b)
  simp only [settle, isMonotonic, Bool.and_eq_true]
  exact ⟨⟨⟨hlifted _ _, hlifted _ _⟩, hlifted _ _⟩, hlifted _ _⟩

end Progress

namespace ProgressTimer

/-- A timer that has finished has timings that never decrease. -/
def Steady (t : ProgressTimer) : Prop :=
  t.finished = true → t.progress.isMonotonic = true

variable {t : ProgressTimer}

theorem steady_start (now : Nat) : (start now).Steady :=
  fun h => nomatch h

/-- Only the end of an attempt finishes its timer, and it settles the timings. -/
theorem Steady.onEvent (h : t.Steady) (now : Nat) (e : Event) : (t.onEvent now e).Steady := by
  rw [ProgressTimer.onEvent]
  split
  · exact h
  · rename_i hrunning
    split
    · exact steady_start now
    · dsimp only
      split
      · exact fun _ => Progress.isMonotonic_settle _
      · exact fun hfinished => absurd hfinished hrunning

/-- The end of an attempt finishes its timer, if nothing has. -/
theorem finished_at_end (now : Nat) {e : Event} (he : e.isTerminal = true) :
    (t.onEvent now e).finished = true := by
  rw [ProgressTimer.onEvent]
  split
  · assumption
  · cases e with
    | completed | failed => rfl
    | _ => cases he

/-- **THE TIMINGS OF AN ATTEMPT THAT HAS ENDED NEVER DECREASE.** -/
theorem Steady.isMonotonic_at_end (h : t.Steady) (now : Nat) {e : Event}
    (he : e.isTerminal = true) : (t.onEvent now e).progress.isMonotonic = true :=
  h.onEvent now e (finished_at_end now he)

end ProgressTimer

end Courier
