import Courier.Proofs.Program.Sinks
import Courier.Proofs.Program.Timing

/-!
# Maps — a program whose value is changed

A program does what it does, and what becomes of its value is another matter: to change the value of
a program (`Program.map`) changes nothing of what it says or asks for, in any conversation
(`Program.goes_map_iff`), nor of how it runs, alone (`Program.play_map`), for one turn
(`Program.run_map`), and turn by turn beside others (`Program.lives_map`).  To go on with a second
program changes what comes after the value, and nothing before it: alone (`Program.play_bind`), and
turn by turn where the second program has no need to wait (`Program.lives_bind`).
-/

namespace Courier

variable {β γ δ : Type}

/-- Changes the value where there is one. -/
def Stopped.map (f : β → γ) : Stopped β → Stopped γ
  | .done value => .done (f value)
  | .panicked text => .panicked text
  | .stalled => .stalled
  | .asleep due next => .asleep due (next.map f)
  | .queued next => .queued (next.map f)

/-- Changes the value where there is one. -/
def Program.End.map (f : β → γ) : Program.End β → Program.End γ
  | .done value => .done (f value)
  | .panicked text => .panicked text
  | .never => .never

namespace Program

variable {f : β → γ} {p : Program β} {talk : List Deed}

/-- Of three programs in a row it does not matter which two are taken together. -/
theorem bind_bind (p : Program β) (k : β → Program γ) (k' : γ → Program δ) :
    (p.bind k).bind k' = p.bind fun b => (k b).bind k' := by
  induction p with
  | done value => rfl
  | panic text => rfl
  | stall => rfl
  | note what next ih => exact congrArg (note what) ih
  | clock next ih => exact congrArg clock (funext ih)
  | sleep length next ih => exact congrArg (sleep length) ih
  | pause attempt next ih => exact congrArg (pause attempt) ih
  | closed next ih => exact congrArg closed (funext ih)
  | slot next ih => exact congrArg slot (funext ih)
  | call request next ih => exact congrArg (call request) (funext ih)
  | answered next ih => exact congrArg answered ih
  | record r next ih => exact congrArg (record r) (funext ih)

/-- A conversation with a program is one with it and whatever comes after it. -/
theorem Goes.bind {q : Program β} (h : p.Goes talk q) (k : β → Program γ) :
    (p.bind k).Goes talk (q.bind k) := by
  induction h with
  | stay p => exact .stay _
  | note h ih => exact .note ih
  | clock now h ih => exact .clock now ih
  | sleep h ih => exact .sleep ih
  | pause h ih => exact .pause ih
  | closed b h ih => exact .closed b ih
  | slot b h ih => exact .slot b ih
  | call behaviour h ih => exact .call behaviour ih
  | answered h ih => exact .answered ih
  | record refusal h ih => exact .record refusal ih

/-- One conversation after another. -/
theorem Goes.trans {p' q : Program β} {talk' : List Deed} (h : p.Goes talk p')
    (h' : p'.Goes talk' q) : p.Goes (talk ++ talk') q := by
  induction h with
  | stay p => exact h'
  | note h ih => exact .note (ih h')
  | clock now h ih => exact .clock now (ih h')
  | sleep h ih => exact .sleep (ih h')
  | pause h ih => exact .pause (ih h')
  | closed b h ih => exact .closed b (ih h')
  | slot b h ih => exact .slot b (ih h')
  | call behaviour h ih => exact .call behaviour (ih h')
  | answered h ih => exact .answered (ih h')
  | record refusal h ih => exact .record refusal (ih h')

/-- **THE SAME CONVERSATIONS**, whatever becomes of the value. -/
theorem goes_map_iff {q : Program γ} :
    (p.map f).Goes talk q ↔ ∃ p', p.Goes talk p' ∧ q = p'.map f := by
  constructor
  · intro h
    rcases h.through_bind with ⟨p', hp, -, rfl⟩ | ⟨v, first, rest, rfl, hp, hr⟩
    · exact ⟨p', hp, rfl⟩
    · cases hr with
      | stay => exact ⟨.done v, by rwa [List.append_nil], rfl⟩
  · rintro ⟨p', hp, rfl⟩
    exact hp.bind _

/-- Programs that have the same first turn go on alike. -/
theorem lives_congr {parts : Parts} {n : Nat} {l l' : Ledger} {p p' : Program β}
    (h : p.run parts n l = p'.run parts n l') {others : List (Ledger → Ledger)} :
    p.lives parts n others l = p'.lives parts n others l' := by
  cases others with
  | nil => exact h
  | cons work later => rw [lives, lives, h]

/-- Turn by turn, beside others, where the second program needs no turn of its own. -/
theorem lives_bind {parts : Parts} {n : Nat} {k : β → Program γ}
    (hk : ∀ value l, ((k value).run parts n l).2.rest? = none)
    (others : List (Ledger → Ledger)) (l : Ledger) (p : Program β) :
    (p.bind k).lives parts n others l = resume parts n k (p.lives parts n others l) := by
  induction others generalizing l p with
  | nil => exact run_bind parts n l p k
  | cons work later ih =>
      rw [lives, lives, run_bind]
      generalize p.run parts n l = result
      obtain ⟨l', stopped⟩ := result
      cases stopped with
      | done value =>
          rw [resume, hk value l']
          rfl
      | panicked text => rfl
      | stalled => exact ih _ .stall
      | asleep due next => exact ih _ next
      | queued next => exact ih _ next

/-- Turn by turn, where the value is changed. -/
theorem lives_map (parts : Parts) (n : Nat) (others : List (Ledger → Ledger)) (l : Ledger)
    (f : β → γ) (p : Program β) :
    (p.map f).lives parts n others l
      = ((p.lives parts n others l).1, (p.lives parts n others l).2.map f) := by
  rw [map, lives_bind fun _ _ => rfl]
  generalize p.lives parts n others l = result
  obtain ⟨l', stopped⟩ := result
  cases stopped <;> rfl

/-- Goes on with a second program where the first one ends. -/
def replay (parts : Parts) (limit : Nat) (k : β → Program γ) : Ledger × End β → Ledger × End γ
  | (l, .done value) => (k value).play parts limit l
  | (l, .panicked text) => (l, .panicked text)
  | (l, .never) => (l, .never)

/-- Alone. -/
theorem play_bind (parts : Parts) (limit : Nat) (l : Ledger) (p : Program β) (k : β → Program γ) :
    (p.bind k).play parts limit l = replay parts limit k (p.play parts limit l) := by
  induction p generalizing l with
  | done value => rfl
  | panic text => rfl
  | stall => rfl
  | note what next ih => exact ih _
  | clock next ih => exact ih _ l
  | sleep length next ih =>
      rw [bind, play, play]
      split
      · rfl
      · exact ih _
  | pause attempt next ih =>
      rw [bind, play, play]
      dsimp only
      split
      · rfl
      · exact ih _
  | closed next ih => exact ih _ l
  | slot next ih =>
      rw [bind, play, play]
      split
      · exact ih _ _
      · exact ih _ _
      · rfl
  | call request next ih => exact ih _ _
  | answered next ih => exact ih _
  | record r next ih => exact ih _ _

/-- Alone, where the value is changed. -/
theorem play_map (parts : Parts) (limit : Nat) (l : Ledger) (f : β → γ) (p : Program β) :
    (p.map f).play parts limit l
      = ((p.play parts limit l).1, (p.play parts limit l).2.map f) := by
  rw [map, play_bind]
  generalize p.play parts limit l = result
  obtain ⟨l', ended⟩ := result
  cases ended <;> rfl

end Program

end Courier
