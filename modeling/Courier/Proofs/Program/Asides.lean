import Courier.Proofs.Program.Sinks

/-!
# Asides — a note more changes nothing

Nobody reads the notes of a ledger.  Where one of two ledgers has a note more than the other
(`Ledger.Besides`), every program does the same on both, stops at the same point, and leaves two
ledgers behind that differ in that one note again: alone (`Program.play_besides`), for one turn
(`Program.run_besides`), and turn by turn while others are at work (`Program.lives_besides`).
-/

namespace Courier

variable {β : Type}

namespace Ledger

/-- The second ledger is the first with one note more. -/
def Besides (x : Note) (l l' : Ledger) : Prop :=
  ∃ later earlier, l.notes = later ++ earlier ∧ l' = { l with notes := later ++ x :: earlier }

/-- Whoever writes a note has that note more. -/
theorem besides_mark (l : Ledger) (task : Option Nat) (what : Happening) :
    Besides ⟨l.elapsed, task, what⟩ l (l.mark task what) :=
  ⟨[], l.notes, rfl, rfl⟩

namespace Besides

variable {x : Note} {l l' : Ledger}

/-- What changes other parts of a ledger than its notes changes them in both alike. -/
theorem change {f : Ledger → Ledger}
    (hf : ∀ (l : Ledger) notes, f { l with notes := notes } = { f l with notes := notes })
    (h : Besides x l l') : Besides x (f l) (f l') := by
  obtain ⟨later, earlier, hnotes, rfl⟩ := h
  have hkept : f l = { f l with notes := l.notes } := hf l l.notes
  exact ⟨later, earlier, (congrArg Ledger.notes hkept).trans hnotes, hf l _⟩

/-- What is written on both goes before it. -/
theorem mark (h : Besides x l l') (task : Option Nat) (what : Happening) :
    Besides x (l.mark task what) (l'.mark task what) := by
  obtain ⟨later, earlier, hnotes, rfl⟩ := h
  exact ⟨⟨l.elapsed, task, what⟩ :: later, earlier, congrArg (_ :: ·) hnotes, rfl⟩

theorem withElapsed (h : Besides x l l') (elapsed : Nat) :
    Besides x { l with elapsed := elapsed } { l' with elapsed := elapsed } :=
  h.change (f := fun l => { l with elapsed := elapsed }) fun _ _ => rfl

theorem withPool (h : Besides x l l') (pool : SlotPool) :
    Besides x { l with pool := pool } { l' with pool := pool } :=
  h.change (f := fun l => { l with pool := pool }) fun _ _ => rfl

/-- What is read of a ledger is the same. -/
theorem reads (h : Besides x l l') :
    l'.now = l.now ∧ l'.due = l.due ∧ l'.elapsed = l.elapsed ∧ l'.closed = l.closed ∧
      l'.pool = l.pool := by
  obtain ⟨later, earlier, -, rfl⟩ := h
  exact ⟨rfl, rfl, rfl, rfl, rfl⟩

/-- The transport is asked the same by both, and does the same. -/
theorem call (h : Besides x l l') (parts : Parts) (n : Nat) (request : Request) :
    Besides x (l.call parts n request).1 (l'.call parts n request).1 ∧
      (l'.call parts n request).2 = (l.call parts n request).2 := by
  have hchange := h.change
    (f := fun l => { l with
      calls := l.nextCall request :: l.calls
      running := (n, (l.nextCall request).number) :: l.running }) fun _ _ => rfl
  obtain ⟨later, earlier, -, rfl⟩ := h
  exact ⟨hchange.mark (some n) _, rfl⟩

/-- The call that a task is inside is taken from it, and that is noted. -/
theorem leave (h : Besides x l l') (n : Nat) (what : Nat → Happening) :
    Besides x
      (match l.running.lookup n with
        | none => l
        | some number =>
          { l with running := l.running.filter (·.1 != n) }.mark (some n) (what number))
      (match l'.running.lookup n with
        | none => l'
        | some number =>
          { l' with running := l'.running.filter (·.1 != n) }.mark (some n) (what number)) := by
  have hchange := h.change
    (f := fun l => { l with running := l.running.filter (·.1 != n) }) fun _ _ => rfl
  have hrunning : l'.running = l.running := by
    obtain ⟨later, earlier, -, rfl⟩ := h
    rfl
  rw [hrunning] at hchange ⊢
  split
  · exact h
  · exact hchange.mark (some n) _

/-- The transport has answered both. -/
theorem answered (h : Besides x l l') (n : Nat) : Besides x (l.answered n) (l'.answered n) :=
  h.leave n .answered

/-- Both have let go of their calls. -/
theorem cut (h : Besides x l l') (n : Nat) : Besides x (l.cut n) (l'.cut n) :=
  h.leave n .cut

/-- Both have run out of turns. -/
theorem giveUp (h : Besides x l l') (limit : Nat) : Besides x (l.giveUp limit) (l'.giveUp limit) :=
  (h.change (f := fun l => { l with elapsed := limit + l.tick }) fun _ _ => rfl).cut 0

/-- The sink takes the record of both, or refuses both. -/
theorem record (h : Besides x l l') (parts : Parts) (n : Nat) (r : Record) :
    Besides x (l.record parts n r).1 (l'.record parts n r).1 ∧
      (l'.record parts n r).2 = (l.record parts n r).2 := by
  have hrecord := (h.change (f := fun l => { l with records := r :: l.records })
    fun _ _ => rfl).mark (some n) (.recorded r)
  obtain ⟨later, earlier, -, rfl⟩ := h
  refine ⟨?_, rfl⟩
  rw [Ledger.record, Ledger.record]
  dsimp only
  split
  · exact hrecord.mark (some n) (.told (.profile r))
  · exact hrecord

/-- Both wait as long before the next attempt. -/
theorem pause (h : Besides x l l') (parts : Parts) (n attempt : Nat) :
    Besides x (l.pause parts n attempt).1 (l'.pause parts n attempt).1 ∧
      (l'.pause parts n attempt).2 = (l.pause parts n attempt).2 := by
  have hpause := (h.change (f := fun l => { l with pauses := attempt :: l.pauses })
    fun _ _ => rfl).mark (some n) (.paused attempt)
  obtain ⟨later, earlier, -, rfl⟩ := h
  exact ⟨hpause, rfl⟩

end Besides

end Ledger

namespace Program

variable {x : Note} {l l' : Ledger}

/-- One turn. -/
theorem run_besides (h : Ledger.Besides x l l') (parts : Parts) (n : Nat) (p : Program β) :
    Ledger.Besides x (p.run parts n l).1 (p.run parts n l').1 ∧
      (p.run parts n l').2 = (p.run parts n l).2 := by
  induction p generalizing l l' with
  | done value => exact ⟨h, rfl⟩
  | panic text => exact ⟨h, rfl⟩
  | stall => exact ⟨h, rfl⟩
  | note what next ih => exact ih (h.mark (some n) what)
  | clock next ih =>
      obtain ⟨hnow, -⟩ := h.reads
      rw [run, run, hnow]
      exact ih _ h
  | sleep length next ih =>
      obtain ⟨-, hdue, helapsed, -⟩ := h.reads
      rw [run, run, hdue, helapsed]
      split
      · exact ih h
      · exact ⟨h, rfl⟩
  | pause attempt next ih =>
      obtain ⟨hpause, hlength⟩ := h.pause parts n attempt
      obtain ⟨-, hdue, helapsed, -⟩ := hpause.reads
      rw [run, run]
      dsimp only
      rw [hdue, helapsed, hlength]
      split
      · exact ih hpause
      · exact ⟨hpause, rfl⟩
  | closed next ih =>
      obtain ⟨-, -, -, hclosed, -⟩ := h.reads
      rw [run, run, hclosed]
      exact ih _ h
  | slot next ih =>
      obtain ⟨-, -, -, -, hpool⟩ := h.reads
      rw [run, run, hpool]
      split
      · exact ih true (h.withPool _)
      · exact ih false (h.withPool _)
      · exact ⟨h.withPool _, rfl⟩
  | call request next ih =>
      obtain ⟨hcall, hbehaviour⟩ := h.call parts n request
      rw [run, run]
      dsimp only
      rw [hbehaviour]
      exact ih _ hcall
  | answered next ih => exact ih (h.answered n)
  | record r next ih =>
      obtain ⟨hrecord, hrefusal⟩ := h.record parts n r
      rw [run, run]
      dsimp only
      rw [hrefusal]
      exact ih _ hrecord

/-- Two companies do the same, though one finds a note more. -/
def BesidesWork (x : Note) (work work' : Ledger → Ledger) : Prop :=
  ∀ l l' : Ledger, Ledger.Besides x l l' → Ledger.Besides x (work l) (work' l')

/-- Turn by turn, beside others. -/
theorem lives_besides {others others' : List (Ledger → Ledger)}
    (hothers : List.Forall₂ (BesidesWork x) others others') (h : Ledger.Besides x l l')
    (parts : Parts) (n : Nat) (p : Program β) :
    Ledger.Besides x (p.lives parts n others l).1 (p.lives parts n others' l').1 ∧
      (p.lives parts n others' l').2 = (p.lives parts n others l).2 := by
  induction hothers generalizing l l' p with
  | nil => exact run_besides h parts n p
  | cons hwork hlater ih =>
      obtain ⟨hbesides, hstops⟩ := run_besides h parts n p
      rw [lives, lives, hstops]
      cases (p.run parts n l).2.rest? with
      | none => exact ⟨hbesides, hstops⟩
      | some rest => exact ih (hwork _ _ hbesides) rest

/-- Alone. -/
theorem play_besides (h : Ledger.Besides x l l') (parts : Parts) (limit : Nat) (p : Program β) :
    Ledger.Besides x (p.play parts limit l).1 (p.play parts limit l').1 ∧
      (p.play parts limit l').2 = (p.play parts limit l).2 := by
  induction p generalizing l l' with
  | done value => exact ⟨h, rfl⟩
  | panic text => exact ⟨h.cut 0, rfl⟩
  | stall => exact ⟨h.giveUp limit, rfl⟩
  | note what next ih => exact ih (h.mark (some 0) what)
  | clock next ih =>
      obtain ⟨hnow, -⟩ := h.reads
      rw [play, play, hnow]
      exact ih _ h
  | sleep length next ih =>
      obtain ⟨-, hdue, -⟩ := h.reads
      rw [play, play, hdue]
      split
      · exact ⟨h.giveUp limit, rfl⟩
      · exact ih (h.withElapsed _)
  | pause attempt next ih =>
      obtain ⟨hpause, hlength⟩ := h.pause parts 0 attempt
      obtain ⟨-, hdue, -⟩ := hpause.reads
      rw [play, play]
      dsimp only
      rw [hdue, hlength]
      split
      · exact ⟨hpause.giveUp limit, rfl⟩
      · exact ih (hpause.withElapsed _)
  | closed next ih =>
      obtain ⟨-, -, -, hclosed, -⟩ := h.reads
      rw [play, play, hclosed]
      exact ih _ h
  | slot next ih =>
      obtain ⟨-, -, -, -, hpool⟩ := h.reads
      rw [play, play, hpool]
      split
      · exact ih true (h.withPool _)
      · exact ih false (h.withPool _)
      · exact ⟨(h.withPool _).giveUp limit, rfl⟩
  | call request next ih =>
      obtain ⟨hcall, hbehaviour⟩ := h.call parts 0 request
      rw [play, play]
      dsimp only
      rw [hbehaviour]
      exact ih _ hcall
  | answered next ih => exact ih (h.answered 0)
  | record r next ih =>
      obtain ⟨hrecord, hrefusal⟩ := h.record parts 0 r
      rw [play, play]
      dsimp only
      rw [hrefusal]
      exact ih _ hrecord

end Program

end Courier
