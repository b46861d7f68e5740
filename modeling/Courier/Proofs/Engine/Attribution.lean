import Courier.Proofs.Engine.Clients
import Courier.Proofs.Engine.Jottings

/-!
# Attribution — what is noted of a task is its own doing

Whatever an engine does, it notes nothing of a task but in a turn of that task, nor does anything
else get it out of the call it is inside (`spares_step`).  So nothing is noted of tasks that are not
there: of those that have not been spawned (`Client.unborn`), and of those that have ended, nothing
more.  In the turn of a task that is to be dropped it is noted that it is, and that its call is cut
off, and nothing else (`dropped_turn`).
-/

namespace Courier

variable {α : Type}

namespace Engine

/-- What happened between two engines spares a task. -/
abbrev Spares (n : Nat) (e e' : Engine α) : Prop :=
  e.ledger.Spares n e'.ledger

variable {n m : Nat} {e e' : Engine α} {t : Task α}

/-! ## What spares a task -/

/-- Whatever a task notes last spares all others. -/
theorem Closes.spares (h : Closes m e e') (hne : m ≠ n) : Spares n e e' := by
  have hown : (some m : Option Nat) ≠ some n := fun heq => hne (Option.some.inj heq)
  cases h with
  | goesOn lives jots => exact jots.ledger.spares hown
  | ends gone before after =>
      exact ((before.ledger.spares hown).trans (Ledger.spares_cut hne _)).trans
        (after.ledger.spares hown)

section Sparing

variable (e : Engine α)

theorem spares_cancel (n future : Nat) : Spares n e (e.cancel future).1 :=
  (e.jots_cancel future).ledger.spares nofun

/-- A task that works spares all others. -/
theorem spares_worked (h : t.number ≠ n) : e.ledger.Spares n (e.worked t) := by
  have hbegun : e.ledger.Spares n (e.begunLedger t) :=
    (e.jots_begunLedger t).spares fun heq => h (Option.some.inj heq)
  rw [worked]
  split
  · exact .refl n e.ledger
  · cases t.job with
    | drive future work => exact hbegun.trans (Program.spares_run h e.parts _ work)
    | deliver future load => exact hbegun
    | load ticket work => exact hbegun.trans (Program.spares_run h e.parts _ work)
    | clean due => exact hbegun

/-- A turn spares all tasks but the one that has it. -/
theorem spares_turn (m : Nat) (h : m = n → e.Lives n → n ∉ e.ready) : Spares n e (e.turn m) := by
  rw [turn]
  split
  · rename_i hready
    split
    · exact .refl n e.ledger
    · rename_i t hfind
      have hnumber : t.number = m :=
        beq_iff_eq.mp (List.find?_some (p := fun u : Task α => u.number == m) hfind)
      have ht : t ∈ e.tasks := List.mem_of_find?_eq_some hfind
      have hne : t.number ≠ n := by
        intro htn
        have hmn : m = n := hnumber.symm.trans htn
        exact h hmn ⟨t, ht, htn⟩ (hmn ▸ List.contains_iff_mem.mp hready)
      exact (e.spares_worked hne).trans ((closes_poll (e := e.called m) ht).spares hne)
  · exact .refl n e.ledger

end Sparing

/-- **NOTHING IS NOTED OF A TASK BUT IN ITS OWN TURN.** -/
theorem spares_step (n : Nat) (hs : e.stopped = false) {ev : EngineEvent α} (hc : ev.isClient = true)
    (hev : ev = .turn n → e.Lives n → n ∉ e.ready) : Spares n e (e.step ev) := by
  cases ht : ev.isTurn with
  | false => exact (jots_step hs hc ht).ledger.spares nofun
  | true =>
      cases ev with
      | turn m => exact e.spares_turn m fun hm => hev (congrArg _ hm)
      | _ => cases ht

/-! ## Tasks that are not there -/

section Runs

variable {config : Config} {requests : List (Nat × Request)} {events : List (EngineEvent α)}
  {ev : EngineEvent α}

/-- Nothing is noted of a task that is not there. -/
theorem Client.spares_step (h : Client config requests e) (hc : ev.isClient = true)
    (hl : ¬ e.Lives n) : Spares n e (e.step ev) :=
  Engine.spares_step n h.standing.running hc fun _ hlives => absurd hlives hl

/-- Nothing was noted of tasks that have not been spawned. -/
def Unborn (e : Engine α) : Prop :=
  ∀ n, e.spawned ≤ n → e.ledger.notesOf n = [] ∧ e.ledger.inside n = none

theorem Client.unborn_step (h : Client config requests e) (hu : Unborn e)
    (hc : ev.isClient = true) : Unborn (e.step ev) := by
  intro n hn
  have honward : Onward e (e.step ev) := h.onward (List.forall_mem_singleton.mpr hc)
  have hle : e.spawned ≤ n := Nat.le_trans honward.spawned hn
  have hspares : Spares n e (e.step ev) := by
    refine h.spares_step hc ?_
    rintro ⟨t, ht, rfl⟩
    exact absurd (h.standing.spawned t ht) (Nat.not_lt.mpr hle)
  rw [hspares.notes, hspares.inside]
  exact hu n hle

theorem unborn_ofConfig {hasEngine : Bool} {parts : Parts} {present : Response → α} {epoch : Int}
    (h : ofConfig config hasEngine parts present epoch = .ok e) : Unborn e := by
  rw [ofConfig] at h
  cases hv : config.check hasEngine with
  | error cause =>
      rw [hv] at h
      cases h
  | ok _ =>
      rw [hv] at h
      cases h
      exact fun n _ => ⟨rfl, rfl⟩

/-- **NOTHING IS NOTED OF A TASK BEFORE IT IS SPAWNED**, whatever happens to a client. -/
theorem Client.unborn (h : Client config requests e) (hu : Unborn e) (hc : OfClient events) :
    Unborn (e.steps events) := by
  induction events generalizing e requests with
  | nil => exact hu
  | cons ev rest ih =>
      obtain ⟨hev, hrest⟩ := List.forall_mem_cons.mp hc
      exact ih (h.step hev) (h.unborn_step hu hev) hrest

end Runs

/-! ## The turn of a task -/

section Turns

variable {future : Nat} (hn : (e.tasks.map Task.number).Nodup) (hr : t.number ∈ e.ready)
  (ht : t ∈ e.tasks)

include hn hr ht

/-- The ledger after the turn of a task that runs a program and goes on. -/
theorem ledger_turn_of_drive (ha : t.aborted = false) {work next : Program (Outcome α)}
    (hj : t.job = .drive future work) {l : Ledger} {stopped : Stopped (Outcome α)}
    (hrun : work.run e.parts t.number (e.begunLedger t) = (l, stopped))
    (hnext : stopped.rest? = some next) : (e.turn t.number).ledger = l := by
  have hbegin : begin (e.called t.number) t
      = e.goneOn t (e.begunLedger t) t.job e.loads := begin_eq_goneOn hn ht
  rw [turn_eq_poll hn ht hr, poll, ha, if_neg Bool.false_ne_true, runJob, hj]
  dsimp only
  rw [resume, hbegin]
  have hparts : (e.goneOn t (e.begunLedger t) t.job e.loads).parts = e.parts := rfl
  have hledger : (e.goneOn t (e.begunLedger t) t.job e.loads).ledger = e.begunLedger t := rfl
  rw [hparts, hledger, hrun]
  cases stopped with
  | done v => cases hnext
  | panicked text => cases hnext
  | stalled => rfl
  | asleep due next => rfl
  | queued next => rfl

end Turns

/-- A future that is decided is not completed. -/
theorem complete_of_done {future : Nat}
    (h : ∀ c, e.futures[future]? = some c → c.state ≠ .pending) (result : Outcome α) :
    e.complete future result = (e, false) := by
  rw [complete]
  split
  · rfl
  · rename_i c hc
    have hne := h c hc
    obtain ⟨state, waker, task⟩ := c
    cases state with
    | pending => exact absurd rfl hne
    | ready _ => rfl
    | cancelled => rfl
    | taken => rfl

end Engine

/-- What is last noted of a task that is dropped at some time: that it is, and that the call it is
    inside, if it is inside one, is cut off. -/
def lastNotes (n : Nat) (call : Option Nat) (time : Nat) : List Note :=
  call.toList.map (fun call => ⟨time, some n, .cut call⟩) ++ [⟨time, some n, .dropped⟩]

namespace Engine

variable {n : Nat} {e : Engine α} {t : Task α} {future : Nat}

/-- **THE TURN OF A TASK THAT IS DROPPED**, where its future is decided: its call is cut off, and
    nothing else is noted of it. -/
theorem dropped_turn (hn : (e.tasks.map Task.number).Nodup) (hr : t.number ∈ e.ready)
    (ht : t ∈ e.tasks) (ha : t.aborted = true) (hj : t.job.future? = some future)
    (hd : ∀ c, e.futures[future]? = some c → c.state ≠ .pending) :
    (e.turn t.number).ledger.notesOf t.number
        = lastNotes t.number (e.ledger.inside t.number) e.ledger.elapsed
          ++ e.ledger.notesOf t.number ∧
      (e.turn t.number).ledger.inside t.number = none := by
  let x : Engine α := (mark (e.called t.number) (some t.number) .dropped).retire t.number
  have hfutures : x.futures = e.futures := (rests_retire _ t.number).futures
  have hguard : x.guardEnd t.number future .dropped = x := by
    rw [guardEnd, complete_of_done]
    rw [hfutures]
    exact hd
  have hdrop : drop (e.called t.number) t = x := by
    rw [drop]
    cases hjob : t.job with
    | drive own work =>
        rw [hjob] at hj
        cases hj
        exact hguard
    | deliver own load =>
        rw [hjob] at hj
        cases hj
        exact hguard
    | load ticket work =>
        rw [hjob] at hj
        cases hj
    | clean due => rfl
  have hledger : x.ledger = { (e.ledger.mark (some t.number) .dropped).cut t.number with
      pool := (((e.ledger.mark (some t.number) .dropped).cut t.number).pool.leave t.number).1 } :=
    ledger_retire _ t.number
  obtain ⟨hnotes, hinside⟩ := (e.ledger.mark (some t.number) .dropped).notesOf_cut t.number
  have hmark : (e.ledger.mark (some t.number) .dropped).notesOf t.number
      = ⟨e.ledger.elapsed, some t.number, .dropped⟩ :: e.ledger.notesOf t.number :=
    List.filter_cons_of_pos (by simp)
  rw [turn_eq_poll hn ht hr, poll, if_pos ha, hdrop, hledger]
  refine ⟨hnotes.trans ?_, hinside⟩
  rw [hmark, lastNotes, List.append_assoc]
  rfl

end Engine

end Courier
