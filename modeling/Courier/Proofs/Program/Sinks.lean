import Courier.Proofs.Program.Stages

/-!
# Sinks — what is said of the records decides nothing

A sink takes a record or refuses it, and may tell its line to the log.  A refusal is told, and with
that it is forgotten: a program goes on as if the record had been taken (`Program.Deaf`).  So a
program of this kind comes to the same with any two sinks, on ledgers that differ in nothing but
what was told on account of a sink: alone (`Deaf.play`), for one turn (`Deaf.run`), and turn by turn
while others are at work between its turns (`Deaf.lives`).  Attempts, retries and dispatches are of
this kind.
-/

namespace Courier

variable {α β γ : Type}

/-- Whether something was told on account of a sink: the line of a record, or that a record was
    dropped. -/
def Happening.isOfSink : Happening → Bool
  | .told (.profile _) | .told (.recordDropped _) => true
  | _ => false

/-- These collaborators, but for the sink. -/
def Parts.withSink (parts : Parts) (sink : Sink) : Parts :=
  { parts with sink := sink }

namespace Ledger

/-- A ledger without what was told on account of a sink. -/
def hushed (l : Ledger) : Ledger :=
  { l with notes := l.notes.filter fun x => !x.what.isOfSink }

/-- Two ledgers differ in nothing but what was told on account of a sink. -/
def Like (l l' : Ledger) : Prop :=
  l.hushed = l'.hushed

variable {l l' : Ledger}

/-- Likeness is an equivalence. -/
theorem Like.refl (l : Ledger) : l.Like l :=
  rfl

theorem Like.symm (h : l.Like l') : l'.Like l :=
  Eq.symm h

theorem Like.trans {l'' : Ledger} (h : l.Like l') (h' : l'.Like l'') : l.Like l'' :=
  Eq.trans h h'

/-- Two ledgers that are alike are one ledger with other notes. -/
theorem Like.notes (h : l.Like l') :
    ∃ notes, l' = { l with notes := notes } ∧
      notes.filter (fun x => !x.what.isOfSink) = l.notes.filter fun x => !x.what.isOfSink := by
  obtain ⟨epoch, elapsed, tick, calls, records, pauses, running, closed, shut, pool, notes⟩ := l
  obtain ⟨_, _, _, _, _, _, _, _, _, _, notes'⟩ := l'
  simp only [Like, hushed, Ledger.mk.injEq] at h
  obtain ⟨rfl, rfl, rfl, rfl, rfl, rfl, rfl, rfl, rfl, rfl, hnotes⟩ := h
  exact ⟨notes', rfl, hnotes.symm⟩

/-- What is told on account of a sink makes no difference. -/
theorem like_mark (l : Ledger) (task : Option Nat) {what : Happening} (h : what.isOfSink = true) :
    (l.mark task what).Like l := by
  simp [Like, hushed, mark, h]

/-- Whatever else is changed in both alike, and noted in both. -/
theorem Like.mark (h : l.Like l') (task : Option Nat) (what : Happening) :
    (l.mark task what).Like (l'.mark task what) := by
  obtain ⟨notes, rfl, hnotes⟩ := h.notes
  simp [Like, hushed, Ledger.mark, List.filter_cons, hnotes]

/-- The transport does not look at what a sink has said. -/
theorem Like.call (h : l.Like l') (parts : Parts) (sink sink' : Sink) (task : Nat)
    (request : Request) :
    (l.call (parts.withSink sink) task request).1.Like
        (l'.call (parts.withSink sink') task request).1 ∧
      (l.call (parts.withSink sink) task request).2
        = (l'.call (parts.withSink sink') task request).2 := by
  obtain ⟨notes, rfl, hnotes⟩ := h.notes
  exact ⟨Like.mark (by simp [Like, hushed, hnotes, nextCall]) _ _, rfl⟩

theorem Like.answered (h : l.Like l') (task : Nat) : (l.answered task).Like (l'.answered task) := by
  obtain ⟨notes, rfl, hnotes⟩ := h.notes
  rw [Ledger.answered, Ledger.answered]
  dsimp only
  split
  · exact h
  · exact Like.mark (by simp [Like, hushed, hnotes]) _ _

theorem Like.cut (h : l.Like l') (task : Nat) : (l.cut task).Like (l'.cut task) := by
  obtain ⟨notes, rfl, hnotes⟩ := h.notes
  rw [Ledger.cut, Ledger.cut]
  dsimp only
  split
  · exact h
  · exact Like.mark (by simp [Like, hushed, hnotes]) _ _

theorem Like.giveUp (h : l.Like l') (limit : Nat) : (l.giveUp limit).Like (l'.giveUp limit) := by
  obtain ⟨notes, rfl, hnotes⟩ := h.notes
  exact Like.cut (by simp [Like, hushed, hnotes]) 0

/-- A record leaves like ledgers behind, whichever sink it goes to. -/
theorem Like.record (h : l.Like l') (parts parts' : Parts) (task : Nat) (r : Record) :
    (l.record parts task r).1.Like (l'.record parts' task r).1 := by
  have hlogged : ∀ (l : Ledger) (logs : Bool),
      (if logs then l.tell task (.profile r) else l).Like l := by
    intro l logs
    cases logs with
    | true => exact like_mark l (some task) rfl
    | false => exact .refl l
  obtain ⟨notes, rfl, hnotes⟩ := h.notes
  refine (hlogged _ parts.sink.logs).trans (Like.trans ?_ (hlogged _ parts'.sink.logs).symm)
  exact Like.mark (by simp [Like, hushed, hnotes]) _ _

/-- Nor does the delayer. -/
theorem Like.pause (h : l.Like l') (parts : Parts) (sink sink' : Sink) (task attempt : Nat) :
    (l.pause (parts.withSink sink) task attempt).1.Like
        (l'.pause (parts.withSink sink') task attempt).1 ∧
      (l.pause (parts.withSink sink) task attempt).2
        = (l'.pause (parts.withSink sink') task attempt).2 := by
  obtain ⟨notes, rfl, hnotes⟩ := h.notes
  exact ⟨Like.mark (by simp [Like, hushed, hnotes]) _ _, rfl⟩

/-- Where two ledgers are alike, a sleep ends at the same time. -/
theorem Like.due (h : l.Like l') (length : Duration) :
    l'.due length = l.due length ∧ l'.elapsed = l.elapsed := by
  obtain ⟨notes, rfl, -⟩ := h.notes
  exact ⟨rfl, rfl⟩

/-- The time is the same. -/
theorem Like.now (h : l.Like l') : l'.now = l.now := by
  obtain ⟨notes, rfl, -⟩ := h.notes
  rfl

/-- The transport is closed on both or on neither. -/
theorem Like.closed (h : l.Like l') : l'.closed = l.closed := by
  obtain ⟨notes, rfl, -⟩ := h.notes
  rfl

/-- The slots are the same. -/
theorem Like.pool (h : l.Like l') : l'.pool = l.pool := by
  obtain ⟨notes, rfl, -⟩ := h.notes
  rfl

theorem Like.withPool (h : l.Like l') (pool : SlotPool) :
    ({ l with pool := pool } : Ledger).Like { l' with pool := pool } := by
  obtain ⟨notes, rfl, hnotes⟩ := h.notes
  simp [Like, hushed, hnotes]

theorem Like.withElapsed (h : l.Like l') (elapsed : Nat) :
    ({ l with elapsed := elapsed } : Ledger).Like { l' with elapsed := elapsed } := by
  obtain ⟨notes, rfl, hnotes⟩ := h.notes
  simp [Like, hushed, hnotes]

end Ledger

namespace Program

variable {p : Program β} {parts : Parts} {sink sink' : Sink} {l l' : Ledger}

/-- **DEAF TO ITS SINK**: a program that goes on in one way whatever is said of its records.  A
    refusal is told, and nothing more comes of it. -/
def Deaf : Program β → Prop
  | .done _ | .panic _ | .stall => True
  | .note _ next | .sleep _ next | .pause _ next | .answered next => next.Deaf
  | .clock next => ∀ now, (next now).Deaf
  | .closed next | .slot next => ∀ b, (next b).Deaf
  | .call _ next => ∀ behaviour, (next behaviour).Deaf
  | .record _ next =>
    (next none).Deaf ∧ ∀ refusal, next refusal = notes (Observer.refused refusal) (next none)

/-- Notes before a program that does not listen to the sink do not make it listen. -/
theorem Deaf.notes {whats : List Happening} {next : Program β} (h : next.Deaf) :
    (notes whats next).Deaf := by
  induction whats with
  | nil => exact h
  | cons what whats ih => exact ih

/-- Notes stay in front when a program is continued. -/
theorem bind_notes (whats : List Happening) (next : Program β) (k : β → Program γ) :
    (notes whats next).bind k = notes whats (next.bind k) := by
  induction whats with
  | nil => rfl
  | cons what whats ih => exact congrArg (note what) ih

/-- A program that does not listen, continued by one that does not. -/
theorem Deaf.bind {k : β → Program γ} (hp : p.Deaf) (hk : ∀ b, (k b).Deaf) : (p.bind k).Deaf := by
  induction p with
  | done value => exact hk value
  | panic text => exact trivial
  | stall => exact trivial
  | note what next ih => exact ih hp
  | clock next ih => exact fun now => ih now (hp now)
  | sleep length next ih => exact ih hp
  | pause attempt next ih => exact ih hp
  | closed next ih => exact fun b => ih b (hp b)
  | slot next ih => exact fun b => ih b (hp b)
  | call request next ih => exact fun behaviour => ih behaviour (hp behaviour)
  | answered next ih => exact ih hp
  | record r next ih =>
      refine ⟨ih none hp.1, fun refusal => ?_⟩
      show (next refusal).bind k = _
      rw [hp.2 refusal, bind_notes]

/-! ## One turn -/

/-- What is told of a refusal makes no difference to what comes after it. -/
theorem run_refused (parts : Parts) (n : Nat) (l : Ledger) (refusal : Option String)
    (next : Program β) :
    ∃ m : Ledger, m.Like l ∧
      (notes (Observer.refused refusal) next).run parts n l = next.run parts n m := by
  cases refusal with
  | none => exact ⟨l, .refl l, rfl⟩
  | some reason => exact ⟨_, Ledger.like_mark l (some n) rfl, rfl⟩

/-- A deaf program stops at the same point with any two sinks. -/
theorem Deaf.run (hp : p.Deaf) (h : l.Like l') (parts : Parts) (sink sink' : Sink) (n : Nat) :
    (p.run (parts.withSink sink) n l).1.Like (p.run (parts.withSink sink') n l').1 ∧
      (p.run (parts.withSink sink) n l).2 = (p.run (parts.withSink sink') n l').2 := by
  induction p generalizing l l' with
  | done value => exact ⟨h, rfl⟩
  | panic text => exact ⟨h, rfl⟩
  | stall => exact ⟨h, rfl⟩
  | note what next ih => exact ih hp (h.mark (some n) what)
  | clock next ih =>
      rw [Program.run, Program.run, h.now]
      exact ih l.now (hp _) h
  | sleep length next ih =>
      rw [Program.run, Program.run, (h.due length).1, (h.due length).2]
      split
      · exact ih hp h
      · exact ⟨h, rfl⟩
  | pause attempt next ih =>
      obtain ⟨hpause, hlength⟩ := h.pause parts sink sink' n attempt
      rw [Program.run, Program.run]
      dsimp only
      rw [(hpause.due _).1, (hpause.due default).2, hlength]
      split
      · exact ih hp hpause
      · exact ⟨hpause, rfl⟩
  | closed next ih =>
      rw [Program.run, Program.run, h.closed]
      exact ih _ (hp _) h
  | slot next ih =>
      rw [Program.run, Program.run, h.pool]
      split
      · exact ih true (hp true) (h.withPool _)
      · exact ih false (hp false) (h.withPool _)
      · exact ⟨h.withPool _, rfl⟩
  | call request next ih =>
      obtain ⟨hcall, hbehaviour⟩ := h.call parts sink sink' n request
      rw [Program.run, Program.run]
      dsimp only
      rw [hbehaviour]
      exact ih _ (hp _) hcall
  | answered next ih => exact ih hp (h.answered n)
  | record r next ih =>
      have hrecord := h.record (parts.withSink sink) (parts.withSink sink') n r
      rw [Program.run, Program.run]
      dsimp only
      rw [hp.2, hp.2 (l'.record (parts.withSink sink') n r).2]
      obtain ⟨m, hm, hrun⟩ := run_refused (parts.withSink sink) n
        (l.record (parts.withSink sink) n r).1 (l.record (parts.withSink sink) n r).2 (next none)
      obtain ⟨m', hm', hrun'⟩ := run_refused (parts.withSink sink') n
        (l'.record (parts.withSink sink') n r).1 (l'.record (parts.withSink sink') n r).2 (next none)
      rw [hrun, hrun']
      exact ih none hp.1 (hm.trans (hrecord.trans hm'.symm))

/-- What is left of a deaf program is deaf. -/
theorem Deaf.rest (hp : p.Deaf) {n : Nat} {q : Program β}
    (hq : (p.run parts n l).2.rest? = some q) : q.Deaf := by
  induction p generalizing l with
  | done value => exact nomatch hq
  | panic text => exact nomatch hq
  | stall =>
      cases hq
      exact trivial
  | note what next ih => exact ih hp hq
  | clock next ih => exact ih _ (hp _) hq
  | sleep length next ih =>
      rw [Program.run] at hq
      split at hq
      · exact ih hp hq
      · cases hq
        exact hp
  | pause attempt next ih =>
      rw [Program.run] at hq
      dsimp only at hq
      split at hq
      · exact ih hp hq
      · cases hq
        exact hp
  | closed next ih => exact ih _ (hp _) hq
  | slot next ih =>
      rw [Program.run] at hq
      split at hq
      · exact ih true (hp true) hq
      · exact ih false (hp false) hq
      · cases hq
        exact hp
  | call request next ih => exact ih _ (hp _) hq
  | answered next ih => exact ih hp hq
  | record r next ih =>
      rw [Program.run] at hq
      dsimp only at hq
      rw [hp.2] at hq
      obtain ⟨m, -, hrun⟩ := run_refused parts n (l.record parts n r).1 (l.record parts n r).2
        (next none)
      rw [hrun] at hq
      exact ih none hp.1 hq

/-! ## In company -/

/-- Runs a program turn by turn; between two of its turns others are at work on the ledger. -/
def lives (parts : Parts) (n : Nat) : List (Ledger → Ledger) → Ledger → Program β →
    Ledger × Stopped β
  | [], l, p => p.run parts n l
  | others :: later, l, p =>
    match (p.run parts n l).2.rest? with
    | none => p.run parts n l
    | some rest => lives parts n later (others (p.run parts n l).1) rest

/-- Two companies do the same but for what they tell on account of a sink. -/
def LikeWork (work work' : Ledger → Ledger) : Prop :=
  ∀ l l' : Ledger, l.Like l' → (work l).Like (work' l')

/-- A deaf program is as far with any two sinks, turn after turn. -/
theorem Deaf.lives {others others' : List (Ledger → Ledger)}
    (hothers : List.Forall₂ LikeWork others others') (hp : p.Deaf) (h : l.Like l') (parts : Parts)
    (sink sink' : Sink) (n : Nat) :
    (p.lives (parts.withSink sink) n others l).1.Like
        (p.lives (parts.withSink sink') n others' l').1 ∧
      (p.lives (parts.withSink sink) n others l).2
        = (p.lives (parts.withSink sink') n others' l').2 := by
  induction hothers generalizing l l' p with
  | nil => exact hp.run h parts sink sink' n
  | cons hwork hlater ih =>
      obtain ⟨hlike, hstops⟩ := hp.run h parts sink sink' n
      rw [Program.lives, Program.lives, ← hstops]
      cases hrest : (p.run (parts.withSink sink) n l).2.rest? with
      | none => exact ⟨hlike, hstops⟩
      | some rest => exact ih (hp.rest hrest) (hwork _ _ hlike)

/-! ## Alone -/

/-- What is noted of a refusal leaves a ledger that is alike. -/
theorem play_refused (parts : Parts) (limit : Nat) (l : Ledger) (refusal : Option String)
    (next : Program β) :
    ∃ m : Ledger, m.Like l ∧
      (notes (Observer.refused refusal) next).play parts limit l = next.play parts limit m := by
  cases refusal with
  | none => exact ⟨l, .refl l, rfl⟩
  | some reason => exact ⟨_, Ledger.like_mark l (some 0) rfl, rfl⟩

/-- A deaf program that runs alone comes to the same end with any two sinks. -/
theorem Deaf.play (hp : p.Deaf) (h : l.Like l') (parts : Parts) (sink sink' : Sink) (limit : Nat) :
    (p.play (parts.withSink sink) limit l).1.Like (p.play (parts.withSink sink') limit l').1 ∧
      (p.play (parts.withSink sink) limit l).2 = (p.play (parts.withSink sink') limit l').2 := by
  induction p generalizing l l' with
  | done value => exact ⟨h, rfl⟩
  | panic text => exact ⟨h.cut 0, rfl⟩
  | stall => exact ⟨h.giveUp limit, rfl⟩
  | note what next ih => exact ih hp (h.mark (some 0) what)
  | clock next ih =>
      rw [Program.play, Program.play, h.now]
      exact ih l.now (hp _) h
  | sleep length next ih =>
      rw [Program.play, Program.play, (h.due length).1]
      split
      · exact ⟨h.giveUp limit, rfl⟩
      · exact ih hp (h.withElapsed _)
  | pause attempt next ih =>
      obtain ⟨hpause, hlength⟩ := h.pause parts sink sink' 0 attempt
      rw [Program.play, Program.play]
      dsimp only
      rw [(hpause.due _).1, hlength]
      split
      · exact ⟨hpause.giveUp limit, rfl⟩
      · exact ih hp (hpause.withElapsed _)
  | closed next ih =>
      rw [Program.play, Program.play, h.closed]
      exact ih _ (hp _) h
  | slot next ih =>
      rw [Program.play, Program.play, h.pool]
      split
      · exact ih true (hp true) (h.withPool _)
      · exact ih false (hp false) (h.withPool _)
      · exact ⟨(h.withPool _).giveUp limit, rfl⟩
  | call request next ih =>
      obtain ⟨hcall, hbehaviour⟩ := h.call parts sink sink' 0 request
      rw [Program.play, Program.play]
      dsimp only
      rw [hbehaviour]
      exact ih _ (hp _) hcall
  | answered next ih => exact ih hp (h.answered 0)
  | record r next ih =>
      have hrecord := h.record (parts.withSink sink) (parts.withSink sink') 0 r
      rw [Program.play, Program.play]
      dsimp only
      rw [hp.2, hp.2 (l'.record (parts.withSink sink') 0 r).2]
      obtain ⟨m, hm, hplay⟩ := play_refused (parts.withSink sink) limit
        (l.record (parts.withSink sink) 0 r).1 (l.record (parts.withSink sink) 0 r).2 (next none)
      obtain ⟨m', hm', hplay'⟩ := play_refused (parts.withSink sink') limit
        (l'.record (parts.withSink sink') 0 r).1 (l'.record (parts.withSink sink') 0 r).2 (next none)
      rw [hplay, hplay']
      exact ih none hp.1 (hm.trans (hrecord.trans hm'.symm))

/-- **UNSWAYED BY ITS SINK**: with any two sinks a program calls, waits, asks its handler and hands
    over records alike, and comes to the same, alone and in company. -/
structure Unswayed (p : Program β) : Prop where
  alone : ∀ (parts : Parts) (sink sink' : Sink) (limit : Nat) (l l' : Ledger), l.Like l' →
    (p.play (parts.withSink sink) limit l).1.Like (p.play (parts.withSink sink') limit l').1 ∧
      (p.play (parts.withSink sink) limit l).2 = (p.play (parts.withSink sink') limit l').2
  company : ∀ (parts : Parts) (sink sink' : Sink) (n : Nat) (others others' : List (Ledger → Ledger))
    (l l' : Ledger), List.Forall₂ LikeWork others others' → l.Like l' →
    (p.lives (parts.withSink sink) n others l).1.Like
        (p.lives (parts.withSink sink') n others' l').1 ∧
      (p.lives (parts.withSink sink) n others l).2
        = (p.lives (parts.withSink sink') n others' l').2

/-- **WHAT IS DEAF IS UNSWAYED.** -/
theorem Deaf.unswayed (hp : p.Deaf) : p.Unswayed where
  alone parts sink sink' limit _ _ h := hp.play h parts sink sink' limit
  company parts sink sink' n _ _ _ _ hothers h := hp.lives hothers h parts sink sink' n

end Program

/-! ## Attempts, retries and dispatches -/

/-- An observer does not listen to the sink when it hands over an outcome. -/
theorem Observer.deliver_deaf (o : Observer α) (outcome : Outcome Response) :
    (o.deliver outcome).Deaf := by
  cases outcome with
  | ok r =>
      rw [deliver]
      cases o.handler.onCompleted o.past r with
      | panics text => exact trivial
      | gives v => exact .notes trivial
  | error f =>
      rw [deliver]
      cases o.handler.onFailed o.past f with
      | panics text => exact trivial
      | gives done => exact trivial

/-- It does not when it follows the transport. -/
theorem Observer.follow_deaf (b : Behaviour) (o : Observer α) : (o.follow b).Deaf := by
  induction b generalizing o with
  | report e next ih =>
      intro now
      refine .notes ?_
      split
      · exact trivial
      · exact ih _ _
  | tell entry next ih => exact ih o
  | wait length next ih => exact ih o
  | stall => exact trivial
  | panic text => exact trivial
  | give outcome =>
      intro now
      exact .notes ⟨o.deliver_deaf outcome, fun refusal => rfl⟩

/-- So no attempt listens to the sink. -/
theorem attempt_deaf (request : Request) (handler : Handler α) (past : Past) (position : Position) :
    (attempt request handler past position).Deaf :=
  fun _ behaviour => Observer.follow_deaf behaviour _

/-- Nor does an attempt with what the loop says of it. -/
theorem Retry.trial_deaf (request : Request) (handler : Handler α) (past : Past)
    (position : Position) : (trial request handler past position).Deaf := by
  refine (attempt_deaf request handler past position).bind fun a => ?_
  rw [review]
  split
  · rw [Program.Deaf]
    split <;> exact trivial
  · exact trivial

/-- Nor do the attempts of a retry loop. -/
theorem Retry.attempts_deaf (request : Request) (handler : Handler α) (history : RetryHistory)
    (past : Past) : (attempts request handler history past).Deaf := by
  induction history, past using @attempts.induct α request with
  | case1 history past ih =>
      rw [attempts, lead]
      have hbody := (trial_deaf request handler past history.next).bind (k := fun a =>
        if !request.repeats a.result then
          (.done (a.result.map (·.value), history.add a) : Program (Retried α))
        else if request.maxRetries.toNat ≤ history.next.attempt then
          .tell (.retriesExhausted (history.add a).attempts request.urlText)
            (.done (a.result.map (·.value), history.add a))
        else attempts request handler (history.add a) a.past) (by
          intro a
          split
          · exact trivial
          · split
            · exact trivial
            · rename_i hleft
              exact ih a hleft)
      split
      · exact hbody
      · exact hbody

/-- Nor does a dispatch. -/
theorem dispatch_deaf (request : Request) (handler : Handler α) :
    (dispatch request handler).Deaf := by
  intro closed
  cases closed with
  | true => exact trivial
  | false =>
      cases request.hasRetryPolicy with
      | false => exact (attempt_deaf request handler [] .first).bind fun _ => trivial
      | true =>
          intro granted
          cases granted with
          | false => exact trivial
          | true => exact (Retry.attempts_deaf request handler .empty []).bind fun _ => trivial

end Courier
