import Courier.Proofs.Program.Stages

/-!
# Junctures — call, answer, record

An attempt calls the transport, is answered, and then hands one record to the sink, in this order.
A dispatch may have to wait between two attempts and inside a call, but not between the answer and
the record, and not after the last record (`Program.Attends`).  Where it waits, what was noted of its
attempts is therefore a row of attempts that have finished, each with its record, and perhaps one
call that has not been answered (`Booked`); a task that runs on keeps it so (`Program.Attends.run`).
What others do is not noted of it (`Ledger.Spares`).
-/

namespace Courier

variable {α β γ : Type}

/-- Whether something that happened is a step of an attempt. -/
def Happening.isStep : Happening → Bool
  | .called _ | .answered _ | .recorded _ => true
  | _ => false

/-- A remark is no step of an attempt. -/
theorem Happening.isStep_of_isRemark {what : Happening} (h : what.isRemark = true) :
    what.isStep = false := by
  cases what with
  | told | handled => rfl
  | _ => cases h

namespace Ledger

/-- What was noted of a task, latest first. -/
def notesOf (l : Ledger) (n : Nat) : List Note :=
  l.notes.filter (·.task == some n)

/-- The steps of attempts that were noted of a task, in order. -/
def stepsOf (l : Ledger) (n : Nat) : List Happening :=
  ((l.notesOf n).reverse.map Note.what).filter Happening.isStep

/-- The call that a task is inside, if it is inside one. -/
def inside (l : Ledger) (n : Nat) : Option Nat :=
  l.running.lookup n

/-! ## What is noted of others -/

/-- What happened between two ledgers spares a task: nothing was noted of it, and it is inside the
    call that it was inside, or inside none. -/
structure Spares (n : Nat) (l l' : Ledger) : Prop where
  notes : l'.notesOf n = l.notesOf n
  inside : l'.inside n = l.inside n

variable {n m : Nat} {l l' l'' : Ledger}

/-- Where nothing happened, everybody was spared. -/
theorem Spares.refl (n : Nat) (l : Ledger) : l.Spares n l :=
  ⟨rfl, rfl⟩

/-- Whoever is spared twice is spared. -/
theorem Spares.trans (h : l.Spares n l') (h' : l'.Spares n l'') : l.Spares n l'' :=
  ⟨h'.notes.trans h.notes, h'.inside.trans h.inside⟩

/-- A task that is spared takes no step. -/
theorem Spares.steps (h : l.Spares n l') : l'.stepsOf n = l.stepsOf n := by
  rw [stepsOf, stepsOf, h.notes]

/-- A note of another is not a note of this task. -/
theorem notesOf_mark_of_ne {task : Option Nat} (h : task ≠ some n) (l : Ledger)
    (what : Happening) : (l.mark task what).notesOf n = l.notesOf n :=
  List.filter_cons_of_neg (by simpa using h)

/-- Whoever writes a note spares the others. -/
theorem spares_mark {task : Option Nat} (h : task ≠ some n) (l : Ledger) (what : Happening) :
    l.Spares n (l.mark task what) :=
  ⟨notesOf_mark_of_ne h l what, rfl⟩

/-- A task that is kept is inside the call it was inside. -/
theorem lookup_kept (keeps : Nat → Bool) (h : keeps n = true) (running : List (Nat × Nat)) :
    (running.filter fun x => keeps x.1).lookup n = running.lookup n := by
  induction running with
  | nil => rfl
  | cons x rest ih =>
      obtain ⟨k, call⟩ := x
      rw [List.filter_cons, List.lookup_cons]
      by_cases hk : keeps k = true
      · rw [if_pos hk, List.lookup_cons, ih]
      · have hne : n ≠ k := by
          rintro rfl
          exact hk h
        rw [if_neg hk, ih, beq_false_of_ne hne]

/-- The call of another task is forgotten. -/
theorem lookup_forget (h : m ≠ n) (running : List (Nat × Nat)) :
    (running.filter (·.1 != m)).lookup n = running.lookup n :=
  lookup_kept (· != m) (by simpa using Ne.symm h) running

/-- A task whose call is forgotten is inside none. -/
theorem lookup_forgotten (n : Nat) (running : List (Nat × Nat)) :
    (running.filter (·.1 != n)).lookup n = none := by
  induction running with
  | nil => rfl
  | cons x rest ih =>
      obtain ⟨k, call⟩ := x
      by_cases hk : k = n
      · rw [List.filter_cons_of_neg (by simpa using hk), ih]
      · rw [List.filter_cons_of_pos (by simpa using hk), List.lookup_cons,
          beq_false_of_ne (Ne.symm hk), ih]

/-- A call spares all tasks but the one that makes it. -/
theorem spares_call (h : m ≠ n) (l : Ledger) (parts : Parts) (request : Request) :
    l.Spares n (l.call parts m request).1 := by
  refine ⟨notesOf_mark_of_ne (by simpa using h) _ _, ?_⟩
  show ((m, _) :: l.running).lookup n = _
  rw [List.lookup_cons, beq_false_of_ne (Ne.symm h)]
  rfl

/-- An answer spares all but the task that is answered. -/
theorem spares_answered (h : m ≠ n) (l : Ledger) : l.Spares n (l.answered m) := by
  rw [answered]
  split
  · exact .refl n l
  · exact ⟨notesOf_mark_of_ne (by simpa using h) _ _, lookup_forget h l.running⟩

/-- A task that lets go of its call spares the others. -/
theorem spares_cut (h : m ≠ n) (l : Ledger) : l.Spares n (l.cut m) := by
  rw [cut]
  split
  · exact .refl n l
  · exact ⟨notesOf_mark_of_ne (by simpa using h) _ _, lookup_forget h l.running⟩

/-- A record spares all but the task that hands it over. -/
theorem spares_record (h : m ≠ n) (l : Ledger) (parts : Parts) (r : Record) :
    l.Spares n (l.record parts m r).1 := by
  have hm : (some m : Option Nat) ≠ some n := by simpa using h
  have hrecorded : l.Spares n (mark { l with records := r :: l.records } (some m) (.recorded r)) :=
    ⟨notesOf_mark_of_ne hm _ _, rfl⟩
  rw [record]
  dsimp only
  split
  · exact hrecorded.trans (spares_mark hm _ _)
  · exact hrecorded

/-- A task that asks for a delay spares the others. -/
theorem spares_pause (h : m ≠ n) (l : Ledger) (parts : Parts) (attempt : Nat) :
    l.Spares n (l.pause parts m attempt).1 :=
  ⟨notesOf_mark_of_ne (by simpa using h) _ _, rfl⟩

end Ledger

namespace Program

variable {n m : Nat}

/-- A task that runs spares all others. -/
theorem spares_run (h : m ≠ n) (parts : Parts) (l : Ledger) (p : Program β) :
    l.Spares n (p.run parts m l).1 := by
  have hm : (some m : Option Nat) ≠ some n := by simpa using h
  induction p generalizing l with
  | done value => exact .refl n l
  | panic text => exact .refl n l
  | stall => exact .refl n l
  | note what next ih => exact (Ledger.spares_mark hm l what).trans (ih _)
  | clock next ih => exact ih l.now l
  | sleep length next ih =>
      rw [run]
      split
      · exact ih l
      · exact .refl n l
  | pause attempt next ih =>
      have hpause := Ledger.spares_pause h l parts attempt
      rw [run]
      dsimp only
      split
      · exact hpause.trans (ih _)
      · exact hpause
  | closed next ih => exact ih l.closed l
  | slot next ih =>
      have hpool : ∀ pool, l.Spares n { l with pool := pool } := fun _ => ⟨rfl, rfl⟩
      rw [run]
      split
      · exact (hpool _).trans (ih true _)
      · exact (hpool _).trans (ih false _)
      · exact hpool _
  | call request next ih => exact (Ledger.spares_call h l parts request).trans (ih _ _)
  | answered next ih => exact (Ledger.spares_answered h l).trans (ih _)
  | record r next ih => exact (Ledger.spares_record h l parts r).trans (ih _ _)

end Program

/-! ## The junctures of a dispatch -/

/-- Where a dispatch is with its attempts. -/
inductive Juncture where
  /-- Between two attempts, or before the first. -/
  | between
  /-- Inside a call. -/
  | calling
  /-- The call was answered, and the record is to come. -/
  | owing
  /-- The only attempt was recorded. -/
  | done

namespace Juncture

/-- The juncture after a record: another attempt may follow, or none. -/
def next : Bool → Juncture
  | true => between
  | false => done

/-- Whether a dispatch may have to wait. -/
def waits : Juncture → Bool
  | between | calling => true
  | owing | done => false

/-- Whether a dispatch may have its value. -/
def rests (again : Bool) (juncture : Juncture) : Prop :=
  juncture = between ∨ juncture = next again

end Juncture

namespace Program

variable {p : Program β} {again : Bool} {juncture : Juncture}

/-- **A PROGRAM ATTENDS TO ITS ATTEMPTS** if it calls, is answered and records in turn, and waits
    only between two attempts or inside a call. -/
def Attends (again : Bool) : Program β → Juncture → Prop
  | .done _, juncture => juncture.rests again
  | .panic _, _ => True
  | .stall, juncture => juncture.waits = true
  | .note what next, juncture => what.isRemark = true ∧ next.Attends again juncture
  | .clock next, juncture => ∀ now, (next now).Attends again juncture
  | .sleep _ next, juncture => juncture.waits = true ∧ next.Attends again juncture
  | .pause _ next, juncture => juncture = .between ∧ next.Attends again juncture
  | .closed next, juncture | .slot next, juncture =>
    juncture = .between ∧ ∀ b, (next b).Attends again juncture
  | .call _ next, juncture => juncture = .between ∧ ∀ behaviour, (next behaviour).Attends again .calling
  | .answered next, juncture => juncture = .calling ∧ next.Attends again .owing
  | .record _ next, juncture => juncture = .owing ∧ ∀ refusal, (next refusal).Attends again (.next again)

/-- Remarks may stand before a program that attends to its attempts. -/
theorem Attends.notes {whats : List Happening} (hwhats : ∀ what ∈ whats, what.isRemark = true)
    (hp : p.Attends again juncture) : (Program.notes whats p).Attends again juncture := by
  induction whats with
  | nil => exact hp
  | cons what whats ih =>
      obtain ⟨hwhat, hrest⟩ := List.forall_mem_cons.mp hwhats
      exact ⟨hwhat, ih hrest⟩

/-- A program that attends goes on where the first part rests. -/
theorem Attends.bind {k : β → Program γ} (hp : p.Attends again juncture)
    (hk : ∀ v juncture, juncture.rests again → (k v).Attends again juncture) :
    (p.bind k).Attends again juncture := by
  induction p generalizing juncture with
  | done value => exact hk value juncture hp
  | panic text => exact trivial
  | stall => exact hp
  | note what next ih => exact ⟨hp.1, ih hp.2⟩
  | clock next ih => exact fun now => ih now (hp now)
  | sleep length next ih => exact ⟨hp.1, ih hp.2⟩
  | pause attempt next ih => exact ⟨hp.1, ih hp.2⟩
  | closed next ih => exact ⟨hp.1, fun b => ih b (hp.2 b)⟩
  | slot next ih => exact ⟨hp.1, fun b => ih b (hp.2 b)⟩
  | call request next ih => exact ⟨hp.1, fun behaviour => ih behaviour (hp.2 behaviour)⟩
  | answered next ih => exact ⟨hp.1, ih hp.2⟩
  | record r next ih => exact ⟨hp.1, fun refusal => ih refusal (hp.2 refusal)⟩

end Program

/-- What is told is a remark. -/
theorem isRemark_of_told {entries : List Log} {what : Happening}
    (h : what ∈ entries.map Happening.told) : what.isRemark = true := by
  obtain ⟨entry, -, rfl⟩ := List.mem_map.mp h
  rfl

namespace Observer

variable (again : Bool)

/-- An outcome is handed over after the record. -/
theorem deliver_attends (o : Observer α) (outcome : Outcome Response) :
    (o.deliver outcome).Attends again (.next again) := by
  cases outcome with
  | ok r =>
      rw [deliver]
      refine ⟨rfl, ?_⟩
      cases o.handler.onCompleted o.past r with
      | panics text => exact trivial
      | gives v => exact .notes (fun _ => isRemark_of_told) (Or.inr rfl)
  | error f =>
      rw [deliver]
      refine ⟨rfl, rfl, ?_⟩
      cases o.handler.onFailed o.past f with
      | panics text => exact trivial
      | gives done => exact Or.inr rfl

/-- At its end an attempt hands over its record. -/
theorem finish_attends (o : Observer α) (outcome : Outcome Response) :
    (o.finish outcome).Attends again .owing := by
  have hlate : ∀ what ∈ o.late (.ofOutcome outcome), what.isRemark = true := by
    rw [late]
    split <;> simp [Happening.isRemark]
  have hrefused : ∀ refusal, ∀ what ∈ refused refusal, what.isRemark = true := by
    intro refusal
    cases refusal <;> simp [refused, Happening.isRemark]
  exact fun now => .notes hlate
    ⟨rfl, fun refusal => .notes (hrefused refusal) (o.deliver_attends again outcome)⟩

/-- An attempt follows its call to the answer. -/
theorem follow_attends (b : Behaviour) (o : Observer α) :
    (o.follow b).Attends again .calling := by
  induction b generalizing o with
  | report e next ih =>
      intro now
      refine .notes (fun _ => isRemark_of_told) ?_
      cases o.handler.onEvent o.past e with
      | panics text => exact trivial
      | gives answer => exact ⟨rfl, ih answer _⟩
  | tell entry next ih => exact ⟨rfl, ih o⟩
  | wait length next ih => exact ⟨rfl, ih o⟩
  | stall => exact rfl
  | panic text => exact trivial
  | give outcome => exact ⟨rfl, o.finish_attends again outcome⟩

end Observer

/-- An attempt begins between two, and attends to its call and its record. -/
theorem attempt_attends (again : Bool) (request : Request) (handler : Handler α) (past : Past)
    (position : Position) :
    (attempt request handler past position).Attends again .between :=
  fun _ => ⟨rfl, fun behaviour => Observer.follow_attends again behaviour _⟩

/-- To ask a handler about an attempt is a remark. -/
theorem Retry.review_attends (again : Bool) (handler : Handler α) (a : Attempted α)
    {juncture : Juncture} (hjuncture : juncture.rests again) :
    (review handler a).Attends again juncture := by
  rw [review]
  split
  · refine ⟨rfl, ?_⟩
    split
    · exact trivial
    · exact hjuncture
  · exact hjuncture

/-- The retry loop comes back to where the next attempt may begin. -/
theorem Retry.attempts_attends (request : Request) (handler : Handler α) (history : RetryHistory)
    (past : Past) : (attempts request handler history past).Attends true .between := by
  induction history, past using @attempts.induct α request with
  | case1 history past ih =>
      have hbody : ((trial request handler past history.next).bind fun a =>
          if !request.repeats a.result then
            (.done (a.result.map (·.value), history.add a) : Program (Retried α))
          else if request.maxRetries.toNat ≤ history.next.attempt then
            .tell (.retriesExhausted (history.add a).attempts request.urlText)
              (.done (a.result.map (·.value), history.add a))
          else attempts request handler (history.add a) a.past).Attends true .between := by
        have htrial : (trial request handler past history.next).Attends true .between :=
          (attempt_attends true request handler past history.next).bind
            fun a _ hjuncture => review_attends true handler a hjuncture
        refine htrial.bind fun a juncture hjuncture => ?_
        obtain rfl : juncture = .between := hjuncture.elim id id
        split
        · exact hjuncture
        · split
          · exact ⟨rfl, hjuncture⟩
          · exact ih a ‹_›
      rw [attempts, lead]
      split
      · exact ⟨rfl, hbody⟩
      · exact ⟨rfl, rfl, rfl, hbody⟩

/-- **A DISPATCH ATTENDS TO ITS ATTEMPTS**: to one, or to as many as there are. -/
theorem dispatch_attends (request : Request) (handler : Handler α) :
    (dispatch request handler).Attends request.hasRetryPolicy .between := by
  refine ⟨rfl, fun closed => ?_⟩
  cases closed with
  | true => exact Or.inl rfl
  | false =>
      cases request.hasRetryPolicy with
      | false =>
          exact (attempt_attends false request handler [] .first).bind fun _ _ hjuncture => hjuncture
      | true =>
          refine ⟨rfl, fun granted => ?_⟩
          cases granted with
          | false => exact Or.inl rfl
          | true =>
              exact (Retry.attempts_attends request handler .empty []).bind
                fun _ _ hjuncture => ⟨rfl, hjuncture⟩

/-! ## The books of a task -/

/-- An attempt that has finished: its call, and its record. -/
structure Finished where
  call : Call
  record : Record

/-- What is noted of an attempt that has finished. -/
def Finished.steps (a : Finished) : List Happening :=
  [.called a.call, .answered a.call.number, .recorded a.record]

/-- **WHAT WAS NOTED OF THE ATTEMPTS OF A TASK**, by the juncture it is at: those that have finished,
    and what there is of the last.  Where no attempt may follow another, none has finished before
    the last record. -/
inductive Booked (again : Bool) (n : Nat) (l : Ledger) (finished : List Finished) :
    Juncture → Prop where
  | between (steps : l.stepsOf n = finished.flatMap Finished.steps) (inside : l.inside n = none)
      (first : again = false → finished = []) : Booked again n l finished .between
  | calling (call : Call) (steps : l.stepsOf n = finished.flatMap Finished.steps ++ [.called call])
      (inside : l.inside n = some call.number) (first : again = false → finished = []) :
      Booked again n l finished .calling
  | owing (call : Call)
      (steps : l.stepsOf n
        = finished.flatMap Finished.steps ++ [.called call, .answered call.number])
      (inside : l.inside n = none) (first : again = false → finished = []) :
      Booked again n l finished .owing
  | done (steps : l.stepsOf n = finished.flatMap Finished.steps) (inside : l.inside n = none)
      (last : again = false) : Booked again n l finished .done

namespace Booked

variable {again : Bool} {n : Nat} {l l' : Ledger} {finished : List Finished} {juncture : Juncture}

/-- The books of a task depend on its steps and its call alone. -/
theorem congr (h : Booked again n l finished juncture) (hsteps : l'.stepsOf n = l.stepsOf n)
    (hinside : l'.inside n = l.inside n) : Booked again n l' finished juncture := by
  cases h with
  | between steps inside first =>
      exact .between (hsteps.trans steps) (hinside.trans inside) first
  | calling call steps inside first =>
      exact .calling call (hsteps.trans steps) (hinside.trans inside) first
  | owing call steps inside first =>
      exact .owing call (hsteps.trans steps) (hinside.trans inside) first
  | done steps inside last => exact .done (hsteps.trans steps) (hinside.trans inside) last

theorem spares (h : Booked again n l finished juncture) (hs : l.Spares n l') :
    Booked again n l' finished juncture :=
  h.congr hs.steps hs.inside

theorem stepsOf_mark (l : Ledger) (n : Nat) (what : Happening) :
    (l.mark (some n) what).stepsOf n = l.stepsOf n ++ [what].filter Happening.isStep := by
  have hnotes : (l.mark (some n) what).notesOf n = ⟨l.elapsed, some n, what⟩ :: l.notesOf n :=
    List.filter_cons_of_pos (by simp)
  rw [Ledger.stepsOf, hnotes, List.reverse_cons, List.map_append, List.filter_append]
  rfl

/-- What is no step of an attempt leaves the books as they are. -/
theorem mark (h : Booked again n l finished juncture) {what : Happening}
    (hwhat : what.isStep = false) : Booked again n (l.mark (some n) what) finished juncture := by
  refine h.congr ?_ rfl
  rw [stepsOf_mark, List.filter_cons_of_neg (by simp [hwhat])]
  exact List.append_nil _

/-- A call is made. -/
theorem call (h : Booked again n l finished .between) (parts : Parts) (request : Request) :
    Booked again n (l.call parts n request).1 finished .calling := by
  obtain ⟨steps, inside, first⟩ := h
  refine .calling (l.nextCall request) ?_ List.lookup_cons_self first
  refine (stepsOf_mark _ n _).trans ?_
  exact congrArg (· ++ [Happening.called (l.nextCall request)]) steps

/-- A call is answered. -/
theorem answered (h : Booked again n l finished .calling) :
    Booked again n (l.answered n) finished .owing := by
  cases h with
  | calling call steps inside first =>
      have hlookup : l.running.lookup n = some call.number := inside
      rw [Ledger.answered, hlookup]
      refine .owing call ?_ (Ledger.lookup_forgotten n l.running) first
      refine (stepsOf_mark _ n _).trans ?_
      have hsame : Ledger.stepsOf { l with running := l.running.filter (·.1 != n) } n
          = l.stepsOf n := rfl
      rw [hsame, steps, List.append_assoc]
      rfl

/-- A record is handed to the sink, and the attempt has finished. -/
theorem record (h : Booked again n l finished .owing) (parts : Parts) (r : Record) :
    ∃ finished', Booked again n (l.record parts n r).1 finished' (.next again) := by
  cases h with
  | owing call steps inside first =>
      let a : Finished := ⟨call, r⟩
      refine ⟨finished ++ [a], ?_⟩
      have hsteps : (Ledger.mark { l with records := r :: l.records } (some n)
          (.recorded r)).stepsOf n = (finished ++ [a]).flatMap Finished.steps := by
        refine (stepsOf_mark _ n _).trans ?_
        have hsame : Ledger.stepsOf { l with records := r :: l.records } n = l.stepsOf n := rfl
        rw [hsame, steps, List.append_assoc, List.flatMap_append]
        rfl
      have hrecorded : Booked again n (Ledger.mark { l with records := r :: l.records } (some n)
          (.recorded r)) (finished ++ [a]) (.next again) := by
        cases again with
        | true => exact .between hsteps inside fun h => nomatch h
        | false => exact .done hsteps inside rfl
      rw [Ledger.record]
      dsimp only
      split
      · exact hrecorded.mark rfl
      · exact hrecorded

end Booked

namespace Program

variable {p : Program β} {again : Bool} {juncture : Juncture} {n : Nat} {finished : List Finished}

/-- A program waits, and its books are kept. -/
structure Keeps (again : Bool) (n : Nat) (l : Ledger) (q : Program β) (juncture : Juncture)
    (finished : List Finished) : Prop where
  attends : q.Attends again juncture
  waits : juncture.waits = true
  booked : Booked again n l finished juncture

/-- **A TASK THAT RUNS KEEPS ITS BOOKS**, up to where it has to wait. -/
theorem Attends.run (hp : p.Attends again juncture) (parts : Parts) {l : Ledger}
    (hb : Booked again n l finished juncture) {q : Program β}
    (hq : (p.run parts n l).2.rest? = some q) :
    ∃ juncture finished, Keeps again n (p.run parts n l).1 q juncture finished := by
  induction p generalizing l juncture finished with
  | done value => cases hq
  | panic text => cases hq
  | stall =>
      cases hq
      exact ⟨juncture, finished, hp, hp, hb⟩
  | note what next ih => exact ih hp.2 (hb.mark (Happening.isStep_of_isRemark hp.1)) hq
  | clock next ih => exact ih _ (hp l.now) hb hq
  | sleep length next ih =>
      rw [Program.run] at hq ⊢
      split at hq
      · rw [if_pos ‹_›]
        exact ih hp.2 hb hq
      · rw [if_neg ‹_›]
        cases hq
        exact ⟨juncture, finished, hp.2, hp.1, hb⟩
  | pause attempt next ih =>
      obtain ⟨rfl, hnext⟩ := hp
      have hasked : Booked again n { l with pauses := attempt :: l.pauses } finished .between :=
        hb.congr rfl rfl
      have hpaused : Booked again n (l.pause parts n attempt).1 finished .between :=
        hasked.mark rfl
      rw [Program.run] at hq ⊢
      dsimp only at hq ⊢
      split at hq
      · rw [if_pos ‹_›]
        exact ih hnext hpaused hq
      · rw [if_neg ‹_›]
        cases hq
        exact ⟨.between, finished, hnext, rfl, hpaused⟩
  | closed next ih => exact ih _ (hp.2 l.closed) hb hq
  | slot next ih =>
      have hpool : ∀ pool, Booked again n { l with pool := pool } finished juncture :=
        fun _ => hb.congr rfl rfl
      rw [Program.run] at hq ⊢
      generalize l.pool.acquire n = acquired at hq ⊢
      obtain ⟨pool, reception⟩ := acquired
      cases reception with
      | taken => exact ih true (hp.2 true) (hpool pool) hq
      | turnedDown => exact ih false (hp.2 false) (hpool pool) hq
      | wait =>
          cases hq
          obtain ⟨rfl, -⟩ := id hp
          exact ⟨.between, finished, hp, rfl, hpool pool⟩
  | call request next ih =>
      obtain ⟨rfl, hnext⟩ := hp
      exact ih _ (hnext _) (hb.call parts request) hq
  | answered next ih =>
      obtain ⟨rfl, hnext⟩ := hp
      exact ih hnext hb.answered hq
  | record r next ih =>
      obtain ⟨rfl, hnext⟩ := hp
      obtain ⟨finished', hrecorded⟩ := hb.record parts r
      exact ih _ (hnext _) hrecorded hq

end Program

end Courier
