import Courier.Proofs.Program.Conversations

/-!
# Attempts — what one call of the transport comes to

An attempt calls the transport once and asks for no delay.  What it comes to depends on three things
only: the handler, what the handler was asked before, and what the transport does with the call.
The handler answers the events (`Handler.hears`), and makes something of the outcome
(`Handler.judges`).  The clocks and the sink have no part in it (`attempt_goes`).
-/

namespace Courier

variable {α : Type}

/-- A behaviour that comes to an outcome, whatever it is answered. -/
def Behaviour.Returns : Behaviour → Prop
  | .report _ next => ∀ answer, (next answer).Returns
  | .tell _ next | .wait _ next => next.Returns
  | .stall | .panic _ => False
  | .give _ => True

/-- **NO RESPONSE HAS THE CODE THAT SAYS THAT THERE WAS NONE.** -/
theorem codeOf_eq_noResponseCode_iff (outcome : Outcome Response) :
    codeOf outcome = noResponseCode ↔ ∃ f, outcome = .error f := by
  cases outcome with
  | ok r =>
      refine iff_of_false (fun hneg => ?_) fun ⟨f, hf⟩ => nomatch hf
      have hpos : (0 : Int) ≤ r.code := Int.natCast_nonneg r.code
      rw [show (r.code : Int) = noResponseCode from hneg] at hpos
      exact absurd hpos (by decide)
  | error f => exact iff_of_true rfl ⟨f, rfl⟩

namespace Handler

/-- A handler that answers whatever it is asked. -/
structure Returns (h : Handler α) : Prop where
  onEvent : ∀ past e, ∃ answer, h.onEvent past e = .gives answer
  onCompleted : ∀ past r, ∃ v, h.onCompleted past r = .gives v
  onFailed : ∀ past f, h.onFailed past f = .gives ()
  statusOf : ∀ past, ∃ status, h.statusOf past = .gives status

/-- What a behaviour comes to when a handler answers its events: what the handler was asked by then,
    and the outcome. -/
def hears (h : Handler α) : Past → Behaviour → Option (Past × Outcome Response)
  | past, .report e next =>
    match h.onEvent past e with
    | .panics _ => none
    | .gives answer => h.hears (.event e answer :: past) (next answer)
  | past, .tell _ next | past, .wait _ next => h.hears past next
  | _, .stall | _, .panic _ => none
  | past, .give outcome => some (past, outcome)

/-- What a handler makes of the outcome of an attempt: of a response its own result, with the status
    of the response as code, whether it takes the response or not; and of a failure nothing else,
    with the code that says that there was no response. -/
def judges (h : Handler α) (past : Past) : Outcome Response → Option (Attempted α)
  | .ok r =>
    match h.onCompleted past r with
    | .panics _ => none
    | .gives v => some ⟨v.outcome, r.code, .completed r :: past⟩
  | .error f =>
    match h.onFailed past f with
    | .panics _ => none
    | .gives () => some ⟨.error f, noResponseCode, .failed f :: past⟩

variable {h : Handler α} {past : Past} {outcome : Outcome Response} {a : Attempted α}

/-- The code of an attempt is that of its outcome. -/
theorem code_of_judges (hj : h.judges past outcome = some a) :
    a.code = codeOf outcome ∧ (a.code = noResponseCode ↔ ∃ f, outcome = .error f) := by
  have hcode : a.code = codeOf outcome := by
    cases outcome with
    | ok r =>
        rw [judges] at hj
        split at hj
        · cases hj
        · cases hj
          rfl
    | error f =>
        rw [judges] at hj
        split at hj
        · cases hj
        · cases hj
          rfl
  exact ⟨hcode, hcode ▸ codeOf_eq_noResponseCode_iff outcome⟩

end Handler

namespace Observer

variable {o : Observer α} {q : Program (Attempted α)} {talk : List Deed}

/-- Notes are neither calls nor delays. -/
theorem asked_after_notes (whats : List Happening) (rest : List Deed) :
    callsOf (whats.map .noted ++ rest) = callsOf rest ∧
      pausesOf (whats.map .noted ++ rest) = pausesOf rest := by
  have hcalls : callsOf (whats.map .noted) = [] := by simp [callsOf, Deed.call?]
  have hpauses : pausesOf (whats.map .noted) = [] := by simp [pausesOf, Deed.pause?]
  rw [callsOf_append, pausesOf_append, hcalls, hpauses]
  exact ⟨rfl, rfl⟩

/-- What is handed over is what the handler makes of the outcome; no call is made for it, and no
    delay is asked for. -/
theorem deliver_goes (hh : o.handler.Returns) {outcome : Outcome Response}
    (hg : (o.deliver outcome).Goes talk q) (hq : q.isOver = true) :
    ∃ a, q = .done a ∧ o.handler.judges o.past outcome = some a ∧
      callsOf talk = [] ∧ pausesOf talk = [] := by
  cases outcome with
  | ok r =>
      obtain ⟨v, hv⟩ := hh.onCompleted o.past r
      rw [deliver, hv] at hg
      dsimp only at hg
      rw [Handler.judges, hv]
      cases hg with
      | stay => cases hq
      | note hg =>
          obtain ⟨rest, rfl, hrest⟩ := hg.of_notes hq
          cases hrest with
          | stay => exact ⟨_, rfl, rfl, asked_after_notes _ []⟩
  | error f =>
      have hf := hh.onFailed o.past f
      rw [deliver, hf] at hg
      dsimp only at hg
      rw [Handler.judges, hf]
      cases hg with
      | stay => cases hq
      | note hg =>
          cases hg with
          | stay => cases hq
          | note hg =>
              cases hg with
              | stay => exact ⟨_, rfl, rfl, rfl, rfl⟩

/-- The end of an attempt is what the handler makes of its outcome. -/
theorem finish_goes (hh : o.handler.Returns) {outcome : Outcome Response}
    (hg : (o.finish outcome).Goes talk q) (hq : q.isOver = true) :
    ∃ a, q = .done a ∧ o.handler.judges o.past outcome = some a ∧
      callsOf talk = [] ∧ pausesOf talk = [] := by
  cases hg with
  | stay => cases hq
  | clock now hg =>
      obtain ⟨rest, rfl, hrest⟩ := hg.of_notes hq
      have hlate := asked_after_notes (o.late (.ofOutcome outcome)) rest
      cases hrest with
      | stay => cases hq
      | record refusal hrecord =>
          obtain ⟨rest, rfl, hend⟩ := hrecord.of_notes hq
          have hrefused := asked_after_notes (refused refusal) rest
          obtain ⟨a, rfl, hj, hcalls, hpauses⟩ := deliver_goes hh hend hq
          refine ⟨a, rfl, hj, ?_, ?_⟩
          · exact hlate.1.trans (hrefused.1.trans hcalls)
          · exact hlate.2.trans (hrefused.2.trans hpauses)

/-- What comes of a call that returns. -/
theorem follow_goes (b : Behaviour) (hb : b.Returns) (o : Observer α) (hh : o.handler.Returns)
    {talk : List Deed} (hg : (o.follow b).Goes talk q) (hq : q.isOver = true) :
    ∃ past outcome a, q = .done a ∧ o.handler.hears o.past b = some (past, outcome) ∧
      o.handler.judges past outcome = some a ∧ callsOf talk = [] ∧ pausesOf talk = [] := by
  -- what is said on the way, to the handler or to a listener, is neither a call nor a pause
  induction b generalizing o talk with
  | report e next ih =>
      obtain ⟨answer, ha⟩ := hh.onEvent o.past e
      rw [follow, hear] at hg
      rw [Handler.hears, ha]
      cases hg with
      | stay => cases hq
      | clock now hg =>
          obtain ⟨rest, rfl, hrest⟩ := hg.of_notes hq
          have htold := asked_after_notes ((o.toldOf e).map .told) rest
          rw [ha] at hrest
          dsimp only at hrest
          cases hrest with
          | stay => cases hq
          | note hg =>
              obtain ⟨past, outcome, a, rfl, hhears, hj, hcalls, hpauses⟩ :=
                ih answer (hb answer) { o with
                  past := .event e answer :: o.past
                  timer := o.timer.onEvent now.elapsed e } hh hg
              refine ⟨past, outcome, a, rfl, hhears, hj, ?_, ?_⟩
              · exact htold.1.trans hcalls
              · exact htold.2.trans hpauses
  | tell entry next ih =>
      cases hg with
      | stay => cases hq
      | note hg =>
          have hrest := ih hb o hh hg
          exact hrest
  | wait length next ih =>
      cases hg with
      | stay => cases hq
      | sleep hg =>
          have hrest := ih hb o hh hg
          exact hrest
  | stall => exact hb.elim
  | panic text => exact hb.elim
  | give outcome =>
      cases hg with
      | stay => cases hq
      | answered hg =>
          obtain ⟨a, rfl, hj, hcalls, hpauses⟩ := finish_goes hh hg hq
          exact ⟨o.past, outcome, a, rfl, rfl, hj, hcalls, hpauses⟩

/-! ## What an observer does while it watches -/

/-- To hand an outcome over makes no call. -/
theorem deliver_calm (o : Observer α) (outcome : Outcome Response) :
    (o.deliver outcome).Calm False := by
  cases outcome with
  | ok r =>
      refine ⟨rfl, ?_⟩
      split
      · exact trivial
      · refine .notes ?_ trivial
        rintro _ hw
        obtain ⟨entry, -, rfl⟩ := List.mem_map.mp hw
        rfl
  | error f =>
      refine ⟨rfl, rfl, ?_⟩
      split <;> exact trivial

/-- The end of an attempt makes no call. -/
theorem finish_calm (o : Observer α) (outcome : Outcome Response) :
    (o.finish outcome).Calm False := by
  intro now
  refine .notes ?_ fun refusal => .notes ?_ (o.deliver_calm outcome)
  · intro what hw
    rw [late] at hw
    split at hw
    · rw [List.mem_singleton.mp hw]
      rfl
    · cases hw
  · intro what hw
    cases refusal with
    | none => cases hw
    | some reason =>
        rw [List.mem_singleton.mp hw]
        rfl

/-- An observer makes no call while it follows one. -/
theorem follow_calm (b : Behaviour) (o : Observer α) : (o.follow b).Calm False := by
  induction b generalizing o with
  | report e next ih =>
      intro now
      refine .notes ?_ ?_
      · rintro _ hw
        obtain ⟨entry, -, rfl⟩ := List.mem_map.mp hw
        rfl
      · split
        · exact trivial
        · exact ⟨rfl, ih _ _⟩
  | tell entry next ih => exact ⟨rfl, ih o⟩
  | wait length next ih => exact ih o
  | stall => exact trivial
  | panic text => exact trivial
  | give outcome => exact o.finish_calm outcome

end Observer

variable {request : Request} {handler : Handler α} {past : Past} {position : Position}
  {talk : List Deed} {q : Program (Attempted α)}

/-- An attempt may make a call. -/
theorem attempt_calm (request : Request) (handler : Handler α) (past : Past)
    (position : Position) : (attempt request handler past position).Calm True :=
  fun _ => ⟨trivial, fun behaviour => (Observer.follow_calm behaviour _).mono False.elim⟩

/-- **AN ATTEMPT CALLS THE TRANSPORT ONCE**, and what it comes to follows from what the transport
    does with the call and from what the handler makes of it. -/
theorem attempt_goes (hh : handler.Returns)
    (hg : (attempt request handler past position).Goes talk q) (hq : q.isOver = true)
    (hb : ∀ c ∈ callsOf talk, c.2.Returns) :
    ∃ b past' outcome a, q = .done a ∧ handler.hears past b = some (past', outcome) ∧
      handler.judges past' outcome = some a ∧ callsOf talk = [(request, b)] ∧
      pausesOf talk = [] := by
  cases hg with
  | stay => cases hq
  | clock now hg =>
      cases hg with
      | stay => cases hq
      | call b hg =>
          have hreturns : b.Returns := hb _ List.mem_cons_self
          obtain ⟨past', outcome, a, rfl, hhears, hj, hcalls, hpauses⟩ :=
            Observer.follow_goes b hreturns _ hh hg hq
          refine ⟨b, past', outcome, a, rfl, hhears, hj, ?_, hpauses⟩
          exact congrArg ((request, b) :: ·) hcalls

end Courier
