import Courier.Proofs.Attempt.Observation
import Courier.Proofs.Attempt.Timings
import Courier.Proofs.Program.Books

/-!
# Vouching — what stands in the records of a dispatch

A dispatch that hands a record to the sink has just had the answer to a call, and the record says
what that answer was: its code, timings that never decrease, and in its tag the code of the record
before it (`Case.Sound`).  A `Docket` is how far a dispatch is with its attempts, and which answers
they had.  A program vouches for its records (`Program.Vouches`) if, from where it is, it calls, is
answered and records in turn, each record is the right one, and it has no value and does not panic
before it has called, unless it was refused.  Every dispatch vouches for its records
(`dispatch_vouches`).
-/

namespace Courier

variable {α β γ : Type}

/-- The tag of a record, given the record of the attempt before it, if there is one. -/
def tagAfter : Option Record → String
  | none => "single"
  | some r => "single|retry:" ++ String.ofList (Numeral.integer r.code)

/-- An attempt that has finished: its call and the calls before it, latest first, what the handler
was asked when the outcome arrived, the outcome, and the record. -/
structure Case where
  call : Call
  earlier : List Call
  heard : Past
  outcome : Outcome Response
  record : Record

/-- What there is to do: the request, to which outcome a transport comes whose events the handler
answers, given what the handler was asked before, and what it was asked by the end of an attempt
that is repeated, given what it was asked before its outcome. -/
structure Errand where
  request : Request
  hears : Past → Behaviour → Option (Past × Outcome Response)
  leaves : Past → Outcome Response → Past

/-- What a handler was asked when the attempt after this one begins: about the outcome, and where it
made a result of it, which status that shows. -/
def Handler.leaves (h : Handler α) (past : Past) (outcome : Outcome Response) : Past :=
  ((h.judges past outcome).bind h.reviews).elim past (·.past)

/-- A request is dispatched for a handler. -/
def Errand.of (request : Request) (handler : Handler α) : Errand :=
  ⟨request, handler.hears, handler.leaves⟩

namespace Case

/-- What is noted of an attempt that has finished. -/
def steps (c : Case) : List Happening :=
  [.called c.call, .answered c.call.number, .recorded c.record]

/-- What the handler was asked when the next attempt begins. -/
def pastAfter (errand : Errand) : Option Case → Past
  | none => []
  | some c => errand.leaves c.heard c.outcome

/-- **THE RECORD OF AN ATTEMPT IS THE RIGHT ONE**, after this attempt: the outcome is the one to
which the transport comes with the call when the handler answers its events, the code is that of the
response, or says that there was none, the timings never decrease, and the tag tells the code
before. -/
structure Sound (transport : Transport) (errand : Errand) (last : Option Case) (c : Case) :
    Prop where
  request : c.call.request = errand.request
  given : errand.hears (pastAfter errand last) (transport c.earlier c.call) = some (c.heard, c.outcome)
  code : c.record.code = codeOf c.outcome
  noResponse : c.record.code = noResponseCode ↔ ∃ f, c.outcome = .error f
  monotonic : c.record.progress.isMonotonic = true
  tag : c.record.tag = tagAfter (last.map Case.record)

/-- The attempts of one request, each after the one before it. -/
def Chained (transport : Transport) (errand : Errand) (cases : List Case) : Prop :=
  ∀ (i : Nat) (c : Case), cases[i]? = some c →
    c.Sound transport errand (cases.take i).getLast?

variable {transport : Transport} {errand : Errand} {cases : List Case} {c : Case}

theorem Chained.concat (h : Chained transport errand cases)
    (hc : c.Sound transport errand cases.getLast?) :
    Chained transport errand (cases ++ [c]) := by
  intro i x hx
  rcases Nat.lt_or_ge i cases.length with hlt | hge
  · rw [List.getElem?_append_left hlt] at hx
    rw [List.take_append_of_le_length (Nat.le_of_lt hlt)]
    exact h i x hx
  · rw [List.getElem?_append_right hge] at hx
    have hi : i = cases.length := by
      have hlast := (List.getElem?_eq_some_iff.mp hx).1
      rw [List.length_singleton] at hlast
      omega
    subst hi
    rw [Nat.sub_self] at hx
    cases hx
    rw [List.take_left]
    exact hc

end Case

/-- How far a dispatch is with its attempts. -/
inductive Docket where
  /-- Between two attempts, or before the first. -/
  | between (cases : List Case)
  /-- Inside a call, made after these calls. -/
  | calling (cases : List Case) (call : Call) (earlier : List Call)
  /-- The call was answered, and the record is to come. -/
  | owing (cases : List Case) (call : Call) (earlier : List Call) (heard : Past)
    (outcome : Outcome Response)

namespace Docket

/-- The attempts that have finished. -/
def cases : Docket → List Case
  | between cases | calling cases _ _ | owing cases _ _ _ _ => cases

/-- The call of the attempt that has not finished, if there is one. -/
def call? : Docket → Option (Call × List Call)
  | between _ => none
  | calling _ call earlier | owing _ call earlier _ _ => some (call, earlier)

/-- What is noted of the attempts. -/
def steps : Docket → List Happening
  | between cases => cases.flatMap Case.steps
  | calling cases call _ => cases.flatMap Case.steps ++ [.called call]
  | owing cases call _ _ _ => cases.flatMap Case.steps ++ [.called call, .answered call.number]

/-- The call that is not answered. -/
def inside : Docket → Option Nat
  | calling _ call _ => some call.number
  | between _ | owing _ _ _ _ _ => none

/-- Whether the dispatch may have to wait here, or be dropped. -/
def waits : Docket → Bool
  | owing _ _ _ _ _ => false
  | between _ | calling _ _ _ => true

/-- How many records are owed. -/
def owed : Docket → Nat
  | owing _ _ _ _ _ => 1
  | between _ | calling _ _ _ => 0

/-- Whether the transport has been called. -/
def hasCalled : Docket → Bool
  | between cases => !cases.isEmpty
  | calling _ _ _ | owing _ _ _ _ _ => true

theorem owed_of_waits {d : Docket} (h : d.waits = true) : d.owed = 0 := by
  cases d with
  | owing => cases h
  | _ => rfl

end Docket

namespace Program

/-- **A PROGRAM VOUCHES FOR ITS RECORDS** from somewhere on, up to a value of which this holds. -/
def Vouches (transport : Transport) (errand : Errand) (mayRefuse : Prop)
    (comes : β → List Case → Prop) : Program β → Docket → Prop
  | .done v, d => ∃ cases, d = .between cases ∧ comes v cases
  | .panic _, d => d.waits = true ∧ d.hasCalled = true
  | .stall, d => d.waits = true
  | .note what next, d =>
    what.isRemark = true ∧ next.Vouches transport errand mayRefuse comes d
  | .clock next, d => ∀ now, (next now).Vouches transport errand mayRefuse comes d
  | .sleep _ next, d | .pause _ next, d =>
    d.waits = true ∧ next.Vouches transport errand mayRefuse comes d
  | .closed next, d =>
    ∀ b, (b = true → mayRefuse) → (next b).Vouches transport errand mayRefuse comes d
  | .slot next, d => d.waits = true ∧
    ∀ b, (b = false → mayRefuse) → (next b).Vouches transport errand mayRefuse comes d
  | .call r next, d => ∃ cases, d = .between cases ∧ r = errand.request ∧
    ∀ call earlier, call.request = errand.request →
      (next (transport earlier call)).Vouches transport errand mayRefuse comes
        (.calling cases call earlier)
  | .answered next, d => ∃ cases call earlier heard outcome, d = .calling cases call earlier ∧
    errand.hears (Case.pastAfter errand cases.getLast?) (transport earlier call) = some (heard, outcome) ∧
      next.Vouches transport errand mayRefuse comes
        (.owing cases call earlier heard outcome)
  | .record r next, d => ∃ cases call earlier heard outcome,
    d = .owing cases call earlier heard outcome ∧
      Case.Sound transport errand cases.getLast? ⟨call, earlier, heard, outcome, r⟩ ∧
        ∀ refusal, (next refusal).Vouches transport errand mayRefuse comes
          (.between (cases ++ [⟨call, earlier, heard, outcome, r⟩]))

section Vouches

variable {transport : Transport} {errand : Errand} {mayRefuse : Prop}
  {comes : β → List Case → Prop} {comes' : γ → List Case → Prop} {p : Program β} {d : Docket}

theorem Vouches.notes {whats : List Happening} (hwhats : ∀ what ∈ whats, what.isRemark = true)
    (hp : p.Vouches transport errand mayRefuse comes d) :
    (Program.notes whats p).Vouches transport errand mayRefuse comes d := by
  induction whats with
  | nil => exact hp
  | cons what whats ih =>
      obtain ⟨hwhat, hrest⟩ := List.forall_mem_cons.mp hwhats
      exact ⟨hwhat, ih hrest⟩

/-- **WHAT IS VOUCHED FOR STEP BY STEP IS VOUCHED FOR.** -/
theorem Vouches.bind {k : β → Program γ}
    (hp : p.Vouches transport errand mayRefuse comes d)
    (hk : ∀ v cases, comes v cases →
      (k v).Vouches transport errand mayRefuse comes' (.between cases)) :
    (p.bind k).Vouches transport errand mayRefuse comes' d := by
  induction p generalizing d with
  | done value =>
      obtain ⟨cases, rfl, hcomes⟩ := hp
      exact hk value cases hcomes
  | panic text => exact hp
  | stall => exact hp
  | note what next ih => exact ⟨hp.1, ih hp.2⟩
  | clock next ih => exact fun now => ih now (hp now)
  | sleep length next ih => exact ⟨hp.1, ih hp.2⟩
  | pause attempt next ih => exact ⟨hp.1, ih hp.2⟩
  | closed next ih => exact fun b hb => ih b (hp b hb)
  | slot next ih => exact ⟨hp.1, fun b hb => ih b (hp.2 b hb)⟩
  | call r next ih =>
      obtain ⟨cases, hd, hr, hnext⟩ := hp
      exact ⟨cases, hd, hr, fun call earlier hcall => ih _ (hnext call earlier hcall)⟩
  | answered next ih =>
      obtain ⟨cases, call, earlier, heard, outcome, hd, hgiven, hnext⟩ := hp
      exact ⟨cases, call, earlier, heard, outcome, hd, hgiven, ih hnext⟩
  | record r next ih =>
      obtain ⟨cases, call, earlier, heard, outcome, hd, hsound, hnext⟩ := hp
      exact ⟨cases, call, earlier, heard, outcome, hd, hsound, fun refusal => ih _ (hnext refusal)⟩

/-- The time that a program takes is nobody's record. -/
theorem Vouches.timed (hp : p.Vouches transport errand mayRefuse comes d) :
    p.timed.Vouches transport errand mayRefuse (fun v => comes v.1) d :=
  fun _ => hp.bind fun _ cases hcomes _ => ⟨cases, rfl, hcomes⟩

end Vouches

end Program

/-! ## A dispatch vouches for its records -/

/-- What an attempt came to: what the handler makes of the outcome of the last case. -/
def Judged (handler : Handler α) (before : List Case) (a : Attempted α) (cases : List Case) :
    Prop :=
  ∃ c, cases = before ++ [c] ∧ c.record.code = codeOf c.outcome ∧
    handler.judges c.heard c.outcome = some a

/-- What a request came to: the result of its last attempt. -/
def Concluded (handler : Handler α) (result : Outcome α) (cases : List Case) : Prop :=
  ∃ before c a, cases = before ++ [c] ∧ handler.judges c.heard c.outcome = some a ∧
    result = a.result

/-- What a dispatch comes to: the result of its last attempt, or there was none, and it was told
that the client is closed. -/
def Dispatched (mayRefuse : Prop) (handler : Handler α) (result : Outcome α)
    (cases : List Case) : Prop :=
  Concluded handler result cases ∨ (mayRefuse ∧ cases = [] ∧ result = .error .closed)

section Dispatch

variable {transport : Transport} {request : Request} {mayRefuse : Prop} {before : List Case}

theorem hasCalled_concat (c : Case) : (Docket.between (before ++ [c])).hasCalled = true := by
  simp [Docket.hasCalled]

namespace Observer

theorem deliver_vouches (o : Observer α) {c : Case} (hcode : c.record.code = codeOf c.outcome)
    (hheard : o.past = c.heard) :
    (o.deliver c.outcome).Vouches transport (.of request o.handler) mayRefuse
      (Judged o.handler before) (.between (before ++ [c])) := by
  cases houtcome : c.outcome with
  | ok r =>
      rw [deliver]
      refine ⟨rfl, ?_⟩
      cases hasked : o.handler.onCompleted o.past r with
      | panics text => exact ⟨rfl, hasCalled_concat c⟩
      | gives v =>
          refine .notes (fun _ => isRemark_of_told) ⟨_, rfl, c, rfl, hcode, ?_⟩
          rw [houtcome, ← hheard, Handler.judges, hasked]
          rfl
  | error f =>
      rw [deliver]
      refine ⟨rfl, rfl, ?_⟩
      cases hasked : o.handler.onFailed o.past f with
      | panics text => exact ⟨rfl, hasCalled_concat c⟩
      | gives done =>
          refine ⟨_, rfl, c, rfl, hcode, ?_⟩
          rw [houtcome, ← hheard, Handler.judges, hasked]
          rfl

variable {call : Call} {earlier : List Call}

/-- The record is the right one: the timer was settled by the end of the attempt, and the code is
that of the outcome. -/
theorem finish_vouches (o : Observer α) {outcome : Outcome Response}
    (hgiven : o.handler.hears (Case.pastAfter (.of request o.handler) before.getLast?)
      (transport earlier call)
      = some (o.past, outcome)) (hcall : call.request = request)
    (htimer : o.timer.Steady) (htag : o.position.tag = tagAfter (before.getLast?.map Case.record)) :
    (o.finish outcome).Vouches transport (.of request o.handler) mayRefuse (Judged o.handler before)
      (.owing before call earlier o.past outcome) := by
  have hlate : ∀ what ∈ o.late (.ofOutcome outcome), what.isRemark = true := by
    rw [late]
    split <;> simp [Happening.isRemark]
  have hrefused : ∀ refusal, ∀ what ∈ refused refusal, what.isRemark = true := by
    intro refusal
    cases refusal <;> simp [refused, Happening.isRemark]
  intro now
  have hcode : (o.record outcome now).code = codeOf outcome := by
    cases outcome <;> rfl
  have hterminal : (Event.ofOutcome outcome).isTerminal = true := by
    cases outcome <;> rfl
  have hsound : Case.Sound transport (.of request o.handler) before.getLast?
      ⟨call, earlier, o.past, outcome, o.record outcome now⟩ :=
    ⟨hcall, hgiven, hcode, hcode ▸ codeOf_eq_noResponseCode_iff outcome,
      htimer.isMonotonic_at_end now.elapsed hterminal, htag⟩
  exact .notes hlate ⟨before, call, earlier, o.past, outcome, rfl, hsound, fun refusal =>
    .notes (hrefused refusal)
      (o.deliver_vouches (c := ⟨call, earlier, o.past, outcome, o.record outcome now⟩) hcode rfl)⟩

/-- What the handler was asked by now, and what the transport still does, tell to which outcome it
all comes. -/
theorem follow_vouches (b : Behaviour) (o : Observer α)
    (hleft : o.handler.hears (Case.pastAfter (.of request o.handler) before.getLast?)
      (transport earlier call)
      = o.handler.hears o.past b)
    (hcall : call.request = request) (htimer : o.timer.Steady)
    (htag : o.position.tag = tagAfter (before.getLast?.map Case.record)) :
    (o.follow b).Vouches transport (.of request o.handler) mayRefuse (Judged o.handler before)
      (.calling before call earlier) := by
  induction b generalizing o with
  | report e next ih =>
      rw [Handler.hears] at hleft
      intro now
      refine .notes (fun _ => isRemark_of_told) ?_
      cases hasked : o.handler.onEvent o.past e with
      | panics text => exact ⟨rfl, rfl⟩
      | gives answer =>
          rw [hasked] at hleft
          have hnext := ih answer { o with
              past := .event e answer :: o.past
              timer := o.timer.onEvent now.elapsed e }
            hleft (htimer.onEvent now.elapsed e) htag
          exact ⟨rfl, hnext⟩
  | tell entry next ih => exact ⟨rfl, ih o hleft htimer htag⟩
  | wait length next ih => exact ⟨rfl, ih o hleft htimer htag⟩
  | stall => exact rfl
  | panic text => exact ⟨rfl, rfl⟩
  | give outcome =>
      exact ⟨before, call, earlier, o.past, outcome, rfl, hleft,
        o.finish_vouches hleft hcall htimer htag⟩

end Observer

theorem attempt_vouches (handler : Handler α) {past : Past} {position : Position}
    (hpast : past = Case.pastAfter (.of request handler) before.getLast?)
    (htag : position.tag = tagAfter (before.getLast?.map Case.record)) :
    (attempt request handler past position).Vouches transport (.of request handler) mayRefuse
      (Judged handler before) (.between before) := by
  refine fun now => ⟨before, rfl, rfl, fun call earlier hcall => ?_⟩
  exact Observer.follow_vouches _ ⟨handler, past, .start now.elapsed, request, position⟩
    (hpast ▸ rfl) hcall (ProgressTimer.steady_start now.elapsed) htag

/-- The tag of an attempt tells the code of the attempt before it. -/
theorem RetryHistory.tag_next {history : RetryHistory}
    (h : history.codes = before.map fun c => c.record.code) :
    history.next.tag = tagAfter (before.getLast?.map Case.record) := by
  have hattempts : history.attempts = before.length := by
    rw [attempts, h, List.length_map]
  rw [next, h, hattempts, List.getLast?_map]
  cases hlast : before.getLast? with
  | none => rfl
  | some c =>
      have hlength : 0 < before.length :=
        List.length_pos_of_mem (List.mem_of_getLast? hlast)
      have hnumber : min before.length Position.maxAttempt ≠ 0 := by
        have hmax : 0 < Position.maxAttempt := by decide
        omega
      exact if_neg hnumber

/-- What a request came to by one attempt of the loop: what the handler makes of the outcome of the
last case, once it was asked about that. -/
def Reviewed (handler : Handler α) (before : List Case) (b : Attempted (Product α))
    (cases : List Case) : Prop :=
  ∃ c a, cases = before ++ [c] ∧ c.record.code = codeOf c.outcome ∧
    handler.judges c.heard c.outcome = some a ∧ handler.reviews a = some b

theorem Retry.trial_vouches (handler : Handler α) {past : Past} {position : Position}
    (hpast : past = Case.pastAfter (.of request handler) before.getLast?)
    (htag : position.tag = tagAfter (before.getLast?.map Case.record)) :
    (trial request handler past position).Vouches transport (.of request handler) mayRefuse
      (Reviewed handler before) (.between before) := by
  refine (attempt_vouches handler hpast htag).bind ?_
  rintro a _ ⟨c, rfl, hcode, hjudges⟩
  cases hresult : a.result with
  | ok value =>
      rw [review, hresult]
      refine ⟨rfl, ?_⟩
      cases hasked : handler.statusOf a.past with
      | panics text => exact ⟨rfl, hasCalled_concat c⟩
      | gives status =>
          refine ⟨_, rfl, c, a, rfl, hcode, hjudges, ?_⟩
          rw [Handler.reviews, hresult]
          simp only [hasked]
  | error f =>
      rw [review, hresult]
      refine ⟨_, rfl, c, a, rfl, hcode, hjudges, ?_⟩
      rw [Handler.reviews, hresult]

theorem Retry.attempts_vouches (handler : Handler α) {history : RetryHistory} {past : Past}
    (h : history.codes = before.map fun c => c.record.code)
    (hpast : past = Case.pastAfter (.of request handler) before.getLast?) :
    (attempts request handler history past).Vouches transport (.of request handler) mayRefuse
      (fun out cases => Concluded handler out.1 cases) (.between before) := by
  -- the history has the codes of the attempts so far, so it knows the tag of the next record
  induction history, past using @attempts.induct α request generalizing before with
  | case1 history past ih =>
      have hbody : ((trial request handler past history.next).bind fun a =>
          if !request.repeats a.result then
            (.done (a.result.map (·.value), history.add a) : Program (Retried α))
          else if request.maxRetries.toNat ≤ history.next.attempt then
            .tell (.retriesExhausted (history.add a).attempts request.urlText)
              (.done (a.result.map (·.value), history.add a))
          else attempts request handler (history.add a) a.past).Vouches transport
            (.of request handler) mayRefuse (fun out cases => Concluded handler out.1 cases)
            (.between before) := by
        refine (trial_vouches handler hpast (RetryHistory.tag_next h)).bind ?_
        rintro b _ ⟨c, a, rfl, hcode, hjudges, hreviews⟩
        obtain ⟨hvalue, hsame⟩ := Handler.value_of_reviews hreviews
        have hconcluded : Concluded handler (b.result.map (·.value)) (before ++ [c]) :=
          ⟨before, c, a, rfl, hjudges, hvalue⟩
        split
        · exact ⟨_, rfl, hconcluded⟩
        · split
          · exact ⟨rfl, _, rfl, hconcluded⟩
          · refine ih b ‹_› ?_ ?_
            · rw [RetryHistory.add, h, List.map_append, hsame,
                (Handler.code_of_judges hjudges).1, ← hcode]
              rfl
            · have hleaves : handler.leaves c.heard c.outcome = b.past := by
                rw [Handler.leaves, hjudges, Option.bind_some, hreviews, Option.elim_some]
              rw [List.getLast?_concat]
              exact hleaves.symm
      rw [attempts, lead]
      split
      · exact ⟨rfl, hbody⟩
      · exact ⟨rfl, rfl, rfl, hbody⟩

/-- **A DISPATCH VOUCHES FOR ITS RECORDS.** -/
theorem dispatch_vouches (transport : Transport) (request : Request) (mayRefuse : Prop)
    (handler : Handler α) :
    (dispatch request handler).Vouches transport (.of request handler) mayRefuse
      (Dispatched mayRefuse handler) (.between []) := by
  intro closed hclosed
  cases closed with
  | true => exact ⟨[], rfl, Or.inr ⟨hclosed rfl, rfl, rfl⟩⟩
  | false =>
      cases request.hasRetryPolicy with
      | false =>
          refine (attempt_vouches handler rfl rfl).bind ?_
          rintro a cases ⟨c, rfl, -, hjudges⟩
          exact ⟨_, rfl, Or.inl ⟨[], c, a, rfl, hjudges, rfl⟩⟩
      | true =>
          refine ⟨rfl, fun granted hgranted => ?_⟩
          cases granted with
          | false => exact ⟨[], rfl, Or.inr ⟨hgranted rfl, rfl, rfl⟩⟩
          | true =>
              have hretries : (Retry.run request handler).Vouches transport (.of request handler)
                  mayRefuse (fun out cases => Concluded handler out.1 cases) (.between []) :=
                Retry.attempts_vouches handler rfl rfl
              refine hretries.bind ?_
              exact fun out cases hconcluded => ⟨rfl, cases, rfl, Or.inl hconcluded⟩

end Dispatch

end Courier
