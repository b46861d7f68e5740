import Courier.Proofs.Attempt.Observation
import Courier.Proofs.Program.Asides
import Courier.Proofs.Program.Junctures
import Courier.Proofs.Program.Maps

/-!
# The fast path — one attempt is all there is to retry

A dispatch attempts a request that enrols nothing once and at once, and does without the retry loop.
Nothing is lost by that.  Where nothing is enrolled, no outcome is repeated, so the loop says which
attempt it starts, makes the same attempt, and stops (`Retry.run_of_plain`): the same calls, the
same events, the same records, and what the attempt comes to is what both come to
(`fast_path_is_retry_path`).

Two things only the loop does.  It has a first word; and of a result it asks the handler which
status that shows, though no answer can change anything (`Retry.closing`).  A handler that panics
then takes the result with it, which the dispatch has given long since.
-/

namespace Courier

variable {α β : Type}

/-! ## Attempts come alone -/

namespace Program

variable {p q : Program β} {juncture : Juncture} {talk : List Deed}

/-- Once the only attempt has called, there is neither a call nor a delay any more. -/
theorem Attends.goes_once (hp : p.Attends false juncture) (hj : juncture ≠ .between)
    (hg : p.Goes talk q) : callsOf talk = [] ∧ pausesOf talk = [] := by
  induction hg generalizing juncture with
  | stay p => exact ⟨rfl, rfl⟩
  | note hg ih => exact ih hp.2 hj
  | clock now hg ih => exact ih (hp now) hj
  | sleep hg ih => exact ih hp.2 hj
  | pause hg ih => exact absurd hp.1 hj
  | closed b hg ih => exact absurd hp.1 hj
  | slot b hg ih => exact absurd hp.1 hj
  | call behaviour hg ih => exact absurd hp.1 hj
  | answered hg ih => exact ih hp.2 nofun
  | record refusal hg ih => exact ih (hp.2 refusal) nofun

end Program

variable {request : Request} {handler : Handler α}

/-- **AN ATTEMPT ASKS FOR NO DELAY AND CALLS ONCE**, for its request, before it is over. -/
theorem attempt_goes_once {past : Past} {position : Position} {talk : List Deed}
    {q : Program (Attempted α)} (hg : (attempt request handler past position).Goes talk q) :
    pausesOf talk = [] ∧
      ((callsOf talk = [] ∧ q.isOver = false) ∨ ∃ b, callsOf talk = [(request, b)]) := by
  cases hg with
  | stay => exact ⟨rfl, .inl ⟨rfl, rfl⟩⟩
  | clock now hg =>
      cases hg with
      | stay => exact ⟨rfl, .inl ⟨rfl, rfl⟩⟩
      | call b hg =>
          obtain ⟨hcalls, hpauses⟩ :=
            (Observer.follow_attends false b _).goes_once nofun hg
          exact ⟨hpauses, .inr ⟨b, congrArg ((request, b) :: ·) hcalls⟩⟩

/-! ## Without a policy -/

/-- Where nothing is enrolled, no outcome is repeated. -/
theorem Request.repeats_of_plain (h : request.hasRetryPolicy = false)
    (result : Outcome (Product α)) : request.repeats result = false := by
  simp only [hasRetryPolicy, Bool.or_eq_false_iff, Bool.not_eq_false', List.isEmpty_iff] at h
  rw [← Bool.not_eq_true, repeats_iff]
  rintro (⟨p, code, -, -, hcode⟩ | ⟨f, -, hkind⟩)
  · rw [h.1] at hcode
    exact List.not_mem_nil hcode
  · rw [h.2] at hkind
    exact List.not_mem_nil hkind

namespace Retry

/-- What the retry loop says before the first attempt. -/
def firstWord (request : Request) : Happening :=
  .told (.startingAttempt 0 request.method request.urlText)

/-- **WHAT THE LOOP DOES BEYOND ITS ONLY ATTEMPT**: if that came to a result, it asks the handler
    which status the result shows.  Whatever the handler answers, the request comes to what the
    attempt came to; but the handler may panic. -/
def closing (handler : Handler α) (a : Attempted α) : Program (Retried α) :=
  match a.result with
  | .ok _ =>
    .note (.handled .status)
      (match handler.statusOf a.past with
      | .panics text => .panic text
      | .gives _ => .done (a.result, RetryHistory.empty.add a))
  | .error _ => .done (a.result, RetryHistory.empty.add a)

/-- **THE LOOP MAKES ONE ATTEMPT** of a request that enrols nothing. -/
theorem run_of_plain (h : request.hasRetryPolicy = false) (handler : Handler α) :
    run request handler
      = .note (firstWord request) ((attempt request handler [] .first).bind (closing handler)) := by
  have hend : (fun b : Attempted (Product α) =>
      if !request.repeats b.result then
        (.done (b.result.map (·.value), RetryHistory.empty.add b) : Program (Retried α))
      else if request.maxRetries.toNat ≤ RetryHistory.empty.next.attempt then
        .tell (.retriesExhausted (RetryHistory.empty.add b).attempts request.urlText)
          (.done (b.result.map (·.value), RetryHistory.empty.add b))
      else attempts request handler (RetryHistory.empty.add b) b.past)
      = fun b => .done (b.result.map (·.value), RetryHistory.empty.add b) := by
    funext b
    rw [Request.repeats_of_plain h]
    rfl
  -- the status is read off by nobody, so what was asked about comes to what the attempt came to
  have hreview : ∀ a : Attempted α, ((review handler a).bind fun b =>
      (.done (b.result.map (·.value), RetryHistory.empty.add b) : Program (Retried α)))
      = closing handler a := by
    intro a
    rw [review, closing, RetryHistory.add]
    cases a.result with
    | ok value => cases handler.statusOf a.past <;> rfl
    | error f => rfl
  rw [run, attempts, hend, trial, Program.bind_bind, funext hreview]
  rfl

/-- **A DISPATCH MAKES THE SAME ATTEMPT**, unless the client is closed, and has the result of it. -/
theorem dispatch_of_plain (h : request.hasRetryPolicy = false) (handler : Handler α) :
    dispatch request handler = .closed fun closed =>
      if closed then .done (.error .closed)
      else (attempt request handler [] .first).map (·.result) := by
  rw [dispatch, h]
  rfl

variable {talk : List Deed}

/-- **HOW FAR THE LOOP IS** behind its first word, next to an attempt of the same request. -/
inductive Abreast (request : Request) (handler : Handler α) :
    List Deed → Program (Retried α) → Prop where
  /-- It is where the attempt is, and has said and asked the same. -/
  | same {talk : List Deed} {p : Program (Attempted α)}
      (goes : (attempt request handler [] .first).Goes talk p) :
      Abreast request handler talk (p.bind (closing handler))
  /-- The attempt came to a result.  The handler was asked which status that shows, and answered;
  the result of the attempt is the result. -/
  | shown {talk : List Deed} {a : Attempted α} {value : α} {status : Option Nat}
      (goes : (attempt request handler [] .first).Goes talk (.done a))
      (result : a.result = .ok value) (answer : handler.statusOf a.past = .gives status) :
      Abreast request handler (talk ++ [.noted (.handled .status)])
        (.done (a.result, RetryHistory.empty.add a))
  /-- The attempt came to a result, and the handler panicked when it was asked about it. -/
  | broken {talk : List Deed} {a : Attempted α} {value : α} {text : String}
      (goes : (attempt request handler [] .first).Goes talk (.done a))
      (result : a.result = .ok value) (panics : handler.statusOf a.past = .panics text) :
      Abreast request handler (talk ++ [.noted (.handled .status)]) (.panic text)

/-- In conversation: whatever is answered, the dispatch says and asks what the attempt does. -/
theorem dispatch_goes_iff (h : request.hasRetryPolicy = false) {q : Program (Outcome α)} :
    (dispatch request handler).Goes (.checked false :: talk) q ↔
      ∃ p, (attempt request handler [] .first).Goes talk p ∧ q = p.map (·.result) := by
  rw [dispatch_of_plain h, ← Program.goes_map_iff]
  constructor
  · intro hg
    cases hg with
    | closed b hg => exact hg
  · intro hg
    exact .closed false hg

/-- In conversation: the loop says and asks what the attempt does, and then it asks once more. -/
theorem run_goes_iff (h : request.hasRetryPolicy = false) {q : Program (Retried α)} :
    (run request handler).Goes (.noted (firstWord request) :: talk) q ↔
      Abreast request handler talk q := by
  rw [run_of_plain h]
  constructor
  · intro hg
    cases hg with
    | note hg =>
        rcases hg.through_bind with ⟨p, hp, -, rfl⟩ | ⟨a, first, rest, rfl, hfirst, hrest⟩
        · exact .same hp
        have hcome : Abreast request handler first (closing handler a) := .same hfirst
        cases hresult : a.result with
        | ok value =>
            have hclosing := closing.eq_def handler a
            rw [hresult] at hclosing
            dsimp only at hclosing
            rw [hclosing] at hrest
            cases hrest with
            | stay =>
                rw [List.append_nil, ← hclosing]
                exact hcome
            | note hrest =>
                cases hasked : handler.statusOf a.past with
                | panics text =>
                    rw [hasked] at hrest
                    cases hrest with
                    | stay => exact .broken hfirst hresult hasked
                | gives status =>
                    rw [hasked] at hrest
                    cases hrest with
                    | stay => exact hresult ▸ .shown hfirst hresult hasked
        | error f =>
            have hclosing := closing.eq_def handler a
            rw [hresult] at hclosing
            dsimp only at hclosing
            rw [hclosing] at hrest
            cases hrest with
            | stay =>
                rw [List.append_nil, ← hclosing]
                exact hcome
  · intro hq
    refine .note ?_
    cases hq with
    | same goes => exact goes.bind _
    | shown goes result answer =>
        refine (goes.bind (closing handler)).trans ?_
        rw [Program.bind, closing, result]
        dsimp only
        rw [answer]
        exact .note (.stay _)
    | broken goes result panics =>
        refine (goes.bind (closing handler)).trans ?_
        rw [Program.bind, closing, result]
        dsimp only
        rw [panics]
        exact .note (.stay _)

/-- All that a conversation with the retry loop consists of: the first word, then **ONE ATTEMPT,
    WITHOUT DELAY**, and a question about its result. -/
structure Once (request : Request) (handler : Handler α) (talk : List Deed)
    (q : Program (Retried α)) : Prop where
  /-- Behind the first word everything is said by one attempt, with no attempt before it, and in
  asking which status its result shows. -/
  attempt : (talk = [] ∧ q = run request handler) ∨
    ∃ rest, talk = .noted (firstWord request) :: rest ∧ Abreast request handler rest q
  delays : pausesOf talk = []
  calls : (callsOf talk = [] ∧ q.isOver = false) ∨ ∃ b, callsOf talk = [(request, b)]

/-- Of a request that enrols nothing the loop makes one attempt. -/
theorem once_of_goes (h : request.hasRetryPolicy = false) {q : Program (Retried α)}
    (hg : (run request handler).Goes talk q) : Once request handler talk q := by
  have hrun := run_of_plain h handler
  have hgoes := hg
  rw [hrun] at hgoes
  cases hgoes with
  | stay => exact ⟨.inl ⟨rfl, hrun.symm⟩, rfl, .inl ⟨rfl, rfl⟩⟩
  | @note _ _ _ rest _ =>
      have habreast := (run_goes_iff h).mp hg
      -- a question about the result is neither a call nor a delay
      have hasked : ∀ {first : List Deed} {a : Attempted α},
          (Courier.attempt request handler [] .first).Goes first (.done a) →
          pausesOf (first ++ [.noted (.handled .status)]) = [] ∧
            ∃ b, callsOf (first ++ [.noted (.handled .status)]) = [(request, b)] := by
        intro first a hfirst
        obtain ⟨hpauses, hcalls⟩ := attempt_goes_once hfirst
        obtain ⟨b, hone⟩ := hcalls.resolve_left fun hnone => nomatch hnone.2
        refine ⟨?_, b, ?_⟩
        · rw [pausesOf_append, hpauses]
          rfl
        · rw [callsOf_append, hone]
          rfl
      have hsaid : ∃ rest', (Deed.noted (firstWord request) :: rest) = _ :: rest' ∧
          Abreast request handler rest' q := ⟨rest, rfl, habreast⟩
      cases habreast with
      | @same _ p goes =>
          obtain ⟨hpauses, hcalls⟩ := attempt_goes_once goes
          refine ⟨.inr hsaid, hpauses, hcalls.imp (And.imp id fun hp => ?_) id⟩
          have hunfinished : ∀ a, p ≠ .done a := by
            rintro a rfl
            cases hp
          exact (Program.isOver_bind hunfinished _).trans hp
      | shown goes result answer => exact ⟨.inr hsaid, (hasked goes).1, .inr (hasked goes).2⟩
      | broken goes result panics => exact ⟨.inr hsaid, (hasked goes).1, .inr (hasked goes).2⟩

/-! ## Side by side -/

variable {l : Ledger}

/-- Alone, with any collaborators. -/
theorem dispatch_play (h : request.hasRetryPolicy = false) (handler : Handler α) (parts : Parts)
    (limit : Nat) (hl : l.closed = false) :
    ∃ kept kept' ended, Ledger.Besides ⟨l.elapsed, some 0, firstWord request⟩ kept kept' ∧
      (dispatch request handler).play parts limit l = (kept, ended.map (·.result)) ∧
      (run request handler).play parts limit l
        = Program.replay parts limit (closing handler) (kept', ended) := by
  obtain ⟨hbesides, hend⟩ := Program.play_besides (l.besides_mark (some 0) (firstWord request))
    parts limit (attempt request handler [] .first)
  refine ⟨_, _, ((attempt request handler [] .first).play parts limit l).2, hbesides, ?_, ?_⟩
  · rw [dispatch_of_plain h, Program.play, hl, if_neg Bool.false_ne_true, Program.play_map]
  · rw [run_of_plain h, Program.play, Program.play_bind, ← hend]

/-- **THE RESULT IS THE SAME** with a handler that has an answer when it is asked for a status. -/
theorem same_result (h : request.hasRetryPolicy = false)
    (hanswers : ∀ past, ∃ status, handler.statusOf past = .gives status) (parts : Parts)
    (limit : Nat) (hl : l.closed = false) :
    ((run request handler).play parts limit l).2.map (·.1)
      = ((dispatch request handler).play parts limit l).2 := by
  obtain ⟨kept, kept', ended, -, hdispatch, hrun⟩ := dispatch_play h handler parts limit hl
  rw [hdispatch, hrun]
  cases ended with
  | done a =>
      rw [Program.replay, closing]
      cases hresult : a.result with
      | ok value =>
          obtain ⟨status, hstatus⟩ := hanswers a.past
          dsimp only
          rw [hstatus]
          exact congrArg Program.End.done hresult.symm
      | error f => exact congrArg Program.End.done hresult.symm
  | panicked text => rfl
  | never => rfl

/-- The loop has no need to wait behind its attempt. -/
theorem closing_stops (handler : Handler α) (parts : Parts) (n : Nat) (a : Attempted α)
    (l : Ledger) : ((closing handler a).run parts n l).2.rest? = none := by
  rw [closing]
  split
  · rw [Program.run]
    split <;> rfl
  · rfl

/-- Turn by turn, while others are at work. -/
theorem dispatch_lives (h : request.hasRetryPolicy = false) (handler : Handler α) (parts : Parts)
    (n : Nat) {others others' : List (Ledger → Ledger)} (hl : l.closed = false)
    (hothers : List.Forall₂ (Program.BesidesWork ⟨l.elapsed, some n, firstWord request⟩)
      others others') :
    ∃ kept kept' stopped, Ledger.Besides ⟨l.elapsed, some n, firstWord request⟩ kept kept' ∧
      (dispatch request handler).lives parts n others l = (kept, stopped.map (·.result)) ∧
      (run request handler).lives parts n others' l
        = Program.resume parts n (closing handler) (kept', stopped) := by
  have hdispatch : (dispatch request handler).run parts n l
      = ((attempt request handler [] .first).map (·.result)).run parts n l := by
    rw [dispatch_of_plain h, Program.run, hl, if_neg Bool.false_ne_true]
  have hloop : (run request handler).run parts n l
      = ((attempt request handler [] .first).bind (closing handler)).run parts n
          (l.mark (some n) (firstWord request)) := by
    rw [run_of_plain h, Program.run]
  obtain ⟨hbesides, hend⟩ := Program.lives_besides hothers
    (l.besides_mark (some n) (firstWord request)) parts n (attempt request handler [] .first)
  refine ⟨_, _, ((attempt request handler [] .first).lives parts n others l).2, hbesides, ?_, ?_⟩
  · rw [Program.lives_congr hdispatch, Program.lives_map]
  · rw [Program.lives_congr hloop, Program.lives_bind fun a => closing_stops handler parts n a,
      ← hend]

/-- A request that might be repeated seven times, and enrols nothing. -/
def modest : Request :=
  { (default : Request) with maxRetries := 7 }

/-- A handler that takes every response, and panics when it is asked which status that has. -/
def brittle : Handler Response :=
  { Handler.response with statusOf := fun _ => .panics "no status" }

end Retry

end Courier
