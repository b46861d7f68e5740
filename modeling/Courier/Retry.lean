import Courier.Attempt

/-!
# Retry — the attempts of one request

A request is attempted until the outcome is not one it wants repeated, or until it has no retries
left; then the last outcome stands. The handler is asked which status a result shows; the result is
repeated if it shows one and that status is enrolled, a failure if the kind of its root cause is.
Before every attempt but the first the delayer is asked to wait. A request that enrols nothing is
attempted once, and nobody asks its handler for a status.
-/

namespace Courier

/-- A result, and the status it shows. -/
structure Product (α : Type) where
  value : α
  status : Option Nat
  deriving Repr, DecidableEq, Inhabited

/-- What the attempts of a request came to so far: their response codes in order, and the kind of
the latest failure. -/
structure RetryHistory where
  codes : List Int
  lastError : Option FailureKind
  deriving Repr, DecidableEq, Inhabited

namespace RetryHistory

/-- No attempts. -/
def empty : RetryHistory := ⟨[], none⟩

/-- The number of attempts. -/
def attempts (h : RetryHistory) : Nat :=
  h.codes.length

/-- Where the next attempt stands. Its number has thirty-two bits and stops at the greatest. -/
def next (h : RetryHistory) : Position :=
  match h.codes.getLast? with
  | none => .first
  | some code => .retry (min h.attempts Position.maxAttempt) code

/-- One more attempt. -/
def add {α : Type} (h : RetryHistory) (a : Attempted α) : RetryHistory where
  codes := h.codes ++ [a.code]
  lastError :=
    match a.result with
    | .ok _ => h.lastError
    | .error f => some f.kind

theorem attempts_add {α : Type} (h : RetryHistory) (a : Attempted α) :
    (h.add a).attempts = h.attempts + 1 :=
  List.length_append

/-- The number of the next attempt. -/
theorem attempt_next (h : RetryHistory) :
    h.next.attempt = min h.attempts Position.maxAttempt := by
  rw [next, attempts]
  split
  · rename_i hnone
    rw [List.getLast?_eq_none_iff.mp hnone]
    exact (Nat.zero_min _).symm
  · rfl

/-- Where the next attempt is not the last that a request may have, there were fewer than it may
repeat: a number that has stopped is the last. -/
theorem attempts_lt {h : RetryHistory} {limit : UInt32} (hn : h.next.attempt < limit.toNat) :
    h.attempts < limit.toNat := by
  have hlimit : limit.toNat ≤ Position.maxAttempt := Nat.le_of_lt_succ limit.toNat_lt
  rw [attempt_next] at hn
  omega

end RetryHistory

namespace Request

/-- Whether a request wants an attempt with this result repeated. -/
def repeats {α : Type} (request : Request) : Outcome (Product α) → Bool
  | .ok p =>
    match p.status with
    | some code => request.retryStatuses.contains code
    | none => false
  | .error f => request.retryKinds.contains f.kind

end Request

/-- What a request came to: the result and the attempts. -/
abbrev Retried (α : Type) := Outcome α × RetryHistory

namespace Retry

variable {α : Type}

/-- What comes before an attempt: before a retry, the delay. -/
def lead (request : Request) (position : Position) (next : Program (Retried α)) :
    Program (Retried α) :=
  let start := Program.tell
    (.startingAttempt position.attempt request.method request.urlText) next
  if position.attempt = 0 then start
  else
    .tell (.retrying position.attempt position.lastStatus request.urlText)
      (.pause position.attempt start)

/-- Asks the handler which status the result of an attempt shows. -/
def review (handler : Handler α) (a : Attempted α) : Program (Attempted (Product α)) :=
  match a.result with
  | .ok value =>
    .note (.handled .status)
      (match handler.statusOf a.past with
      | .panics text => .panic text
      | .gives status => .done ⟨.ok ⟨value, status⟩, a.code, .status :: a.past⟩)
  | .error f => .done ⟨.error f, a.code, a.past⟩

/-- One attempt, which may have to be repeated. -/
def trial (request : Request) (handler : Handler α) (past : Past) (position : Position) :
    Program (Attempted (Product α)) :=
  (attempt request handler past position).bind (review handler)

/-- The attempts of a request from here on. -/
def attempts (request : Request) (handler : Handler α) (history : RetryHistory) (past : Past) :
    Program (Retried α) :=
  lead request history.next
    ((trial request handler past history.next).bind fun a =>
      if !request.repeats a.result then .done (a.result.map (·.value), history.add a)
      else if request.maxRetries.toNat ≤ history.next.attempt then
        .tell (.retriesExhausted (history.add a).attempts request.urlText)
          (.done (a.result.map (·.value), history.add a))
      else attempts request handler (history.add a) a.past)
termination_by request.maxRetries.toNat - history.attempts
decreasing_by
  rename_i hleft
  have hlt := RetryHistory.attempts_lt (Nat.lt_of_not_le hleft)
  rw [RetryHistory.attempts_add]
  omega

/-- All attempts of a request. -/
def run (request : Request) (handler : Handler α) : Program (Retried α) :=
  attempts request handler .empty []

end Retry

/-- How a client answers a request without the cache: a request that enrols nothing is attempted
once and at once, any other needs a retry slot. -/
def dispatch {α : Type} (request : Request) (handler : Handler α) : Program (Outcome α) :=
  .closed fun closed =>
    if closed then .done (.error .closed)
    else if !request.hasRetryPolicy then
      (attempt request handler [] .first).bind fun a => .done a.result
    else
      .slot fun granted =>
        if !granted then .done (.error .closed)
        else
          (Retry.run request handler).bind fun (result, history) =>
            .tell (.retriedFinished history.attempts request.method request.urlText)
              (.done result)

end Courier
