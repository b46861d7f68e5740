import Courier.Time

/-!
# Strategies — how long to wait before a retry

Retries are counted from one. The exponential strategy doubles the delay with every retry up to a
maximum; the factor it multiplies with stops at the greatest number of thirty-two bits. A strategy
with jitter waits some part of the delay, at least half of it.
-/

namespace Courier

/-- How long to wait before a retry. -/
inductive Strategy where
  /-- Not at all. -/
  | none
  /-- Twice as long every time, up to a maximum. -/
  | exponential (initial limit : Duration) (jitter : Bool)
  /-- Always the same time. -/
  | linear (delay : Duration)
  /-- As a function says. -/
  | custom (delay : Nat → Duration)

namespace Strategy

instance : Inhabited Strategy := ⟨.none⟩

/-- The name of a strategy. -/
def name : Strategy → String
  | .none => "None"
  | .exponential _ _ _ => "ExponentialBackoff"
  | .linear _ => "Linear"
  | .custom _ => "Custom"

/-- The same delay always; none at all if it is no time. -/
def ofInterval (interval : Duration) : Strategy :=
  if interval.nanos = 0 then .none else .linear interval

/-- The greatest factor. -/
def maxFactor : Nat := Nat.pow 2 32 - 1

/-- What the initial delay is multiplied with before a retry. -/
def factor (attempt : Nat) : Nat :=
  if attempt - 1 < 32 then Nat.pow 2 (attempt - 1) else maxFactor

/-- The delay before a retry, without jitter. -/
def fullDelay (s : Strategy) (attempt : Nat) : Duration :=
  match s with
  | .none => .zero
  | .exponential initial limit _ => (initial.scale (factor attempt)).min limit
  | .linear delay => delay
  | .custom delay => delay attempt

/-- Whether the delay is shortened at random. -/
def hasJitter : Strategy → Bool
  | .exponential _ _ jitter => jitter
  | _ => false

/-- Whether a delay is one that jitter may leave: at least half of it and at most all. -/
def isJittered (full delay : Duration) : Bool :=
  full.nanos ≤ 2 * delay.nanos && delay.nanos ≤ full.nanos

/-- The delay before a retry. Jitter leaves a share of it in a million, between half and all, that
`share` gives; it is rounded up, so that it is never less than half. -/
def delay (s : Strategy) (share : Nat) (attempt : Nat) : Duration :=
  let full := s.fullDelay attempt
  if s.hasJitter then ⟨(full.nanos * (500000 + share % 500001) + 999999) / 1000000⟩ else full

end Strategy

end Courier
