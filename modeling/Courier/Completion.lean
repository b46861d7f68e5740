import Courier.Failure

/-!
# Completion — a result that is decided once

A future is pending until something decides it: the result of its task, the end of its task without
a result, or a cancel. Whatever comes later changes nothing. A decided result is handed out once;
a cancel is told to everyone who asks. While the future is pending it remembers whom to wake and
which task to abort.
-/

namespace Courier

/-- How far a future is. -/
inductive FutureState (α : Type) where
  | pending
  | ready (result : Outcome α)
  | cancelled
  | taken
  deriving Inhabited

/-- A future: its state, whom to wake, and the task to abort. -/
structure Completion (α : Type) where
  state : FutureState α
  waker : Option Nat
  task : Option Nat
  deriving Inhabited

/-- What follows when a future is decided: whom to wake, and the task to abort. -/
structure Settled where
  wake : Option Nat
  abort : Option Nat
  deriving Repr, DecidableEq, Inhabited

namespace Completion

variable {α : Type}

/-- A future that nothing has decided. -/
def pending : Completion α := ⟨.pending, none, none⟩

/-- A future that is decided from the start. -/
def decided (result : Outcome α) : Completion α := ⟨.ready result, none, none⟩

/-- Whether nothing has decided it yet. -/
def isPending (c : Completion α) : Bool :=
  match c.state with
  | .pending => true
  | _ => false

/-- Whether it was decided. -/
def isDone (c : Completion α) : Bool :=
  !c.isPending

/-- Whether a cancel decided it. -/
def isCancelled (c : Completion α) : Bool :=
  match c.state with
  | .cancelled => true
  | _ => false

/-- Remembers the task that drives it, unless it is decided. -/
def attach (c : Completion α) (task : Nat) : Completion α :=
  if c.isPending then { c with task := some task } else c

/-- Decides it by a result. Tells what follows, if it did decide. -/
def complete (c : Completion α) (result : Outcome α) : Completion α × Option Settled :=
  match c.state with
  | .pending => (⟨.ready result, none, none⟩, some ⟨c.waker, none⟩)
  | _ => (c, none)

/-- Decides it by a cancel. Tells what follows, if it did decide. -/
def cancel (c : Completion α) : Completion α × Option Settled :=
  match c.state with
  | .pending => (⟨.cancelled, none, none⟩, some ⟨c.waker, c.task⟩)
  | _ => (c, none)

/-- Takes the result out, if it is decided. -/
def take (c : Completion α) : Completion α × Option (Outcome α) :=
  match c.state with
  | .pending => (c, none)
  | .ready result => ({ c with state := .taken }, some result)
  | .cancelled => (c, some (.error .cancelled))
  | .taken => (c, some (.error .taken))

/-- Asks for the result; while it is pending, whoever asked last is to be woken. -/
def poll (c : Completion α) (waker : Nat) : Completion α × Option (Outcome α) :=
  match c.take with
  | (c, none) => ({ c with waker := some waker }, none)
  | (c, some result) => (c, some result)

/-- Waits until it is decided; there is no answer as long as it is not. -/
def wait (c : Completion α) : Completion α × Option (Outcome α) :=
  c.take

/-- Waits for no longer than some time that ends before anything else happens. -/
def waitTimeout (c : Completion α) : Completion α × Outcome α :=
  match c.take with
  | (c, none) => (c, .error .waitTimeout)
  | (c, some result) => (c, result)

/-- The state shown to people. -/
def describe (c : Completion α) : String :=
  let state := match c.state with
    | .pending => "pending"
    | .ready (.ok _) => "ready"
    | .ready (.error _) => "failed"
    | .cancelled => "cancelled"
    | .taken => "taken"
  "ResponseFuture \x7b state: \"" ++ state ++ "\" \x7d"

/-- A handle that cancels it, shown to people. -/
def describeCanceller : String := "Canceller \x7b .. \x7d"

end Completion

end Courier
