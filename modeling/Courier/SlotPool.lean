/-!
# SlotPool — who may retry

A pool has a number of slots. A task that finds none free waits, and slots go to waiting tasks in
the order they came. A slot that is given back goes to the first of them at once, who then takes it
when it runs. A closed pool gives no slot away: whoever waits is turned down, and a slot that was
given but not taken comes back. `SlotPool.total` counts the slots wherever they are.
-/

namespace Courier

/-- A pool of slots. Tasks are known by number. -/
structure SlotPool where
  /-- The slots nobody has. -/
  free : Nat
  /-- The tasks that have a slot. -/
  holders : List Nat
  /-- The tasks that were given a slot and have not taken it yet. -/
  granted : List Nat
  /-- The tasks that wait, in order. -/
  waiting : List Nat
  closed : Bool
  deriving Repr, DecidableEq, Inhabited

namespace SlotPool

/-- A pool with this many slots. -/
def new (size : Nat) : SlotPool :=
  ⟨size, [], [], [], false⟩

/-- All slots, free or not. -/
def total (p : SlotPool) : Nat :=
  p.free + p.holders.length + p.granted.length

/-- Gives one slot to the first task that waits, which is to be woken, or to nobody. -/
def putBack (p : SlotPool) : SlotPool × Option Nat :=
  match p.waiting with
  | [] => ({ p with free := p.free + 1 }, none)
  | t :: rest => ({ p with granted := p.granted ++ [t], waiting := rest }, some t)

/-- Ends all claims of a task: the slot it has or was given goes on, and its place among those who
wait is given up. Gives the task to be woken. -/
def leave (p : SlotPool) (task : Nat) : SlotPool × Option Nat :=
  if p.holders.contains task then { p with holders := p.holders.erase task }.putBack
  else if p.granted.contains task then { p with granted := p.granted.erase task }.putBack
  else ({ p with waiting := p.waiting.erase task }, none)

/-- What a task that asks for a slot is told. -/
inductive Reception where
  | taken
  | wait
  | turnedDown
  deriving Repr, DecidableEq, Inhabited

/-- A task asks for a slot, or asks again after it was woken. -/
def acquire (p : SlotPool) (task : Nat) : SlotPool × Reception :=
  if p.granted.contains task then
    let p := { p with granted := p.granted.erase task }
    if p.closed then ({ p with free := p.free + 1 }, .turnedDown)
    else ({ p with holders := task :: p.holders }, .taken)
  else if p.closed then (p, .turnedDown)
  else if p.waiting.contains task then (p, .wait)
  else
    match p.free with
    | free + 1 => ({ p with free := free, holders := task :: p.holders }, .taken)
    | 0 => ({ p with waiting := p.waiting ++ [task] }, .wait)

/-- Closes the pool. Gives the tasks that waited, which are to be woken. -/
def close (p : SlotPool) : SlotPool × List Nat :=
  ({ p with closed := true, waiting := [] }, p.waiting)

end SlotPool

end Courier
