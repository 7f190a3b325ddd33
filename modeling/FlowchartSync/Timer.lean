/-!
# Timers

A timer holds back the latest value until it has been left alone for a delay.  Scheduling again
replaces the value and starts the delay anew, so a burst of values comes out as one.  Time is a
number of milliseconds and is always given from outside.
-/

namespace FlowchartSync

/-- A timer: its delay, and the value held back with the time at which it is due. -/
structure Timer (α : Type) where
  delay : Nat
  pending : Option (Nat × α)
  deriving DecidableEq, Repr

namespace Timer

variable {α : Type}

/-- A timer that holds nothing. -/
def idle (delay : Nat) : Timer α :=
  ⟨delay, none⟩

/-- The timer with a value to hold back from now on, in place of any other. -/
def schedule (timer : Timer α) (now : Nat) (value : α) : Timer α :=
  { timer with pending := some (now + timer.delay, value) }

/-- The timer without its value. -/
def cancel (timer : Timer α) : Timer α :=
  { timer with pending := none }

/-- The value held back. -/
def held (timer : Timer α) : Option α :=
  timer.pending.map Prod.snd

/-- The time at which the value is due. -/
def deadline (timer : Timer α) : Option Nat :=
  timer.pending.map Prod.fst

/-- Whether a value is held back and due by now. -/
def isDue (timer : Timer α) (now : Nat) : Bool :=
  match timer.deadline with
  | none => false
  | some deadline => decide (deadline ≤ now)

/-- The value that is due by now, if any, and the timer without it. -/
def poll (timer : Timer α) (now : Nat) : Option α × Timer α :=
  if timer.isDue now then (timer.held, timer.cancel) else (none, timer)

end Timer

end FlowchartSync
