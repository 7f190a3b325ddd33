/-!
# Generations

Each render gets the next generation.  Only the outcome of the latest generation may be shown.
-/

namespace FlowchartSync

/-- The generations given out so far, by the latest of them. -/
structure Generations where
  latest : Nat
  deriving DecidableEq, Repr

namespace Generations

/-- No generation has been given out. -/
def none : Generations :=
  ⟨0⟩

/-- One more generation is given out, which supersedes all others. -/
def advance (generations : Generations) : Generations :=
  ⟨generations.latest + 1⟩

/-- Whether a generation is the latest. -/
def isCurrent (generations : Generations) (generation : Nat) : Bool :=
  generation == generations.latest

end Generations

end FlowchartSync
