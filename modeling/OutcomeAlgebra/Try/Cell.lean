import OutcomeAlgebra.Act.Borrow
import OutcomeAlgebra.Failure.Capture
/-! Cells that evaluate a computation at most once. A cell is pending, ready or
poisoned, and it holds its state itself: whoever owns the cell owns its state,
so no store is needed beside it. A computation is taken out of the cell before
it starts; if it panics the cell is left poisoned and every later use panics. -/
namespace OutcomeAlgebra

inductive Cell (κ ν α : Type) where
  | pending (run : κ → Nat → Report ν (Except Capture α))
  | ready (outcome : Except Capture α)
  | poisoned

namespace Cell

variable {κ ν α : Type}

def ofAct (act : Act κ ν (Except Capture α)) : Cell κ ν α := .pending act

def outcome? : Cell κ ν α → Option (Except Capture α)
  | .ready outcome => some outcome
  | _ => none

def settle : Except Panic (Except Capture α) → Cell κ ν α
  | .ok outcome => .ready outcome
  | .error _ => .poisoned

def force : Borrow κ ν (Cell κ ν α) (Except Capture α)
  | .pending run => do
    Act.emit .evaluating
    let ending ← Act.ending run
    pure (ending, settle ending)
  | .ready outcome => pure (.ok outcome, .ready outcome)
  | .poisoned => do
    Act.emit .poisoned
    pure (.error .poisoned, .poisoned)

def intoOutcome : Cell κ ν α → Act κ ν (Except Capture α)
  | .pending run => do
    Act.emit .evaluating
    Act.run run
  | .ready outcome => pure outcome
  | .poisoned => do
    Act.emit .poisoned
    throw .poisoned

end Cell

end OutcomeAlgebra
