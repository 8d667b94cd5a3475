import OutcomeAlgebra.Try.Cell
/-! A cell as its two fields: an outcome that is stored once, and a computation that is taken
out before it is started. Which of them are there says what state the cell is in. -/
namespace OutcomeAlgebra

structure Once (κ ν α : Type) where
  outcome : Option (Except Capture α)
  computation : Option (Act κ ν (Except Capture α))

namespace Once

variable {κ ν α : Type}

def ofAct (act : Act κ ν (Except Capture α)) : Once κ ν α := ⟨none, some act⟩

def take (once : Once κ ν α) : Option (Act κ ν (Except Capture α)) × Once κ ν α :=
  (once.computation, { once with computation := none })

def start : Option (Act κ ν (Except Capture α)) → Act κ ν (Except Capture α)
  | some computation => do
    Act.emit .evaluating
    computation
  | none => do
    Act.emit .poisoned
    throw .poisoned

def store (once : Once κ ν α) (outcome : Except Capture α) : Once κ ν α :=
  { once with outcome := some outcome }

def force : Borrow κ ν (Once κ ν α) (Except Capture α) := fun once =>
  match once.outcome with
  | some outcome => pure (.ok outcome, once)
  | none => do
    let (computation, taken) := once.take
    match ← (start computation).ending with
    | .ok outcome => pure (.ok outcome, taken.store outcome)
    | .error panic => pure (.error panic, taken)

def intoOutcome (once : Once κ ν α) : Act κ ν (Except Capture α) :=
  match once.outcome with
  | some outcome => pure outcome
  | none => start once.take.1

def cell (once : Once κ ν α) : Cell κ ν α :=
  match once.outcome, once.computation with
  | some outcome, _ => .ready outcome
  | none, some computation => .pending computation
  | none, none => .poisoned

def ofCell : Cell κ ν α → Once κ ν α
  | .pending run => ⟨none, some run⟩
  | .ready outcome => ⟨some outcome, none⟩
  | .poisoned => ⟨none, none⟩

theorem outcomeCell (once : Once κ ν α) : once.cell.outcome? = once.outcome := by
  obtain ⟨outcome, computation⟩ := once
  cases outcome with
  | some outcome => rfl
  | none => cases computation <;> rfl

theorem intoOutcomeCell (once : Once κ ν α) : once.cell.intoOutcome = once.intoOutcome := by
  obtain ⟨outcome, computation⟩ := once
  cases outcome with
  | some outcome => rfl
  | none => cases computation <;> rfl

theorem forceCell (once : Once κ ν α) :
    Borrow.within cell id once.force = once.cell.force := by
  obtain ⟨outcome, computation⟩ := once
  cases outcome with
  | some outcome => rfl
  | none =>
    cases computation with
    | none => rfl
    | some computation =>
      have started : (start (some computation)).ending =
          (Act.emit .evaluating >>= fun _ => computation.ending) := rfl
      change Borrow.within cell id ((start (some computation)).ending >>= _) = _
      rw [started, Borrow.within, bind_assoc, bind_assoc]
      refine bind_congr fun _ => bind_congr fun ending => ?_
      cases ending <;> exact pure_bind _ _

end Once

end OutcomeAlgebra
