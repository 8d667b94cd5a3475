import OutcomeAlgebra.Shown.Tree
import OutcomeAlgebra.Try.Basic
/-! Using a `Try` that stays where it is. Every use but printing evaluates it and
leaves the outcome in the cell, so a second use finds it there. Payloads may be
lazy too: `copy`, `equal` and `print` are given what copying, comparing and printing
a payload does, and put the payload back in the state it has reached. -/
namespace OutcomeAlgebra.Try

variable {κ ν α : Type}

def asResult : Borrow κ ν (Try κ ν α) (Except Capture α)
  | .success value => pure (.ok (.ok value), .success value)
  | .failure capture => pure (.ok (.error capture), .failure capture)
  | .deferred cell => do
    let (ending, cell) ← cell.force
    pure (ending, .deferred cell)

theorem asResultReady (outcome : Except Capture α) :
    asResult (deferred (.ready outcome) : Try κ ν α) =
      pure (.ok outcome, deferred (.ready outcome)) := by
  simp [asResult, Cell.force]

theorem asResultPending (run : Act κ ν (Except Capture α)) :
    asResult (deferred (.pending run)) =
      (Act.emit .evaluating >>= fun _ => Act.ending run >>= fun ending =>
        pure (ending, deferred (Cell.settle ending))) := by
  simp [asResult, Cell.force]

def isSuccess : Borrow κ ν (Try κ ν α) Bool := do
  match ← asResult with
  | .ok _ => pure true
  | .error _ => pure false

def isFailure : Borrow κ ν (Try κ ν α) Bool := do
  match ← asResult with
  | .ok _ => pure false
  | .error _ => pure true

def failure? : Borrow κ ν (Try κ ν α) (Option Capture) := do
  match ← asResult with
  | .ok _ => pure none
  | .error capture => pure (some capture)

def items : Borrow κ ν (Try κ ν α) (List α) := do
  match ← asResult with
  | .ok value => pure [value]
  | .error _ => pure []

def putBack (attempt : Try κ ν α) (value : α) : Try κ ν α :=
  match attempt with
  | .success _ => .success value
  | .deferred (.ready (.ok _)) => .deferred (.ready (.ok value))
  | attempt => attempt

def copy (payload : Borrow κ ν α α) : Borrow κ ν (Try κ ν α) (Try κ ν α) := fun attempt => do
  match ← asResult attempt with
  | (.error panic, attempt) => pure (.error panic, attempt)
  | (.ok (.error capture), attempt) => pure (.ok (.failure capture), attempt)
  | (.ok (.ok value), attempt) =>
    Borrow.within attempt.putBack success (payload value)

def equal (payload : α → α → Act κ ν (Except Panic Bool × α × α)) (left right : Try κ ν α) :
    Act κ ν (Except Panic Bool × Try κ ν α × Try κ ν α) := do
  match ← asResult left with
  | (.error panic, left) => pure (.error panic, left, right)
  | (.ok first, left) =>
    match ← asResult right with
    | (.error panic, right) => pure (.error panic, left, right)
    | (.ok second, right) =>
      match first, second with
      | .ok a, .ok b => do
        let (answer, a, b) ← payload a b
        pure (answer, left.putBack a, right.putBack b)
      | .error a, .error b => pure (.ok (a.same b), left, right)
      | _, _ => pure (.ok false, left, right)

def equalSelf (payload : Borrow κ ν α Bool) : Borrow κ ν (Try κ ν α) Bool := fun attempt => do
  match ← asResult attempt with
  | (.error panic, attempt) => pure (.error panic, attempt)
  | (.ok (.error _), attempt) => pure (.ok true, attempt)
  | (.ok (.ok value), attempt) => Borrow.within attempt.putBack id (payload value)

/-- Prints the outcome if there is one, and does not evaluate. A value is printed as its
payload prints it, and put back. -/
def print (payload : Borrow κ ν α Shown) : Borrow κ ν (Try κ ν α) Shown := fun attempt =>
  match attempt.outcome? with
  | some (.ok value) =>
    Borrow.within attempt.putBack (fun shown => .apply "Success" [shown]) (payload value)
  | some (.error capture) => pure (.ok (.apply "Failure" [capture.shown]), attempt)
  | none => pure (.ok (.atom "Delayed(<pending>)"), attempt)

def shown (payload : α → Shown) (attempt : Try κ ν α) : Shown :=
  match attempt.outcome? with
  | some (.ok value) => .apply "Success" [payload value]
  | some (.error capture) => .apply "Failure" [capture.shown]
  | none => .atom "Delayed(<pending>)"

end OutcomeAlgebra.Try
