import OutcomeAlgebra.Proofs.Act.Run
import OutcomeAlgebra.Try.Basic
/-! What giving up a `Try` does, one rule for each state it can be in. The rules
are exact: they are met by the report of `intoResult` and by no other report. -/
namespace OutcomeAlgebra.Try

variable {κ ν α : Type}

inductive Evaluates (context : κ) (next : Nat) :
    Try κ ν α → Report ν (Except Capture α) → Prop where
  | success (value) : Evaluates context next (.success value) ⟨[], 0, .ok (.ok value)⟩
  | failure (capture) : Evaluates context next (.failure capture) ⟨[], 0, .ok (.error capture)⟩
  | evaluated (outcome) : Evaluates context next (.deferred (.ready outcome)) ⟨[], 0, .ok outcome⟩
  | pending (act : Act κ ν (Except Capture α)) :
      Evaluates context next (.deferred (.ofAct act))
        ((act.run context next).behind [.event .evaluating] 0)
  | poisoned :
    Evaluates context next (.deferred .poisoned) ⟨[.event .poisoned], 0, .error .poisoned⟩

theorem intoResultEvaluates (attempt : Try κ ν α) (context : κ) (next : Nat) :
    Evaluates context next attempt (attempt.intoResult.run context next) := by
  cases attempt with
  | success value => exact .success value
  | failure capture => exact .failure capture
  | deferred cell =>
    cases cell with
    | pending run => exact .pending run
    | ready outcome => exact .evaluated outcome
    | poisoned => exact .poisoned

theorem evaluatesExact {attempt : Try κ ν α} {context : κ} {next : Nat}
    {report : Report ν (Except Capture α)} :
    Evaluates context next attempt report ↔ attempt.intoResult.run context next = report := by
  constructor
  · intro evaluates
    cases evaluates <;> rfl
  · intro same
    rw [← same]
    exact intoResultEvaluates attempt context next

end OutcomeAlgebra.Try
