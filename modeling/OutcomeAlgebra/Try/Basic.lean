import OutcomeAlgebra.Either.Basic
import OutcomeAlgebra.Try.Cell
/-! Outcomes of computations that may fail: a value, a captured error, or a cell
that decides between them when it is first used. Errors are values here; a
panic is not captured by anything and ends the operation that met it. -/
namespace OutcomeAlgebra

inductive Try (κ ν α : Type) where
  | success (value : α)
  | failure (capture : Capture)
  | deferred (cell : Cell κ ν α)

namespace Try

variable {κ ν α β γ : Type}

def capture : Except (Raised Fault) α → Act κ ν (Except Capture α)
  | .ok value => pure (.ok value)
  | .error raised => do
    let capture ← Capture.new raised
    Act.emit (.captured capture.message)
    pure (.error capture)

def ofOutcome : Except Capture α → Try κ ν α
  | .ok value => .success value
  | .error capture => .failure capture

def of (computation : Act κ ν (Except (Raised Fault) α)) : Act κ ν (Try κ ν α) := do
  let ended ← computation
  let outcome ← capture ended
  pure (ofOutcome outcome)

def delayed (computation : Act κ ν (Except (Raised Fault) α)) : Try κ ν α :=
  .deferred (.ofAct (computation >>= capture))

def fail (raised : Raised Fault) : Act κ ν (Try κ ν α) := do
  let capture ← Capture.new raised
  pure (.failure capture)

def outcome? : Try κ ν α → Option (Except Capture α)
  | .success value => some (.ok value)
  | .failure capture => some (.error capture)
  | .deferred cell => cell.outcome?

def isEvaluated (attempt : Try κ ν α) : Bool := attempt.outcome?.isSome

def intoResult : Try κ ν α → Act κ ν (Except Capture α)
  | .success value => pure (.ok value)
  | .failure capture => pure (.error capture)
  | .deferred cell => cell.intoOutcome

def get (attempt : Try κ ν α) : Act κ ν (Except EmptyValue α) := do
  match ← attempt.intoResult with
  | .ok value => pure (.ok value)
  | .error _ => pure (.error .failure)

def getOrElse (attempt : Try κ ν α) (supplier : Act κ ν α) : Act κ ν α := do
  match ← attempt.intoResult with
  | .ok value => pure value
  | .error _ => supplier

def map (attempt : Try κ ν α) (f : α → Act κ ν β) : Act κ ν (Try κ ν β) := do
  match ← attempt.intoResult with
  | .ok value => success <$> f value
  | .error capture => pure (.failure capture)

def flatMap (attempt : Try κ ν α) (f : α → Act κ ν (Try κ ν β)) : Act κ ν (Try κ ν β) := do
  match ← attempt.intoResult with
  | .ok value => f value
  | .error capture => pure (.failure capture)

def filter (attempt : Try κ ν α) (predicate : StateT α (Act κ ν) Bool)
    (supplier : Act κ ν (Raised Fault)) : Act κ ν (Try κ ν α) := do
  match ← attempt.intoResult with
  | .ok value =>
    let (accepted, value) ← predicate value
    if accepted then pure (.success value)
    else
      let raised ← supplier
      fail raised
  | .error capture => pure (.failure capture)

def fold (attempt : Try κ ν α) (onFailure : Capture → Act κ ν β) (onSuccess : α → Act κ ν β) :
    Act κ ν β := do
  match ← attempt.intoResult with
  | .ok value => onSuccess value
  | .error capture => onFailure capture

def recover (attempt : Try κ ν α) (f : Capture → Act κ ν α) : Act κ ν (Try κ ν α) :=
  success <$> attempt.fold f pure

def recoverWith (attempt : Try κ ν α) (f : Capture → Act κ ν (Try κ ν α)) :
    Act κ ν (Try κ ν α) := do
  match ← attempt.intoResult with
  | .ok value => pure (.success value)
  | .error capture => f capture

def mapFailure (attempt : Try κ ν α) (f : Capture → Act κ ν (Raised Fault)) :
    Act κ ν (Try κ ν α) := do
  match ← attempt.intoResult with
  | .ok value => pure (.success value)
  | .error capture =>
    let raised ← f capture
    fail raised

def map2 (first : Try κ ν α) (second : Try κ ν β) (f : α → β → Act κ ν γ) : Act κ ν (Try κ ν γ) :=
  first.flatMap fun a => second.map fun b => f a b

def flatten (attempt : Try κ ν (Try κ ν α)) : Act κ ν (Try κ ν α) := attempt.flatMap pure

def toOption (attempt : Try κ ν α) : Act κ ν (Option α) := do
  match ← attempt.intoResult with
  | .ok value => pure (some value)
  | .error _ => pure none

def toEither (attempt : Try κ ν α) : Act κ ν (Either Capture α) := do
  let outcome ← attempt.intoResult
  pure (Either.ofExcept outcome)

def toList (attempt : Try κ ν α) : Act κ ν (List α) := do
  let value ← attempt.toOption
  pure value.toList

end Try

end OutcomeAlgebra
