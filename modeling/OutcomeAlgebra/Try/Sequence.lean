import OutcomeAlgebra.Try.Basic
/-! The values of many tries. An element is a program, so that pulling it can be
told from having it; each is evaluated before the next one is pulled, and
elements behind the first failure are neither pulled nor evaluated. -/
namespace OutcomeAlgebra.Try

variable {κ ν α : Type}

def stopAt (index : Nat) (capture : Capture) : Act κ ν (Try κ ν (List α)) := do
  Act.emit (.stopped index)
  pure (.failure capture)

def consTo (value : α) : Try κ ν (List α) → Try κ ν (List α)
  | .success values => .success (value :: values)
  | other => other

def sequenceFrom (index : Nat) : List (Act κ ν (Try κ ν α)) → Act κ ν (Try κ ν (List α))
  | [] => pure (.success [])
  | pull :: rest => do
    let attempt ← pull
    match ← attempt.intoResult with
    | .error capture => stopAt index capture
    | .ok value => consTo value <$> sequenceFrom (index + 1) rest

def sequence (pulls : List (Act κ ν (Try κ ν α))) : Act κ ν (Try κ ν (List α)) :=
  sequenceFrom 0 pulls

def collectFrom (pull : Nat → Act κ ν (Option (Try κ ν α))) :
    (limit : Nat) → (index : Nat) → Act κ ν (Option (Try κ ν (List α)))
  | 0, _ => pure none
  | limit + 1, index => do
    match ← pull index with
    | none => pure (some (.success []))
    | some attempt =>
      match ← attempt.intoResult with
      | .error capture => some <$> stopAt index capture
      | .ok value => Option.map (consTo value) <$> collectFrom pull limit (index + 1)

end OutcomeAlgebra.Try
