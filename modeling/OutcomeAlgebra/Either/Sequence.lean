import OutcomeAlgebra.Either.Basic
/-! The right values of many eithers. An element is a program, so that pulling it
can be told from having it: elements behind the first `left` are never pulled. -/
namespace OutcomeAlgebra.Either

variable {L R : Type} {m : Type → Type} [Monad m]

def sequence : List (m (Either L R)) → m (Either L (List R))
  | [] => pure (.right [])
  | pull :: rest => do
    match ← pull with
    | .left value => pure (.left value)
    | .right value =>
      match ← sequence rest with
      | .left value => pure (.left value)
      | .right values => pure (.right (value :: values))

/-- Collects from a source that may never end. `none` says that `limit` pulls did
not decide the answer; more pulls never change an answer that is there. -/
def collectFrom (pull : Nat → m (Option (Either L R))) :
    (limit : Nat) → (index : Nat) → m (Option (Either L (List R)))
  | 0, _ => pure none
  | limit + 1, index => do
    match ← pull index with
    | none => pure (some (.right []))
    | some (.left value) => pure (some (.left value))
    | some (.right value) =>
      match ← collectFrom pull limit (index + 1) with
      | none => pure none
      | some (.left value) => pure (some (.left value))
      | some (.right values) => pure (some (.right (value :: values)))

end OutcomeAlgebra.Either
