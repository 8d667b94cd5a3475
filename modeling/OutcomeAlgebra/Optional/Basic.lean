import OutcomeAlgebra.Either.Basic
/-! What optional values have beyond the core library: folding both cases, a `get`
that says what was missing, conversion to `Either`, and the combinators that
they share with the other outcomes. -/
namespace OutcomeAlgebra.Optional

variable {A B C L : Type} {m : Type → Type} [Monad m]

def fold (onNone : m B) (onSome : A → m B) : Option A → m B
  | none => onNone
  | some value => onSome value

def get : Option A → Except EmptyValue A
  | none => .error .none
  | some value => .ok value

def getOrElse (supplier : m A) : Option A → m A
  | none => supplier
  | some value => pure value

def toEither (supplier : m L) : Option A → m (Either L A)
  | none => Either.left <$> supplier
  | some value => pure (.right value)

def map (f : A → m B) : Option A → m (Option B)
  | none => pure none
  | some value => some <$> f value

def flatMap (f : A → m (Option B)) : Option A → m (Option B)
  | none => pure none
  | some value => f value

def filter (predicate : StateT A m Bool) : Option A → m (Option A)
  | none => pure none
  | some value => do
    let (accepted, value) ← predicate value
    pure (if accepted then some value else none)

def map2 (f : A → B → m C) : Option A → Option B → m (Option C)
  | some a, some b => some <$> f a b
  | _, _ => pure none

end OutcomeAlgebra.Optional
