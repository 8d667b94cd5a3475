import OutcomeAlgebra.Act.Basic
import OutcomeAlgebra.Failure.Empty
/-! A value that is one of two alternatives. `right` is the successful one: `map`,
`flatMap` and `filter` work on it and leave a `left` alone. Callbacks are
programs of any monad, so an equation between two operations also says which
callbacks run, on what, and in which order. -/
namespace OutcomeAlgebra

inductive Either (L R : Type) where
  | left (value : L)
  | right (value : R)
  deriving DecidableEq, Repr

namespace Either

variable {L R S T : Type} {m : Type → Type}

def isLeft : Either L R → Bool
  | .left _ => true
  | .right _ => false

def isRight : Either L R → Bool
  | .left _ => false
  | .right _ => true

def left? : Either L R → Option L
  | .left value => some value
  | .right _ => none

def right? : Either L R → Option R
  | .left _ => none
  | .right value => some value

def toOptions : Either L R → Option L × Option R
  | .left value => (some value, none)
  | .right value => (none, some value)

def toList : Either L R → List R
  | .left _ => []
  | .right value => [value]

def get : Either L R → Except EmptyValue R
  | .left _ => .error .left
  | .right value => .ok value

def toExcept : Either L R → Except L R
  | .left value => .error value
  | .right value => .ok value

def ofExcept : Except L R → Either L R
  | .error value => .left value
  | .ok value => .right value

theorem toExceptOfExcept (result : Except L R) : (ofExcept result).toExcept = result := by
  cases result <;> rfl

def swap : Either L R → Either R L
  | .left value => .right value
  | .right value => .left value

theorem swapSwap (either : Either L R) : either.swap.swap = either := by
  cases either <;> rfl

def leftOrDefault [Inhabited L] : Either L R → L
  | .left value => value
  | .right _ => default

def rightOrDefault [Inhabited R] : Either L R → R
  | .left _ => default
  | .right value => value

def joinLeft : Either (Either L R) R → Either L R
  | .left inner => inner
  | .right value => .right value

def flatten : Either L (Either L R) → Either L R
  | .left value => .left value
  | .right inner => inner

section Callbacks

variable [Monad m]

def getOrElse (either : Either L R) (supplier : m R) : m R :=
  match either with
  | .left _ => supplier
  | .right value => pure value

def mapLeft (either : Either L R) (f : L → m S) : m (Either S R) :=
  match either with
  | .left value => Either.left <$> f value
  | .right value => pure (.right value)

def mapRight (either : Either L R) (f : R → m S) : m (Either L S) :=
  match either with
  | .left value => pure (.left value)
  | .right value => Either.right <$> f value

def map (either : Either L R) (f : R → m S) : m (Either L S) := either.mapRight f

def bimap (either : Either L R) (f : L → m S) (g : R → m T) : m (Either S T) :=
  match either with
  | .left value => Either.left <$> f value
  | .right value => Either.right <$> g value

def fold (either : Either L R) (f : L → m S) (g : R → m S) : m S :=
  match either with
  | .left value => f value
  | .right value => g value

def flatMap (either : Either L R) (f : R → m (Either L S)) : m (Either L S) :=
  match either with
  | .left value => pure (.left value)
  | .right value => f value

def filter (either : Either L R) (predicate : StateT R m Bool) (supplier : m L) :
    m (Either L R) :=
  match either with
  | .left value => pure (.left value)
  | .right value => do
    let (accepted, value) ← predicate value
    if accepted then pure (.right value) else Either.left <$> supplier

def map2 (first : Either L R) (second : Either L S) (f : R → S → m T) : m (Either L T) :=
  match first, second with
  | .right a, .right b => Either.right <$> f a b
  | .left value, _ => pure (.left value)
  | .right _, .left value => pure (.left value)

variable [MonadExceptOf Panic m]

def unwrapLeft : Either L R → m L
  | .left value => pure value
  | .right _ => throw .leftOfRight

def unwrapRight : Either L R → m R
  | .left _ => throw .rightOfLeft
  | .right value => pure value

end Callbacks

end Either

end OutcomeAlgebra
