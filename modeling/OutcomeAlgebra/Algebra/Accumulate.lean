import OutcomeAlgebra.Algebra.Monoid
import OutcomeAlgebra.Either.Basic
/-! Combining eithers so that every `left` is kept: rights combine with rights and
lefts with lefts, and a `left` beside a `right` wins. -/
namespace OutcomeAlgebra

variable {m : Type → Type} [Monad m] {L R : Type}

def SemigroupOp.accumulate (left : SemigroupOp m L) (right : SemigroupOp m R) :
    SemigroupOp m (Either L R) where
  append
    | .right a, .right b => Either.right <$> right.append a b
    | .left a, .left b => Either.left <$> left.append a b
    | .left a, .right _ => pure (.left a)
    | .right _, .left b => pure (.left b)

def MonoidOp.accumulate (left : SemigroupOp m L) (right : MonoidOp m R) :
    MonoidOp m (Either L R) :=
  .of (left.accumulate right.toSemigroupOp) (Either.right <$> right.empty)

end OutcomeAlgebra
