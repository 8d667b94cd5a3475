import OutcomeAlgebra.Algebra.Monoid
/-! Combining functions: point by point with an inner operation, or one behind the
other. Combining runs neither function; only applying the result does. -/
namespace OutcomeAlgebra

variable {m : Type → Type} [Monad m] {χ β α : Type}

def SemigroupOp.pointwise (copy : Copying m χ) (inner : SemigroupOp m β) :
    SemigroupOp m (χ → m β) where
  append f g := pure fun x => do
    let (again, x) ← copy x
    let left ← f again
    let right ← g x
    inner.append left right

def MonoidOp.pointwise (copy : Copying m χ) (inner : MonoidOp m β) :
    MonoidOp m (χ → m β) :=
  .of (inner.toSemigroupOp.pointwise copy) (pure fun _ => inner.empty)

def SemigroupOp.composition : SemigroupOp m (α → m α) where
  append f g := pure fun x => do
    let y ← f x
    g y

def MonoidOp.composition : MonoidOp m (α → m α) :=
  .of .composition (pure fun x => pure x)

end OutcomeAlgebra
