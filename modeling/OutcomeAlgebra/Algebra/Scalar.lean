import OutcomeAlgebra.Algebra.Monoid
/-! The monoids on numbers, truth values, strings and lists. Words of a fixed width
wrap around; doubles follow their own addition and multiplication, of which no
law is claimed. Strings and lists join in one pass. -/
namespace OutcomeAlgebra.MonoidOp

variable {m : Type → Type} [Monad m] {α : Type}

def ofFunction (f : α → α → α) (identity : α) : MonoidOp m α :=
  of ⟨fun a b => pure (f a b)⟩ (pure identity)

def wordSum (width : Nat) : MonoidOp m (BitVec width) := ofFunction (· + ·) 0

def wordProduct (width : Nat) : MonoidOp m (BitVec width) := ofFunction (· * ·) 1

def integerSum : MonoidOp m Int := ofFunction (· + ·) 0

def integerProduct : MonoidOp m Int := ofFunction (· * ·) 1

def doubleSum : MonoidOp m Float := ofFunction (· + ·) 0.0

def doubleProduct : MonoidOp m Float := ofFunction (· * ·) 1.0

def all : MonoidOp m Bool := ofFunction and true

def any : MonoidOp m Bool := ofFunction or false

def odd : MonoidOp m Bool := ofFunction xor false

def unit : MonoidOp m Unit := ofFunction (fun _ _ => ()) ()

def string : MonoidOp m String :=
  { ofFunction (· ++ ·) "" with join := fun values => pure (String.join values) }

def list : MonoidOp m (List α) :=
  { ofFunction (· ++ ·) [] with join := fun values => pure values.flatten }

end OutcomeAlgebra.MonoidOp
