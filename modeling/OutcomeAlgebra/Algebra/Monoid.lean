import OutcomeAlgebra.Algebra.Semigroup
/-! Combining operations with an identity, and what can be folded with them. An
operation may bring a `join` of its own; `MonoidOp.of` gives it the left fold
from the identity. -/
namespace OutcomeAlgebra

structure MonoidOp (m : Type → Type) (α : Type) extends SemigroupOp m α where
  empty : m α
  join : List α → m α

namespace MonoidOp

variable {m : Type → Type} [Monad m] {α β : Type}

def foldJoin (op : SemigroupOp m α) (empty : m α) (values : List α) : m α := do
  let start ← empty
  values.foldlM op.append start

def of (op : SemigroupOp m α) (empty : m α) : MonoidOp m α :=
  ⟨op, empty, foldJoin op empty⟩

/-- The same operation, used through a reference: its own `join` is not seen. -/
def byReference (monoid : MonoidOp m α) : MonoidOp m α := of monoid.toSemigroupOp monoid.empty

def multiply [MonadExceptOf Panic m] (monoid : MonoidOp m α) (copy : Copying m α)
    (value : α) (count : Nat) : m α :=
  if count = 0 then monoid.empty else monoid.appendN copy value count

def appendSeparated (op : SemigroupOp m α) (copy : Copying m α) :
    (values : List α) → (separator result : α) → m α
  | [], _, result => pure result
  | value :: values, separator, result => do
    let (again, separator) ← copy separator
    let result ← op.append result again
    let result ← op.append result value
    appendSeparated op copy values separator result

def intersperse (monoid : MonoidOp m α) (copy : Copying m α) (separator : α) :
    List α → m α
  | [] => monoid.empty
  | first :: rest => appendSeparated monoid.toSemigroupOp copy rest separator first

def compose (first : MonoidOp m α) (second : MonoidOp m β) : MonoidOp m (α × β) :=
  of (first.toSemigroupOp.pair second.toSemigroupOp) do
    let left ← first.empty
    let right ← second.empty
    pure (left, right)

def firstSome : MonoidOp m (Option α) := of .firstSome (pure none)

def lastSome : MonoidOp m (Option α) := of .lastSome (pure none)

def optional (inner : SemigroupOp m α) : MonoidOp m (Option α) :=
  of inner.optional (pure none)

end MonoidOp

end OutcomeAlgebra
